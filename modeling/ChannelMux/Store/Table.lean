/-!
Contract: tables of things that refer to each other.

Owns references, one kind of them per kind of thing, and tables that issue them. A slot of
a table holds a thing, the names by which its holders know it, and the names by which it can
be called; a name stands for one thing alone, the last one that got it. A thing that nobody
names may still be in use by others, which is for the owner of the tables to say.

Reading through a reference that was never issued gives the default thing.
-/

namespace ChannelMux

/-- The kinds of things that are referred to. -/
inductive Kind where
  | pipeline
  | stage
  | agent
  | node
  | stack
  | fork
deriving DecidableEq, Repr

/-- A reference to a thing of one kind. -/
structure Ref (kind : Kind) where
  index : Nat
deriving DecidableEq, Repr

/-- A thing, and its names, oldest first. -/
structure Slot (α : Type) where
  content : α
  /-- The names by which its holders know it. -/
  names : List String := []
  /-- The names by which it can be called, whether anyone still holds it by them or not. -/
  calls : List String := []

/-- Things of one kind, in the order in which they were made. -/
structure Table (kind : Kind) (α : Type) where
  slots : Array (Slot α) := #[]

namespace Table

variable {kind : Kind} {α : Type}

instance : Inhabited (Table kind α) := ⟨{}⟩

/-- The reference that the next thing gets. -/
def next (table : Table kind α) : Ref kind := ⟨table.slots.size⟩

def refs (table : Table kind α) : List (Ref kind) :=
  (List.range table.slots.size).map Ref.mk

def get [Inhabited α] (table : Table kind α) (ref : Ref kind) : α :=
  match table.slots[ref.index]? with
  | some slot => slot.content
  | none => default

/-- Adds a thing, which `next` refers to from then on. -/
def add (table : Table kind α) (content : α) : Table kind α :=
  ⟨table.slots.push { content := content }⟩

/-- Changes the thing that a reference refers to. -/
def modify (table : Table kind α) (ref : Ref kind) (change : α → α) : Table kind α :=
  ⟨table.slots.modify ref.index (fun slot => { slot with content := change slot.content })⟩

/-- The names by which a thing is known, oldest first. -/
def namesOf (table : Table kind α) (ref : Ref kind) : List String :=
  match table.slots[ref.index]? with
  | some slot => slot.names
  | none => []

def isNamed (table : Table kind α) (ref : Ref kind) : Bool :=
  !(table.namesOf ref).isEmpty

def named? (table : Table kind α) (name : String) : Option (Ref kind) :=
  (table.slots.findIdx? (fun slot => slot.names.contains name)).map Ref.mk

/-- The thing that was the last to get a name. -/
def called? (table : Table kind α) (name : String) : Option (Ref kind) :=
  (table.slots.findIdx? (fun slot => slot.calls.contains name)).map Ref.mk

/-- Forgets a name. What was known by it can still be called by it. -/
def forget (table : Table kind α) (name : String) : Table kind α :=
  ⟨table.slots.map (fun slot => { slot with names := slot.names.filter (· != name) })⟩

/-- Takes a name from everything, so that it can be given to something else. A slot without
the name is left as it is. -/
def release (table : Table kind α) (name : String) : Table kind α :=
  ⟨table.slots.map (fun slot =>
    if slot.names.contains name || slot.calls.contains name then
      { slot with
        names := slot.names.filter (· != name)
        calls := slot.calls.filter (· != name) }
    else slot)⟩

/-- Knows a thing by a name, which stands for nothing else from then on. -/
def name (table : Table kind α) (ref : Ref kind) (name : String) : Table kind α :=
  ⟨(table.release name).slots.modify ref.index (fun slot => { slot with
    names := slot.names ++ [name]
    calls := slot.calls ++ [name] })⟩

end Table

end ChannelMux
