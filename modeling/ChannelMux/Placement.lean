/-!
Contract: where in a pipeline a stage goes.

Owns the two sides of a neighbor and the placement that names a side and perhaps a
neighbor. Without a neighbor, above means the top of the pipeline and below its bottom.
-/

namespace ChannelMux

inductive Side where
  | above
  | below
deriving DecidableEq, Repr, Inhabited

namespace Side

def name : Side → String
  | .above => "above"
  | .below => "below"

/-- The side with exactly this name. -/
def ofName? (text : String) : Option Side :=
  if text = "above" then some .above
  else if text = "below" then some .below
  else none

end Side

/-- Where a stage goes: beside the first stage from the bottom that bears the neighbor's
name, or at an end of the pipeline. -/
structure Placement where
  side : Side := .above
  neighbor? : Option String := none
deriving DecidableEq, Repr, Inhabited

namespace Placement

def above (neighbor : String) : Placement := ⟨.above, some neighbor⟩

def below (neighbor : String) : Placement := ⟨.below, some neighbor⟩

def top : Placement := ⟨.above, none⟩

/-- The index at which a stage so placed is inserted among stages with these names,
listed bottom first; a neighbor that is not there has none. -/
def index? (placement : Placement) (names : List String) : Option Nat :=
  match placement.neighbor? with
  | none =>
      match placement.side with
      | .above => some names.length
      | .below => some 0
  | some neighbor =>
      (names.findIdx? (fun name => name == neighbor)).map fun index =>
        match placement.side with
        | .above => index + 1
        | .below => index

end Placement

end ChannelMux
