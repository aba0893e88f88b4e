import ChannelMux.Json.Printing
import ChannelMux.Json.Reading

/-!
Contract: a document that has been written is read back.

Owns the tokens of a document, and the documents whose numbers count something and whose strings
and keys are texts. Such a document is written by its tokens, compact or indented: the scanner
finds these, up to a character that ends a number. And it is built of its tokens, so that reading
gives back what was written. Owns that a number that counts is read as what it counts.

Does not own the reading of texts that are written in other ways.
-/

namespace ChannelMux.Json

mutual

/-- The tokens of a document. -/
def tokens : Json → List Token
  | .null => [.null]
  | .boolean value => [.boolean value]
  | .number spelling => [.number spelling]
  | .string text? => [.string text?]
  | .array items => .openArray :: [Token.comma].intercalate (itemTokens items) ++ [.closeArray]
  | .object members =>
      .openObject :: [Token.comma].intercalate (memberTokens members) ++ [.closeObject]

def itemTokens : List Json → List (List Token)
  | [] => []
  | item :: rest => tokens item :: itemTokens rest

def memberTokens : List (Option String × Json) → List (List Token)
  | [] => []
  | (key?, value) :: rest => (.string key? :: .colon :: tokens value) :: memberTokens rest

end

/-- A document whose numbers count something, and whose strings and keys are texts. -/
inductive Plain : Json → Prop where
  | null : Plain .null
  | boolean (value : Bool) : Plain (.boolean value)
  | count (value : Nat) : Plain (.count value)
  | text (value : String) : Plain (.text value)
  | array {items : List Json} (plain : ∀ item ∈ items, Plain item) : Plain (.array items)
  | ofMembers {members : List (String × Json)} (plain : ∀ member ∈ members, Plain member.2) :
      Plain (.ofMembers members)

theorem itemTokens_eq (items : List Json) : itemTokens items = items.map tokens := by
  induction items with
  | nil => rfl
  | cons item rest inductionHypothesis => rw [itemTokens, inductionHypothesis, List.map_cons]

theorem memberTokens_eq (members : List (Option String × Json)) :
    memberTokens members =
      members.map fun member => .string member.1 :: .colon :: tokens member.2 := by
  induction members with
  | nil => rfl
  | cons member rest inductionHypothesis =>
      rw [memberTokens, inductionHypothesis, List.map_cons]

theorem renderItems_eq (level? : Option Nat) (items : List Json) :
    renderItems level? items = items.map (render level?) := by
  induction items with
  | nil => rfl
  | cons item rest inductionHypothesis => rw [renderItems, inductionHypothesis, List.map_cons]

theorem renderMembers_eq (level? : Option Nat) (members : List (Option String × Json)) :
    renderMembers level? members = members.map fun member =>
      quote (member.1.getD "") ++ (if level?.isSome then ": " else ":") ++
        render level? member.2 := by
  induction members with
  | nil => rfl
  | cons member rest inductionHypothesis =>
      rw [renderMembers, inductionHypothesis, List.map_cons]

/-! ### Scanning -/

/-- What a scanner makes of characters, up to their end. -/
def scan (scanner : Scanner) (characters : List Char) : Option (List Token) := do
  (← characters.foldlM Scanner.step scanner).finish?

theorem scan_cons (scanner : Scanner) (character : Char) (rest : List Char) :
    scan scanner (character :: rest) =
      (scanner.step character).bind fun next => scan next rest := by
  unfold scan
  rw [List.foldlM_cons]
  exact Option.bind_assoc ..

/-- Characters in front of which a number ends. -/
def EndsNumber (rest : List Char) : Prop :=
  ∀ character ∈ rest.head?, character.isDigit = false ∧ character ≠ '.' ∧
    character ≠ 'e' ∧ character ≠ 'E'

/-- Tokens are written as a text in front of whatever ends a number. -/
def Spells (writing : String) (tokens : List Token) : Prop :=
  ∀ reversed rest, EndsNumber rest →
    scan ⟨.between, reversed⟩ (writing.toList ++ rest) =
      scan ⟨.between, tokens.reverse ++ reversed⟩ rest

section Scanning

variable {reversed : List Token} {rest : List Char}

theorem scan_ended
    {part : NumberPart}
    {read : List Char}
    (ends : EndsNumber rest)
    (whole : part = .zero ∨ part = .integer) :
    scan ⟨.number part read, reversed⟩ rest =
      scan ⟨.between, .number (String.ofList read.reverse) :: reversed⟩ rest := by
  cases rest with
  | nil => rcases whole with rfl | rfl <;> rfl
  | cons character rest =>
      obtain ⟨noDigit, noPoint, noMark, noCapital⟩ := ends character rfl
      rw [scan_cons, scan_cons]
      rcases whole with rfl | rfl <;>
        simp [Scanner.step, NumberPart.next?, NumberPart.mayEnd, Scanner.emit, *]

theorem scan_digits
    {digits read : List Char}
    (areDigits : ∀ digit ∈ digits, digit.isDigit = true)
    (ends : EndsNumber rest) :
    scan ⟨.number .integer read, reversed⟩ (digits ++ rest) =
      scan ⟨.between, .number (String.ofList (read.reverse ++ digits)) :: reversed⟩ rest := by
  induction digits generalizing read with
  | nil =>
      rw [List.nil_append, List.append_nil]
      exact scan_ended ends (Or.inr rfl)
  | cons digit digits inductionHypothesis =>
      have isDigit := areDigits digit List.mem_cons_self
      have goesOn : Scanner.step ⟨.number .integer read, reversed⟩ digit =
          some ⟨.number .integer (digit :: read), reversed⟩ := by
        simp [Scanner.step, NumberPart.next?, isDigit]
      rw [List.cons_append, scan_cons, goesOn, Option.bind_some,
        inductionHypothesis fun other member => areDigits other (List.mem_cons_of_mem _ member)]
      simp

/-- A number other than zero begins with a digit other than zero. -/
theorem toDigits_head {value : Nat} (positive : 0 < value) :
    ∃ digit others, 0 < digit ∧ digit < 10 ∧
      Nat.toDigits 10 value = digit.digitChar :: others := by
  induction value using Nat.strongRecOn with
  | ind value inductionHypothesis =>
      rw [Nat.toDigits_eq_if (by decide)]
      split
      · rename_i small
        exact ⟨value, [], positive, small, rfl⟩
      · obtain ⟨digit, others, above, below, same⟩ :=
          inductionHypothesis (value / 10) (by omega) (by omega)
        refine ⟨digit, others ++ [(value % 10).digitChar], above, below, ?_⟩
        rw [same, List.cons_append]

theorem step_digit {digit : Nat} (positive : 0 < digit) (below : digit < 10) :
    Scanner.step ⟨.between, reversed⟩ digit.digitChar =
      some ⟨.number .integer [digit.digitChar], reversed⟩ := by
  have isOne : ∀ digit < 10, 0 < digit →
      digit.digitChar ∈ ['1', '2', '3', '4', '5', '6', '7', '8', '9'] := by decide
  have member := isOne digit below positive
  simp only [List.mem_cons, List.not_mem_nil, or_false] at member
  rcases member with same | same | same | same | same | same | same | same | same <;>
    rw [same] <;> rfl

theorem scan_count (value : Nat) (ends : EndsNumber rest) :
    scan ⟨.between, reversed⟩ ((toString value).toList ++ rest) =
      scan ⟨.between, .number (toString value) :: reversed⟩ rest := by
  rw [Nat.toString_eq_repr, Nat.repr_eq_ofList_toDigits, String.toList_ofList]
  rcases Nat.eq_zero_or_pos value with rfl | positive
  · exact scan_ended ends (Or.inl rfl)
  · obtain ⟨digit, others, above, below, same⟩ := toDigits_head positive
    have areDigits : ∀ other ∈ others, other.isDigit = true := by
      intro other member
      have listed : other ∈ Nat.toDigits 10 value := by
        rw [same]
        exact List.mem_cons_of_mem _ member
      exact Nat.isDigit_of_mem_toDigits (by decide) (by decide) listed
    rw [same, List.cons_append, scan_cons, step_digit above below, Option.bind_some,
      scan_digits areDigits ends]
    rfl

theorem spells_count (value : Nat) : Spells (toString value) [.number (toString value)] :=
  fun _ _ ends => scan_count value ends

theorem hexValue?_digit : ∀ value < 16, Scanner.hexValue? (Hex.digit value) = some value := by
  decide

/-- A control character is read back from its number. -/
theorem scan_control {code : Nat} (control : code < 0x20) (read : List Char) :
    scan ⟨.string ⟨read, none, false⟩, reversed⟩
        (("\\u00" ++ Hex.encode [UInt8.ofNat code]).toList ++ rest) =
      scan ⟨.string ⟨Char.ofNat code :: read, none, false⟩, reversed⟩ rest := by
  have octet : (UInt8.ofNat code).toNat = code :=
    UInt8.toNat_ofNat_of_lt' (Nat.lt_trans control (by decide))
  have spelled : ("\\u00" ++ Hex.encode [UInt8.ofNat code]).toList =
      ['\\', 'u', '0', '0', Hex.digit (code / 16), Hex.digit (code % 16)] := by
    unfold Hex.encode Hex.digits
    rw [String.toList_append, List.flatMap_singleton, octet]
    exact congrArg (['\\', 'u', '0', '0'] ++ ·) String.toList_ofList
  have opened (tail : List Char) :
      scan ⟨.string ⟨read, none, false⟩, reversed⟩ ('\\' :: 'u' :: '0' :: '0' :: tail) =
        scan ⟨.unit ⟨read, none, false⟩ 2 0, reversed⟩ tail := rfl
  have high : Scanner.step ⟨.unit ⟨read, none, false⟩ 2 0, reversed⟩ (Hex.digit (code / 16)) =
      some ⟨.unit ⟨read, none, false⟩ 1 (code / 16), reversed⟩ := by
    simp [Scanner.step, hexValue?_digit (code / 16) (by omega)]
  have low : Scanner.step ⟨.unit ⟨read, none, false⟩ 1 (code / 16), reversed⟩
      (Hex.digit (code % 16)) =
        some ⟨.string (Fragment.pushUnit ⟨read, none, false⟩ code), reversed⟩ := by
    have whole : code / 16 * 16 + code % 16 = code := by omega
    simp [Scanner.step, hexValue?_digit (code % 16) (by omega), whole]
  have pushed : Fragment.pushUnit ⟨read, none, false⟩ code =
      ⟨Char.ofNat code :: read, none, false⟩ := by
    unfold Fragment.pushUnit
    rw [if_neg (by omega), if_neg (by omega)]
    rfl
  rw [spelled]
  simp only [List.cons_append, List.nil_append]
  rw [opened, scan_cons, high, Option.bind_some, scan_cons, low, Option.bind_some, pushed]

/-- Behind the escape of a character the scanner has read the character. -/
theorem scan_escape (character : Char) (read : List Char) :
    scan ⟨.string ⟨read, none, false⟩, reversed⟩ ((escape character).toList ++ rest) =
      scan ⟨.string ⟨character :: read, none, false⟩, reversed⟩ rest := by
  unfold escape
  split
  · rfl
  · rfl
  · rfl
  · rfl
  · rfl
  · rfl
  · rfl
  · split
    · rename_i control
      refine (scan_control control read).trans ?_
      rw [Char.ofNat_toNat]
    · rename_i noQuote noBackslash _ _ _ _ _ printable
      have pushes : Scanner.step ⟨.string ⟨read, none, false⟩, reversed⟩ character =
          some ⟨.string ⟨character :: read, none, false⟩, reversed⟩ := by
        simp only [Scanner.step, if_neg noQuote, if_neg noBackslash, if_neg printable]
        rfl
      rw [String.toList_singleton, List.singleton_append, scan_cons, pushes, Option.bind_some]

theorem scan_escapes (characters read : List Char) :
    scan ⟨.string ⟨read, none, false⟩, reversed⟩
        (characters.flatMap (fun character => (escape character).toList) ++ rest) =
      scan ⟨.string ⟨characters.reverse ++ read, none, false⟩, reversed⟩ rest := by
  induction characters generalizing read with
  | nil => rfl
  | cons character others inductionHypothesis =>
      rw [List.flatMap_cons, List.append_assoc, scan_escape, inductionHypothesis]
      simp

theorem scan_quote (text : String) :
    scan ⟨.between, reversed⟩ ((quote text).toList ++ rest) =
      scan ⟨.between, .string (some text) :: reversed⟩ rest := by
  have written : (quote text).toList =
      '"' :: text.toList.flatMap (fun character => (escape character).toList) ++ ['"'] := by
    unfold quote
    rw [String.toList_append, String.toList_append, String.toList_join, List.flatMap_map]
    rfl
  have opened (tail : List Char) :
      scan ⟨.between, reversed⟩ ('"' :: tail) = scan ⟨.string ⟨[], none, false⟩, reversed⟩ tail :=
    rfl
  have closed (tail : List Char) :
      scan ⟨.string ⟨text.toList.reverse, none, false⟩, reversed⟩ ('"' :: tail) =
        scan ⟨.between, .string (some (String.ofList text.toList.reverse.reverse)) :: reversed⟩
          tail := rfl
  rw [written, List.cons_append, List.cons_append, opened, List.append_assoc, scan_escapes,
    List.append_nil, List.singleton_append, closed, List.reverse_reverse, String.ofList_toList]

theorem toList_pushn (text : String) (character : Char) (count : Nat) :
    (text.pushn character count).toList = text.toList ++ List.replicate count character := by
  induction count with
  | zero => simp [String.pushn, Nat.repeat]
  | succ count inductionHypothesis =>
      unfold String.pushn at inductionHypothesis ⊢
      rw [Nat.repeat, String.toList_push, inductionHypothesis, List.append_assoc,
        List.replicate_succ']

theorem scan_blanks
    {blanks : List Char}
    (blank : ∀ character ∈ blanks, character = ' ' ∨ character = '\n') :
    scan ⟨.between, reversed⟩ (blanks ++ rest) = scan ⟨.between, reversed⟩ rest := by
  induction blanks with
  | nil => rfl
  | cons character others inductionHypothesis =>
      have skipped : Scanner.step ⟨.between, reversed⟩ character = some ⟨.between, reversed⟩ := by
        rcases blank character List.mem_cons_self with rfl | rfl <;> rfl
      rw [List.cons_append, scan_cons, skipped, Option.bind_some]
      exact inductionHypothesis fun other member => blank other (List.mem_cons_of_mem _ member)

theorem lineBreak_blank (level? : Option Nat) :
    ∀ character ∈ (lineBreak level?).toList, character = ' ' ∨ character = '\n' := by
  intro character member
  cases level? with
  | none => cases member
  | some level =>
      unfold lineBreak at member
      rw [String.toList_append, toList_pushn] at member
      rcases List.mem_append.mp member with first | others
      · exact Or.inr (List.mem_singleton.mp first)
      · exact Or.inl (List.eq_of_mem_replicate others)

theorem endsNumber_append
    {blanks : List Char}
    (blank : ∀ character ∈ blanks, character = ' ' ∨ character = '\n')
    (ends : EndsNumber rest) :
    EndsNumber (blanks ++ rest) := by
  cases blanks with
  | nil => exact ends
  | cons character others =>
      intro first isFirst
      cases isFirst
      rcases blank character List.mem_cons_self with rfl | rfl <;> decide

end Scanning

/-- Items between commas. -/
theorem spells_intercalate
    {α : Type}
    {items : List α}
    {write : α → String}
    {spell : α → List Token}
    (level? : Option Nat)
    (each : ∀ item ∈ items, Spells (write item) (spell item)) :
    Spells (("," ++ lineBreak level?).intercalate (items.map write))
      ([Token.comma].intercalate (items.map spell)) := by
  induction items with
  | nil => exact fun _ _ _ => rfl
  | cons item others inductionHypothesis =>
      have onward := inductionHypothesis fun other member =>
        each other (List.mem_cons_of_mem _ member)
      cases others with
      | nil =>
          rw [List.map_singleton, List.map_singleton, String.intercalate_singleton,
            List.intercalate_singleton]
          exact each item List.mem_cons_self
      | cons next others =>
          intro reversed rest ends
          have comma (reversed : List Token) (tail : List Char) :
              scan ⟨.between, reversed⟩ (("," ++ lineBreak level?).toList ++ tail) =
                scan ⟨.between, .comma :: reversed⟩ tail := by
            rw [String.toList_append, List.append_assoc]
            exact scan_blanks (lineBreak_blank level?)
          have atComma (tail : List Char) :
              EndsNumber (("," ++ lineBreak level?).toList ++ tail) := by
            intro first isFirst
            rw [String.toList_append] at isFirst
            cases isFirst
            decide
          rw [List.map_cons, List.map_cons, String.intercalate_cons_cons, List.map_cons,
            List.map_cons, List.intercalate_cons_cons, String.toList_append,
            String.toList_append, List.append_assoc, List.append_assoc,
            each item List.mem_cons_self reversed _ (atComma _), comma]
          refine (onward _ rest ends).trans ?_
          simp

/-- Items between brackets. -/
theorem spells_enclose
    {α : Type}
    {items : List α}
    {write : α → String}
    {spell : α → List Token}
    {opening closing : String}
    {first last : Token}
    (level? : Option Nat)
    (opens : ∀ reversed rest, scan ⟨.between, reversed⟩ (opening.toList ++ rest) =
      scan ⟨.between, first :: reversed⟩ rest)
    (closes : ∀ reversed rest, scan ⟨.between, reversed⟩ (closing.toList ++ rest) =
      scan ⟨.between, last :: reversed⟩ rest)
    (ends : ∀ rest, EndsNumber (closing.toList ++ rest))
    (each : ∀ item ∈ items, Spells (write item) (spell item)) :
    Spells (enclose opening closing level? (items.map write))
      (first :: [Token.comma].intercalate (items.map spell) ++ [last]) := by
  intro reversed rest _
  cases items with
  | nil =>
      change scan _ ((opening ++ closing).toList ++ rest) = _
      rw [String.toList_append, List.append_assoc, opens, closes]
      rfl
  | cons item others =>
      have inside := spells_intercalate (level?.map (· + 1)) each
      have written : enclose opening closing level? ((item :: others).map write) =
          opening ++ lineBreak (level?.map (· + 1)) ++
            ("," ++ lineBreak (level?.map (· + 1))).intercalate ((item :: others).map write) ++
              lineBreak level? ++ closing := rfl
      rw [written]
      simp only [String.toList_append, List.append_assoc]
      rw [opens, scan_blanks (lineBreak_blank _),
        inside _ _ (endsNumber_append (lineBreak_blank level?) (ends rest)),
        scan_blanks (lineBreak_blank level?), closes]
      simp

theorem spells_member
    {level? : Option Nat}
    {document : Json}
    (key : String)
    (spells : Spells (render level? document) document.tokens) :
    Spells (quote key ++ (if level?.isSome then ": " else ":") ++ render level? document)
      (.string (some key) :: .colon :: document.tokens) := by
  intro reversed rest ends
  have colon (tail : List Char) :
      scan ⟨.between, .string (some key) :: reversed⟩
          ((if level?.isSome then ": " else ":").toList ++ tail) =
        scan ⟨.between, .colon :: .string (some key) :: reversed⟩ tail := by
    cases level? with
    | none => rfl
    | some level =>
        change scan _ (": ".toList ++ tail) = _
        rfl
  rw [String.toList_append, String.toList_append, List.append_assoc, List.append_assoc,
    scan_quote, colon, spells _ _ ends]
  simp

/-- A plain document is written by its tokens. -/
theorem Plain.spells
    {document : Json}
    (plain : document.Plain)
    (level? : Option Nat) :
    Spells (render level? document) document.tokens := by
  induction plain generalizing level? with
  | null =>
      intro reversed rest _
      unfold render tokens
      rfl
  | boolean value =>
      intro reversed rest _
      unfold render tokens
      cases value <;> rfl
  | count value => exact spells_count value
  | text value => exact fun _ _ _ => scan_quote value
  | @array items _ each =>
      unfold tokens render
      rw [itemTokens_eq, renderItems_eq]
      refine spells_enclose level? (fun _ _ => rfl) (fun _ _ => rfl) (fun rest => ?_)
        fun item member => each item member _
      intro first isFirst
      cases isFirst
      decide
  | @ofMembers members _ each =>
      unfold Json.ofMembers tokens render
      rw [memberTokens_eq, renderMembers_eq, List.map_map, List.map_map]
      refine spells_enclose level? (fun _ _ => rfl) (fun _ _ => rfl) (fun rest => ?_)
        fun member isMember => spells_member member.1 (each member isMember _)
      intro first isFirst
      cases isFirst
      decide

/-! ### Building a document -/

/-- Tokens build a value wherever one is expected, also behind the opening bracket of an array. -/
structure Builds (spelled : List Token) (value : Json) : Prop where
  builds : ∀ frames rest, (spelled ++ rest).foldlM Builder.step ⟨.value, frames⟩ =
    rest.foldlM Builder.step (Builder.complete frames value)
  opens : ∀ frames rest, (spelled ++ rest).foldlM Builder.step ⟨.itemOrEnd, frames⟩ =
    (spelled ++ rest).foldlM Builder.step ⟨.value, frames⟩

theorem intercalate_cons
    {α : Type}
    (separator first : List α)
    (others : List (List α)) :
    separator.intercalate (first :: others) = first ++ others.flatMap (separator ++ ·) := by
  induction others generalizing first with
  | nil => rw [List.intercalate_singleton, List.flatMap_nil, List.append_nil]
  | cons next others inductionHypothesis =>
      rw [List.intercalate_cons_cons, inductionHypothesis, List.flatMap_cons, List.append_assoc,
        List.append_assoc]

/-- Behind an item of an array come the others and its end. -/
theorem builds_items
    {items : List Json}
    (each : ∀ item ∈ items, Builds item.tokens item)
    (done : List Json)
    (frames : List Frame)
    (rest : List Token) :
    ((items.map tokens).flatMap ([Token.comma] ++ ·) ++ .closeArray :: rest).foldlM Builder.step
        ⟨.commaOrEnd, .array done :: frames⟩ =
      rest.foldlM Builder.step (Builder.complete frames (.array (done.reverse ++ items))) := by
  induction items generalizing done with
  | nil =>
      rw [List.append_nil]
      rfl
  | cons item others inductionHypothesis =>
      have first := (each item List.mem_cons_self).builds (.array done :: frames)
      have onward := inductionHypothesis
        (fun other member => each other (List.mem_cons_of_mem _ member)) (item :: done)
      rw [List.reverse_cons, List.append_assoc] at onward
      rw [List.map_cons, List.flatMap_cons, List.append_assoc, List.append_assoc]
      exact (first _).trans onward

/-- Behind a member of an object come the others and its end. -/
theorem builds_members
    {members : List (Option String × Json)}
    (each : ∀ member ∈ members, Builds member.2.tokens member.2)
    (done : List (Option String × Json))
    (frames : List Frame)
    (rest : List Token) :
    ((memberTokens members).flatMap ([Token.comma] ++ ·) ++ .closeObject :: rest).foldlM
        Builder.step ⟨.commaOrEnd, .object done none :: frames⟩ =
      rest.foldlM Builder.step (Builder.complete frames (.object (done.reverse ++ members))) := by
  induction members generalizing done with
  | nil =>
      rw [List.append_nil]
      rfl
  | cons member others inductionHypothesis =>
      obtain ⟨key?, value⟩ := member
      have first := (each _ List.mem_cons_self).builds (.object done key? :: frames)
      have onward := inductionHypothesis
        (fun other member => each other (List.mem_cons_of_mem _ member)) ((key?, value) :: done)
      rw [List.reverse_cons, List.append_assoc] at onward
      rw [memberTokens, List.flatMap_cons, List.append_assoc, List.append_assoc]
      exact (first _).trans onward

/-- A plain document is built of its tokens. -/
theorem Plain.builds {document : Json} (plain : document.Plain) :
    Builds document.tokens document := by
  induction plain with
  | null => exact ⟨fun _ _ => rfl, fun _ _ => rfl⟩
  | boolean value => exact ⟨fun _ _ => rfl, fun _ _ => rfl⟩
  | count value => exact ⟨fun _ _ => rfl, fun _ _ => rfl⟩
  | text value => exact ⟨fun _ _ => rfl, fun _ _ => rfl⟩
  | @array items _ each =>
      refine ⟨fun frames rest => ?_, fun _ _ => rfl⟩
      unfold tokens
      cases items with
      | nil => rfl
      | cons item others =>
          have first := each item List.mem_cons_self
          have onward := builds_items
            (fun other member => each other (List.mem_cons_of_mem _ member)) [item] frames rest
          rw [itemTokens_eq, List.map_cons, intercalate_cons, List.cons_append, List.cons_append,
            List.append_assoc, List.append_assoc, List.foldlM_cons]
          exact (first.opens _ _).trans ((first.builds _ _).trans onward)
  | @ofMembers members _ each =>
      refine ⟨fun frames rest => ?_, fun _ _ => rfl⟩
      unfold Json.ofMembers tokens
      cases members with
      | nil => rfl
      | cons member others =>
          have first := each member List.mem_cons_self
          have eachOther (other : Option String × Json)
              (isOther : other ∈ others.map fun member => (some member.1, member.2)) :
              Builds other.2.tokens other.2 := by
            obtain ⟨known, isKnown, rfl⟩ := List.mem_map.mp isOther
            exact each known (List.mem_cons_of_mem _ isKnown)
          have onward := builds_members eachOther [(some member.1, member.2)] frames rest
          rw [List.map_cons, memberTokens, intercalate_cons, List.cons_append, List.cons_append,
            List.append_assoc, List.append_assoc]
          exact (first.builds _ _).trans onward

/-! ### Reading back -/

/-- What is written of a plain document is read back as it, in either form. -/
theorem Plain.ofString?_render
    {document : Json}
    (plain : document.Plain)
    (level? : Option Nat)
    {trailing : String}
    (blank : ∀ character ∈ trailing.toList, character = ' ' ∨ character = '\n') :
    ofString? (render level? document ++ trailing) = some document := by
  have ends : EndsNumber (trailing.toList ++ []) := by
    refine endsNumber_append blank fun character member => ?_
    cases member
  have scanned : tokens? (render level? document ++ trailing) = some document.tokens := by
    change scan ⟨.between, []⟩ (render level? document ++ trailing).toList = _
    rw [String.toList_append, ← List.append_nil trailing.toList, plain.spells level? _ _ ends,
      scan_blanks blank]
    change some (document.tokens.reverse ++ []).reverse = _
    rw [List.append_nil, List.reverse_reverse]
  have built := plain.builds.builds [] []
  rw [List.append_nil] at built
  unfold ofString?
  rw [scanned]
  change ((document.tokens.foldlM Builder.step ⟨.value, []⟩).bind _) = _
  rw [built]
  rfl

/-- What counts something is read as what it counts. -/
theorem natBelow?_count {bound value : Nat} (below : value < bound) :
    (count value).natBelow? bound = some value :=
  Text.decimalBelow?_toString below

end ChannelMux.Json
