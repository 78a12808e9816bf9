import Mathlib.Tactic.Common
import RoutePatterns.Proofs.Matcher.Groups

/-!
# Matchers with numbered slots

A matcher can be laid out as two lists: parts that are text or the number of a slot, and the slots.
One loop over the tokens makes both (`Layout.add`). It joins text to the text before it and numbers
a slot by how many there are. The loop succeeds and fails as reading the parts of a matcher does,
and gives the parts with their slots numbered in order (`Layout.ofTokens_eq`).

So the numbers in a layout are those of its slots, each once and in order
(`Layout.numbers_of`), and building a path by looking up the slots never misses one
(`Layout.build?_of`).
-/

set_option autoImplicit false
set_option relaxedAutoImplicit false

namespace RoutePatterns

/-- A part of a layout. -/
inductive NumberedPart
  /-- Text that stands for itself. -/
  | literal (text : String)
  /-- The place of the slot with a number. -/
  | slot (number : ℕ)
  deriving DecidableEq

/-- Parts that refer to slots by number, and the slots. -/
structure Layout where
  /-- The parts in pattern order. -/
  parts : List NumberedPart
  /-- The slots in the order in which they were made. -/
  slots : List Slot

/-! ### The loop over tokens -/

namespace NumberedPart

/-- Puts text behind parts. It joins the last part if that one is text. -/
def appendText (text : String) (parts : List NumberedPart) : List NumberedPart :=
  match parts.getLast? with
  | some (.literal existing) => parts.dropLast ++ [.literal (existing ++ text)]
  | _ => parts ++ [.literal text]

/-- The parts of a matcher with numbers from `number` on in place of the slots. -/
def numberFrom (number : ℕ) : List Part → List NumberedPart
  | [] => []
  | .literal text :: parts => .literal text :: numberFrom number parts
  | .param _ :: parts => .slot number :: numberFrom (number + 1) parts

/-- The number that the part refers to, if it is a slot. -/
def number? : NumberedPart → Option ℕ
  | .literal _ => none
  | .slot number => some number

end NumberedPart

namespace Layout

/-- Takes in a token: text goes to the parts, a parameter becomes the next slot. -/
def add (options : PatternOptions) (layout : Layout) : Token → Except PatternError Layout
  | .literal text => .ok { layout with parts := NumberedPart.appendText text layout.parts }
  | .param parameter =>
    (Slot.ofParam options layout.slots.length parameter).map fun slot ↦
      ⟨layout.parts ++ [.slot layout.slots.length], layout.slots ++ [slot]⟩

/-- The layout of tokens. -/
def ofTokens (options : PatternOptions) (tokens : List Token) : Except PatternError Layout :=
  tokens.foldlM (add options) ⟨[], []⟩

/-- The layout of the parts of a matcher. -/
def of (parts : List Part) : Layout where
  parts := NumberedPart.numberFrom 0 parts
  slots := parts.filterMap Part.slot?

/-- The numbers that the parts refer to, in pattern order. -/
def numbers (layout : Layout) : List ℕ :=
  layout.parts.filterMap NumberedPart.number?

end Layout

/-! ### Joining text -/

namespace NumberedPart

/-- Puts parts behind others. A text in the beginning joins a text before it. -/
def join (front : List NumberedPart) : List NumberedPart → List NumberedPart
  | .literal text :: back => appendText text front ++ back
  | back => front ++ back

theorem appendText_concat_literal (text existing : String) (parts : List NumberedPart) :
    appendText text (parts ++ [.literal existing]) = parts ++ [.literal (existing ++ text)] := by
  rw [appendText, List.getLast?_concat, List.dropLast_concat]

theorem appendText_concat_slot (text : String) (number : ℕ) (parts : List NumberedPart) :
    appendText text (parts ++ [.slot number]) = parts ++ [.slot number, .literal text] := by
  rw [appendText, List.getLast?_concat, List.append_assoc]
  rfl

theorem appendText_appendText (first second : String) (parts : List NumberedPart) :
    appendText second (appendText first parts) = appendText (first ++ second) parts := by
  induction parts using List.reverseRecOn with
  | nil => rfl
  | append_singleton parts last _ =>
    cases last with
    | literal existing => simp only [appendText_concat_literal, String.append_assoc]
    | slot number =>
      rw [appendText_concat_slot, appendText_concat_slot, ← List.singleton_append,
        ← List.append_assoc, appendText_concat_literal, List.append_assoc]
      rfl

theorem join_nil_left (back : List NumberedPart) : join [] back = back := by
  rcases back with - | ⟨- | -, back⟩ <;> rfl

theorem join_concat_slot (front back : List NumberedPart) (number : ℕ) :
    join (front ++ [.slot number]) back = front ++ .slot number :: back := by
  rcases back with - | ⟨text | -, back⟩
  · simp [join]
  · rw [join, appendText_concat_slot, List.append_assoc]
    rfl
  · simp [join]

theorem join_appendText_numberFrom (text : String) (front : List NumberedPart) (number : ℕ)
    (parts : List Part) :
    join (appendText text front) (numberFrom number parts) =
      join front (numberFrom number (Part.prependText text parts)) := by
  rcases parts with - | ⟨next | slot, parts⟩
  · rfl
  · change appendText next (appendText text front) ++ _ = appendText (text ++ next) front ++ _
    rw [appendText_appendText]
  · rfl

end NumberedPart

/-! ### The loop and the parts of a matcher -/

namespace Layout

variable {options : PatternOptions}

/-- From any layout on, the loop takes in the parts that the tokens have after its slots. -/
theorem foldlM_add (layout : Layout) (tokens : List Token) :
    tokens.foldlM (add options) layout =
      (Part.ofTokens options layout.slots.length tokens).map fun parts ↦
        ⟨NumberedPart.join layout.parts (NumberedPart.numberFrom layout.slots.length parts),
          layout.slots ++ parts.filterMap Part.slot?⟩ := by
  induction tokens generalizing layout with
  | nil =>
    change Except.ok layout = Except.ok _
    simp [NumberedPart.numberFrom, NumberedPart.join]
  | cons token tokens ih =>
    cases token with
    | literal text =>
      change tokens.foldlM (add options)
        { layout with parts := NumberedPart.appendText text layout.parts } = _
      rw [ih, Part.ofTokens]
      cases Part.ofTokens options layout.slots.length tokens with
      | error error => rfl
      | ok parts =>
        simp only [Except.map, NumberedPart.join_appendText_numberFrom,
          Part.filterMap_slot?_prependText]
    | param parameter =>
      rw [List.foldlM_cons, add, Part.ofTokens]
      cases Slot.ofParam options layout.slots.length parameter with
      | error error => rfl
      | ok slot =>
        change tokens.foldlM (add options)
          ⟨layout.parts ++ [.slot layout.slots.length], layout.slots ++ [slot]⟩ = Except.map _ _
        rw [ih, List.length_append, List.length_singleton]
        cases Part.ofTokens options (layout.slots.length + 1) tokens with
        | error error => rfl
        | ok parts =>
          simp only [Except.map, NumberedPart.join_concat_slot, List.append_assoc]
          rfl

/-- The loop gives the parts of the matcher with their slots numbered. -/
theorem ofTokens_eq (options : PatternOptions) (tokens : List Token) :
    ofTokens options tokens = (Part.ofTokens options 0 tokens).map of := by
  rw [ofTokens, foldlM_add]
  simp only [NumberedPart.join_nil_left, List.nil_append, List.length_nil]
  rfl

end Layout

/-! ### Numbers -/

theorem NumberedPart.filterMap_number?_numberFrom (number : ℕ) (parts : List Part) :
    (numberFrom number parts).filterMap number? =
      List.range' number (parts.filterMap Part.slot?).length := by
  induction parts generalizing number with
  | nil => rfl
  | cons part parts ih =>
    cases part with
    | literal text =>
      rw [Part.filterMap_slot?_literal, ← ih]
      rfl
    | param slot =>
      rw [Part.filterMap_slot?_param, List.length_cons, List.range'_succ, ← ih]
      rfl

/-- The parts refer to every slot once, in order. -/
theorem Layout.numbers_of (parts : List Part) :
    (of parts).numbers = List.range (of parts).slots.length :=
  (NumberedPart.filterMap_number?_numberFrom 0 parts).trans List.range_eq_range'.symm

/-! ### Building by number -/

/-- The text for a part, where `none` stands for the number of a slot that does not exist. -/
def NumberedPart.build? (slots : List Slot) (params : Params) :
    NumberedPart → Option (Except BuildError (List Char))
  | .literal text => some (.ok text.toList)
  | .slot number => slots[number]?.map fun slot ↦ slot.build (params.get? slot.name)

/-- The text for parts one after the other, or the failure of the first that has one, where `none`
stands for the number of a slot that does not exist. -/
def NumberedPart.buildAll? (slots : List Slot) (params : Params) :
    List NumberedPart → Option (Except BuildError (List Char))
  | [] => some (.ok [])
  | part :: parts =>
    match part.build? slots params with
    | none => none
    | some (.error error) => some (.error error)
    | some (.ok text) => (buildAll? slots params parts).map fun built ↦ built.map (text ++ ·)

/-- The path for the values of the parameters, where `none` stands for the number of a slot that
does not exist. -/
def Layout.build? (layout : Layout) (params : Params) : Option (Except BuildError String) :=
  (NumberedPart.buildAll? layout.slots params layout.parts).map fun built ↦
    built.map String.ofList

theorem NumberedPart.buildAll?_numberFrom (front : List Slot) (params : Params)
    (parts : List Part) :
    buildAll? (front ++ parts.filterMap Part.slot?) params (numberFrom front.length parts) =
      some (Part.buildAll params parts) := by
  induction parts generalizing front with
  | nil => rfl
  | cons part parts ih =>
    cases part with
    | literal text =>
      rw [Part.filterMap_slot?_literal, numberFrom, buildAll?, ih]
      rfl
    | param slot =>
      have hslots : front ++ slot :: parts.filterMap Part.slot? =
          (front ++ [slot]) ++ parts.filterMap Part.slot? := by simp
      have hlookup : (front ++ slot :: parts.filterMap Part.slot?)[front.length]? = some slot := by
        simp
      have hrest := ih (front ++ [slot])
      rw [List.length_append, List.length_singleton, ← hslots] at hrest
      rw [Part.filterMap_slot?_param, numberFrom, buildAll?, build?, hlookup, Option.map_some,
        hrest, Part.buildAll, Part.build]
      cases slot.build (params.get? slot.name) <;> rfl

/-- Every slot that is looked up exists, and the path is that of the parts. -/
theorem Layout.build?_of (params : Params) (parts : List Part) :
    (of parts).build? params = some ((Part.buildAll params parts).map String.ofList) := by
  have hparts := NumberedPart.buildAll?_numberFrom [] params parts
  rw [List.nil_append, List.length_nil] at hparts
  rw [build?, of, hparts, Option.map_some]

/-- A matcher has a layout, which builds the same paths. Its parts refer to every slot once, in
order, and the slots are those of the parameters, each made as the one with its number. -/
theorem Layout.exists_of_ofTokens {options : PatternOptions} {tokens : List Token}
    {matcher : Matcher} (h : Matcher.ofTokens options tokens = .ok matcher) :
    ∃ layout, Layout.ofTokens options tokens = .ok layout ∧
      layout.numbers = List.range layout.slots.length ∧
      List.Forall₂ (fun parameter entry ↦ Slot.ofParam options entry.2 parameter = .ok entry.1)
        (tokens.filterMap Token.param?) layout.slots.zipIdx ∧
      ∀ params, layout.build? params = some (matcher.build params) := by
  obtain ⟨hparts, -⟩ := Matcher.ofTokens_eq_ok_iff.mp h
  refine ⟨.of matcher.parts, ?_, numbers_of _, Part.forall₂_zipIdx_of_ofTokens hparts,
    fun params ↦ build?_of params _⟩
  rw [ofTokens_eq, hparts]
  rfl

end RoutePatterns
