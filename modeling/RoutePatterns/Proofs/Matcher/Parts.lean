import RoutePatterns.Matcher.Build
import RoutePatterns.Proofs.Results

/-!
# The parts of a matcher

A matcher has one part for each token, except that neighbouring static texts are one part
(`ofTokens_eq_map_glue`). Putting texts together changes neither the expression for whole paths
(`flatMap_source_glue`) nor the slots (`filterMap_slot?_glue`) nor the path that is built of values
(`buildAll_glue`), so that a matcher can be told token by token.
-/

set_option autoImplicit false
set_option relaxedAutoImplicit false

namespace RoutePatterns

/-! ### Parts -/

namespace Part

/-- One part for each of the tokens that follow `index` parameters. -/
def eachOf (options : PatternOptions) (index : Nat) :
    List Token → Except PatternError (List Part)
  | [] => .ok []
  | .literal text :: tokens => (eachOf options index tokens).map (.literal text :: ·)
  | .param parameter :: tokens =>
    match Slot.ofParam options index parameter with
    | .error error => .error error
    | .ok slot => (eachOf options (index + 1) tokens).map (.param slot :: ·)

/-- The parts with neighbouring static texts put together. -/
def glue : List Part → List Part
  | [] => []
  | .literal text :: parts => prependText text (glue parts)
  | .param slot :: parts => .param slot :: glue parts

theorem ofTokens_eq_map_glue (options : PatternOptions) (index : Nat) (tokens : List Token) :
    ofTokens options index tokens = (eachOf options index tokens).map glue := by
  induction tokens generalizing index with
  | nil => rfl
  | cons token tokens ih =>
    cases token with
    | literal text =>
      rw [ofTokens, eachOf, ih]
      cases eachOf options index tokens <;> rfl
    | param parameter =>
      rw [ofTokens, eachOf]
      cases Slot.ofParam options index parameter with
      | error error => rfl
      | ok slot =>
        change (ofTokens options (index + 1) tokens).map _ = _
        rw [ih]
        cases eachOf options (index + 1) tokens <;> rfl

/-! ### What putting texts together keeps -/

theorem flatMap_source_prependText (text : String) (parts : List Part) :
    (prependText text parts).flatMap source = Regex.escape text.toList ++ parts.flatMap source := by
  unfold prependText
  split
  · simp [source, Regex.escape]
  · simp [source]

theorem flatMap_source_glue (parts : List Part) :
    (glue parts).flatMap source = parts.flatMap source := by
  induction parts with
  | nil => rfl
  | cons part parts ih =>
    cases part with
    | literal text => rw [glue, flatMap_source_prependText, ih, List.flatMap_cons, source]
    | param slot => rw [glue, List.flatMap_cons, ih, List.flatMap_cons]

theorem filterMap_slot?_literal (text : String) (parts : List Part) :
    (literal text :: parts).filterMap slot? = parts.filterMap slot? :=
  List.filterMap_cons_none rfl

theorem filterMap_slot?_param (slot : Slot) (parts : List Part) :
    (param slot :: parts).filterMap slot? = slot :: parts.filterMap slot? :=
  List.filterMap_cons_some rfl

theorem filterMap_slot?_prependText (text : String) (parts : List Part) :
    (prependText text parts).filterMap slot? = parts.filterMap slot? := by
  unfold prependText
  split
  · rw [filterMap_slot?_literal, filterMap_slot?_literal]
  · rw [filterMap_slot?_literal]

theorem filterMap_slot?_glue (parts : List Part) :
    (glue parts).filterMap slot? = parts.filterMap slot? := by
  induction parts with
  | nil => rfl
  | cons part parts ih =>
    cases part with
    | literal text => rw [glue, filterMap_slot?_prependText, ih, filterMap_slot?_literal]
    | param slot => rw [glue, filterMap_slot?_param, ih, filterMap_slot?_param]

theorem buildAll_prependText (params : Params) (text : String) (parts : List Part) :
    buildAll params (prependText text parts) =
      (buildAll params parts).map (text.toList ++ ·) := by
  unfold prependText
  split
  · next next parts =>
    change (buildAll params parts).map ((text ++ next).toList ++ ·) =
      ((buildAll params parts).map (next.toList ++ ·)).map (text.toList ++ ·)
    cases buildAll params parts with
    | error error => rfl
    | ok built => simp [Except.map]
  · rfl

theorem buildAll_glue (params : Params) (parts : List Part) :
    buildAll params (glue parts) = buildAll params parts := by
  induction parts with
  | nil => rfl
  | cons part parts ih =>
    cases part with
    | literal text =>
      rw [glue, buildAll_prependText, ih]
      rfl
    | param slot => rw [glue, buildAll, buildAll, ih]

/-- Parts are built one after the other. -/
theorem buildAll_cons_eq_ok_iff {params : Params} {part : Part} {parts : List Part}
    {built : List Char} :
    buildAll params (part :: parts) = .ok built ↔
      ∃ text rest, part.build params = .ok text ∧ buildAll params parts = .ok rest ∧
        built = text ++ rest := by
  rw [buildAll]
  cases part.build params with
  | error error => simp
  | ok text =>
    cases buildAll params parts with
    | error error => simp [Except.map]
    | ok rest => simp [Except.map, eq_comm]

end Part

/-! ### The expression for whole paths -/

/-- The delimiter that may follow, as it is written, and the end. -/
def Matcher.ending (options : PatternOptions) : List Char :=
  (if options.strict then [] else Slot.grouped (Regex.escapeChar options.delimiter) ++ ['?']) ++
    ['$']

theorem Matcher.sourceOf_eq (options : PatternOptions) (parts : List Part) :
    sourceOf options parts = ['^'] ++ parts.flatMap Part.source ++ ending options := by
  rw [sourceOf, ending, ← List.append_assoc]

end RoutePatterns
