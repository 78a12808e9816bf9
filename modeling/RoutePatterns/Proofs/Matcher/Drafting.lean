import RoutePatterns.Proofs.Matcher.Layout

/-!
# Making a matcher in one loop

The expression for whole paths can be written while the tokens are laid out: each token adds its
text or the expression of its slot to what is written (`Draft.add`). After the last token come the
optional delimiter and the end of the expression. This makes the matcher of the tokens, with its
parts laid out, and fails with the same error where there is none (`Draft.compile_eq`).
-/

set_option autoImplicit false
set_option relaxedAutoImplicit false

namespace RoutePatterns

/-- A matcher in the making. -/
structure Draft where
  /-- The expression for whole paths as far as it is written. -/
  source : List Char
  /-- The layout of the tokens so far. -/
  layout : Layout

namespace Draft

/-- Takes in a token. Its expression is written, text goes to the parts, and a parameter becomes the
next slot. -/
def add (options : PatternOptions) (draft : Draft) : Token → Except PatternError Draft
  | .literal text =>
    .ok ⟨draft.source ++ Regex.escape text.toList,
      NumberedPart.appendText text draft.layout.parts, draft.layout.slots⟩
  | .param parameter =>
    (Slot.ofParam options draft.layout.slots.length parameter).map fun slot ↦
      ⟨draft.source ++ slot.source, draft.layout.parts ++ [.slot draft.layout.slots.length],
        draft.layout.slots ++ [slot]⟩

/-- The expression for whole paths and the layout of tokens. -/
def compile (options : PatternOptions) (tokens : List Token) :
    Except PatternError (Regex × Layout) :=
  match tokens.foldlM (add options) ⟨['^'], [], []⟩ with
  | .error error => .error error
  | .ok draft =>
    (compileRegex options (draft.source ++ Matcher.ending options)).map fun regex ↦
      (regex, draft.layout)

variable {options : PatternOptions}

/-- From any draft on, the loop writes and lays out the parts that the tokens have after its slots.
-/
theorem foldlM_add (draft : Draft) (tokens : List Token) :
    tokens.foldlM (add options) draft =
      (Part.ofTokens options draft.layout.slots.length tokens).map fun parts ↦
        ⟨draft.source ++ parts.flatMap Part.source,
          NumberedPart.join draft.layout.parts
            (NumberedPart.numberFrom draft.layout.slots.length parts),
          draft.layout.slots ++ parts.filterMap Part.slot?⟩ := by
  induction tokens generalizing draft with
  | nil =>
    change Except.ok draft = Except.ok _
    simp [NumberedPart.numberFrom, NumberedPart.join]
  | cons token tokens ih =>
    cases token with
    | literal text =>
      change tokens.foldlM (add options) ⟨draft.source ++ Regex.escape text.toList,
        NumberedPart.appendText text draft.layout.parts, draft.layout.slots⟩ = _
      rw [ih, Part.ofTokens]
      cases Part.ofTokens options draft.layout.slots.length tokens with
      | error error => rfl
      | ok parts =>
        simp only [Except.map, NumberedPart.join_appendText_numberFrom,
          Part.filterMap_slot?_prependText, Part.flatMap_source_prependText, List.append_assoc]
    | param parameter =>
      rw [List.foldlM_cons, add, Part.ofTokens]
      cases Slot.ofParam options draft.layout.slots.length parameter with
      | error error => rfl
      | ok slot =>
        change tokens.foldlM (add options) ⟨draft.source ++ slot.source,
          draft.layout.parts ++ [.slot draft.layout.slots.length],
          draft.layout.slots ++ [slot]⟩ = Except.map _ _
        rw [ih, List.length_append, List.length_singleton]
        cases Part.ofTokens options (draft.layout.slots.length + 1) tokens with
        | error error => rfl
        | ok parts =>
          simp only [Except.map, NumberedPart.join_concat_slot, List.append_assoc]
          rfl

/-- The loop makes the matcher of the tokens. -/
theorem compile_eq (options : PatternOptions) (tokens : List Token) :
    compile options tokens = (Matcher.ofTokens options tokens).map fun matcher ↦
      (matcher.regex, Layout.of matcher.parts) := by
  rw [compile, foldlM_add, Matcher.ofTokens]
  simp only [NumberedPart.join_nil_left, List.nil_append, List.length_nil]
  cases Part.ofTokens options 0 tokens with
  | error error => rfl
  | ok parts =>
    simp only [Except.map, ← Matcher.sourceOf_eq]
    cases compileRegex options (Matcher.sourceOf options parts) <;> rfl

end Draft

end RoutePatterns
