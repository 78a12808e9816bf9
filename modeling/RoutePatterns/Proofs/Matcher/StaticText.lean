import RoutePatterns.Proofs.Matcher.Drafting
import RoutePatterns.Proofs.Pattern.Splitting
import RoutePatterns.Proofs.Score.Exact

/-!
# Static text in pieces

Tokens stay the same pattern if each static text is given in pieces. Cut before every delimiter, the
tokens have the same segments (`segments_cutTexts`) and, if no text is empty, the same score: the
same numbers are added in the same order (`score_cutTexts`). A matcher puts neighbouring texts
together, so that texts that are cut anywhere make the same matcher or fail in the same way
(`IsRecut.matcher_eq`). The main statement is `same_pattern_of_cutTexts`.
-/

set_option autoImplicit false
set_option relaxedAutoImplicit false

namespace RoutePatterns

variable {delimiter : Char} {options : PatternOptions} {tokens others : List Token}

/-- A static text as one token for each piece, where it is cut before every delimiter. -/
def Token.cutText (delimiter : Char) : Token → List Token
  | .literal text => (splitText delimiter text).map .literal
  | .param parameter => [.param parameter]

/-- The tokens with every static text cut before every delimiter. -/
def cutTexts (delimiter : Char) (tokens : List Token) : List Token :=
  tokens.flatMap (Token.cutText delimiter)

/-- No static text is empty. -/
def HasNoEmptyText (tokens : List Token) : Prop :=
  ∀ text, .literal text ∈ tokens → text ≠ ""

theorem HasNoEmptyText.of_cons {token : Token} (h : HasNoEmptyText (token :: tokens)) :
    HasNoEmptyText tokens :=
  fun text htext ↦ h text (List.mem_cons_of_mem _ htext)

/-! ### Segments -/

theorem flatMap_pieces_cutText (delimiter : Char) (token : Token) :
    (token.cutText delimiter).flatMap (Token.pieces delimiter) = token.pieces delimiter := by
  cases token with
  | literal text =>
    have hpieces : ∀ piece ∈ splitText delimiter text,
        Token.pieces delimiter (.literal piece) = [Piece.literal piece] := by
      intro piece hpiece
      rw [Token.pieces, splitText_of_mem hpiece, List.map_singleton]
    rw [Token.cutText, List.flatMap_map, List.flatMap_congr hpieces, Token.pieces,
      List.map_eq_flatMap]
  | param parameter => exact List.flatMap_singleton _ _

/-- Text that is cut before every delimiter has the segments of the whole text. -/
theorem segments_cutTexts (delimiter : Char) (tokens : List Token) :
    segments delimiter (cutTexts delimiter tokens) = segments delimiter tokens := by
  rw [segments, cutTexts, List.flatMap_assoc,
    List.flatMap_congr fun token _ ↦ flatMap_pieces_cutText delimiter token, segments]

/-! ### Scores -/

theorem splitText_ne_nil {text : String} (htext : text ≠ "") : splitText delimiter text ≠ [] := by
  intro hnil
  have hjoin := (isSplit_splitText delimiter text).join
  rw [hnil, String.join_nil] at hjoin
  exact htext hjoin.symm

theorem splitText_singleton (delimiter : Char) :
    splitText delimiter (String.singleton delimiter) = [String.singleton delimiter] := by
  refine (eq_splitText_iff_isSplit.mpr ⟨?_, ?_, List.forall_mem_nil _, ?_⟩).symm
  · rw [String.join_cons, String.join_nil, String.append_empty]
  · simp
  · simp

theorem cutText_ne_nil {token : Token} (h : HasNoEmptyText (token :: tokens)) :
    token.cutText delimiter ≠ [] := by
  cases token with
  | literal text =>
    rw [Token.cutText, ne_eq, List.map_eq_nil_iff]
    exact splitText_ne_nil (h text List.mem_cons_self)
  | param parameter => exact List.cons_ne_nil _ _

/-- Cutting texts neither makes nor loses the pattern of the delimiter alone. -/
theorem isRoot_cutTexts (h : HasNoEmptyText tokens) :
    isRoot delimiter (cutTexts delimiter tokens) = isRoot delimiter tokens := by
  rw [Bool.eq_iff_iff, isRoot_iff, isRoot_iff]
  constructor
  · intro hroot
    cases tokens with
    | nil => cases hroot
    | cons token rest =>
      rw [cutTexts, List.flatMap_cons, List.append_eq_singleton_iff] at hroot
      obtain ⟨hnil, -⟩ | ⟨htoken, hrest⟩ := hroot
      · exact absurd hnil (cutText_ne_nil h)
      · have hrest : rest = [] := by
          cases rest with
          | nil => rfl
          | cons next others =>
            rw [List.flatMap_cons, List.append_eq_nil_iff] at hrest
            exact absurd hrest.1 (cutText_ne_nil h.of_cons)
        subst hrest
        cases token with
        | literal text =>
          obtain ⟨piece, hpiece, heq⟩ := List.map_eq_singleton_iff.mp htoken
          have hjoin := (isSplit_splitText delimiter text).join
          rw [hpiece, String.join_cons, String.join_nil, String.append_empty] at hjoin
          rw [← hjoin, heq]
        | param parameter => cases htoken
  · rintro rfl
    rw [cutTexts, List.flatMap_singleton, Token.cutText, splitText_singleton, List.map_singleton]

-- An empty text has no pieces, so that it can be what keeps a delimiter from being alone.
example : isRoot '/' [.literal "", .literal "/"] = false ∧
    isRoot '/' (cutTexts '/' [.literal "", .literal "/"]) = true := by decide

section Score

variable {α : Type} [Add α] [Mul α] [Div α] [OfScientific α]

/-- Text that is cut before every delimiter scores as the whole text, with any kind of numbers. -/
theorem score_cutTexts (h : HasNoEmptyText tokens) (weights : Weights α) :
    score options weights (cutTexts options.delimiter tokens) = score options weights tokens := by
  rw [score, isRoot_cutTexts h, segments_cutTexts, score]

end Score

/-! ### Matchers -/

/-- The second tokens are the first ones with every static text given in one or more pieces. -/
inductive IsRecut : List Token → List Token → Prop
  | nil : IsRecut [] []
  | literal {texts : List String} {text : String} {tokens others : List Token} (hne : texts ≠ [])
      (hjoin : String.join texts = text) (h : IsRecut tokens others) :
      IsRecut (.literal text :: tokens) (texts.map .literal ++ others)
  | param (parameter : Param) {tokens others : List Token} (h : IsRecut tokens others) :
      IsRecut (.param parameter :: tokens) (.param parameter :: others)

theorem isRecut_cutTexts (h : HasNoEmptyText tokens) :
    IsRecut tokens (cutTexts delimiter tokens) := by
  induction tokens with
  | nil => exact .nil
  | cons token tokens ih =>
    rw [cutTexts, List.flatMap_cons]
    cases token with
    | literal text =>
      exact .literal (splitText_ne_nil (h text List.mem_cons_self))
        (isSplit_splitText delimiter text).join (ih h.of_cons)
    | param parameter => exact .param parameter (ih h.of_cons)

namespace Part

theorem prependText_prependText (first second : String) (parts : List Part) :
    prependText first (prependText second parts) = prependText (first ++ second) parts := by
  rcases parts with - | ⟨next | slot, parts⟩
  · rfl
  · exact congrArg (fun text ↦ literal text :: parts) String.append_assoc.symm
  · rfl

/-- Texts one after the other make the part of their joined text. -/
theorem ofTokens_map_literal (options : PatternOptions) (index : ℕ) {texts : List String}
    (hne : texts ≠ []) (tokens : List Token) :
    ofTokens options index (texts.map .literal ++ tokens) =
      ofTokens options index (.literal (String.join texts) :: tokens) := by
  induction texts with
  | nil => exact absurd rfl hne
  | cons text texts ih =>
    cases texts with
    | nil => rfl
    | cons next texts =>
      rw [List.map_cons, List.cons_append, ofTokens, ih (List.cons_ne_nil _ _), ofTokens, ofTokens]
      cases ofTokens options index tokens with
      | error error => rfl
      | ok parts => simp only [Except.map, prependText_prependText, String.join_cons]

end Part

/-- Tokens whose texts are cut otherwise have the same parts. -/
theorem IsRecut.parts_eq (h : IsRecut tokens others) (options : PatternOptions) (index : ℕ) :
    Part.ofTokens options index others = Part.ofTokens options index tokens := by
  induction h generalizing index with
  | nil => rfl
  | literal hne hjoin _ ih =>
    rw [Part.ofTokens_map_literal options index hne, hjoin, Part.ofTokens, ih, Part.ofTokens]
  | param parameter _ ih =>
    rw [Part.ofTokens, Part.ofTokens]
    cases Slot.ofParam options index parameter with
    | error error => rfl
    | ok slot => exact congrArg (Except.map (Part.param slot :: ·)) (ih (index + 1))

/-- Tokens whose texts are cut otherwise make the same matcher or fail in the same way. -/
theorem IsRecut.matcher_eq (h : IsRecut tokens others) (options : PatternOptions) :
    Matcher.ofTokens options others = Matcher.ofTokens options tokens := by
  rw [Matcher.ofTokens, h.parts_eq, Matcher.ofTokens]

theorem IsRecut.compile_eq (h : IsRecut tokens others) (options : PatternOptions) :
    Draft.compile options others = Draft.compile options tokens := by
  rw [Draft.compile_eq, Draft.compile_eq, h.matcher_eq]

/-- Tokens have the same segments if each static text is cut before every delimiter. If no text is
empty, they score the same under all weights, by the same additions in the same order, and make the
same matcher or fail in the same way, token by token in one loop as well. The matcher also stays the
same if texts are cut anywhere else. -/
theorem same_pattern_of_cutTexts {α : Type} [Add α] [Mul α] [Div α] [OfScientific α]
    (options : PatternOptions) (tokens : List Token) :
    segments options.delimiter (cutTexts options.delimiter tokens) =
        segments options.delimiter tokens ∧
      (HasNoEmptyText tokens →
        (∀ weights : Weights α, score options weights (cutTexts options.delimiter tokens) =
          score options weights tokens) ∧
        Matcher.ofTokens options (cutTexts options.delimiter tokens) =
          Matcher.ofTokens options tokens ∧
        Draft.compile options (cutTexts options.delimiter tokens) =
          Draft.compile options tokens) ∧
      ∀ others, IsRecut tokens others →
        Matcher.ofTokens options others = Matcher.ofTokens options tokens ∧
        Draft.compile options others = Draft.compile options tokens := by
  refine ⟨segments_cutTexts options.delimiter tokens, fun h ↦ ?_, fun others h ↦ ?_⟩
  · have hrecut : IsRecut tokens (cutTexts options.delimiter tokens) := isRecut_cutTexts h
    exact ⟨score_cutTexts h, hrecut.matcher_eq options, hrecut.compile_eq options⟩
  · exact ⟨h.matcher_eq options, h.compile_eq options⟩

/-- A text with two delimiters before an extension, cut before the delimiters and elsewhere. -/
theorem same_pattern_of_cutTexts_extension :
    let extension : Param := ⟨.named "ext", "[^\\./]+?", some '.', .one⟩
    let tokens : List Token := [.literal "/a/b", .param extension]
    HasNoEmptyText tokens ∧
      score {} (Weights.standard : Weights Float)
          [.literal "/a", .literal "/b", .param extension] = score {} .standard tokens ∧
      Matcher.ofTokens {} [.literal "/a", .literal "/b", .param extension] =
        Matcher.ofTokens {} tokens ∧
      Draft.compile {} [.literal "/a/", .literal "b", .param extension] =
        Draft.compile {} tokens := by
  intro extension tokens
  obtain ⟨-, hcut, hrecut⟩ := @same_pattern_of_cutTexts Float _ _ _ _ {} tokens
  have hpieces : cutTexts ({} : PatternOptions).delimiter tokens =
      [.literal "/a", .literal "/b", .param extension] := by decide
  have htexts : HasNoEmptyText tokens := by
    intro text htext
    obtain rfl : text = "/a/b" := by simpa [tokens] using htext
    decide
  have helsewhere : IsRecut tokens [.literal "/a/", .literal "b", .param extension] :=
    @IsRecut.literal ["/a/", "b"] "/a/b" _ _ (by decide) (by decide) (.param extension .nil)
  obtain ⟨hscore, hmatcher, -⟩ := hcut htexts
  rw [hpieces] at hscore hmatcher
  exact ⟨htexts, hscore .standard, hmatcher, (hrecut _ helsewhere).2⟩

end RoutePatterns
