import RoutePatterns.Proofs.Pattern.Derivation
import RoutePatterns.Proofs.Pattern.Tokens
import RoutePatterns.Proofs.Text.Cutting

/-!
# What patterns mean

The tokens that a sequence of items means are given run by run (`Means`): literal items up to the
next parameter are static text, cut before each delimiter, and a last character that is written raw
and is the delimiter or a full stop leads the parameter instead (`GivesLead`). Every sequence means
one token list, which is the one that the tokenizer makes (`means_iff`).

A pattern is refused for its spelling exactly if it derives no items, and then under every delimiter
alike. Otherwise it has the tokens that its items mean, unless two of the names are equal or an
unnamed group shares its segment (`UnnamedStandAlone`). The main statement is
`tokenize_eq_meaning`.
-/

set_option autoImplicit false
set_option relaxedAutoImplicit false

namespace RoutePatterns

open Text

/-! ### Runs of literal items -/

/-- The literal items for characters, each with a flag that tells whether it is escaped. -/
def Item.literals (run : List (Char × Bool)) : List Item :=
  run.map fun entry ↦ .literal entry.1 entry.2

/-- Static tokens, one for each piece of a text. -/
def Token.statics (pieces : List (List Char)) : List Token :=
  pieces.map fun piece ↦ .literal (String.ofList piece)

/-- A run gives its last character to the parameter after it, if the character is raw and is the
delimiter or a full stop. The rest of the run, or all of it, stays. -/
inductive GivesLead (delimiter : Char) :
    List (Char × Bool) → Option Char → List (Char × Bool) → Prop
  | given {front : List (Char × Bool)} {char : Char}
      (hchar : char = delimiter ∨ char = Token.extensionMark) :
      GivesLead delimiter (front ++ [(char, false)]) (some char) front
  | kept {run : List (Char × Bool)}
      (hrun : ∀ char, run.getLast? = some (char, false) →
        char ≠ delimiter ∧ char ≠ Token.extensionMark) :
      GivesLead delimiter run none run

namespace Token

variable {delimiter : Char} {run front : List (Char × Bool)} {lead : Option Char}

theorem takeLead_of_givesLead (h : GivesLead delimiter run lead front) :
    takeLead delimiter run.reverse = (lead, front.reverse) := by
  cases h with
  | @given _ char hchar =>
    have hlead : (!false && (char == delimiter || char == extensionMark)) = true := by
      simpa using hchar
    rw [List.reverse_append, List.reverse_singleton, List.singleton_append, takeLead, if_pos hlead]
  | kept hrun =>
    rw [← List.head?_reverse] at hrun
    cases hcase : run.reverse with
    | nil => rfl
    | cons last rest =>
      obtain ⟨char, escaped⟩ := last
      rw [hcase] at hrun
      rw [takeLead]
      refine if_neg ?_
      cases escaped with
      | true => exact Bool.false_ne_true
      | false =>
        obtain ⟨hdelimiter, hmark⟩ := hrun char rfl
        simp [hdelimiter, hmark]

theorem givesLead_takeLead (delimiter : Char) (run : List (Char × Bool)) :
    GivesLead delimiter run.reverse (takeLead delimiter run).1
      (takeLead delimiter run).2.reverse := by
  cases run with
  | nil => exact .kept fun _ hlast ↦ by cases hlast
  | cons last rest =>
    obtain ⟨char, escaped⟩ := last
    rw [takeLead]
    by_cases hlead : (!escaped && (char == delimiter || char == extensionMark)) = true
    · rw [if_pos hlead, List.reverse_cons]
      simp only [Bool.and_eq_true, Bool.not_eq_true', Bool.or_eq_true, beq_iff_eq] at hlead
      rw [hlead.1]
      exact .given hlead.2
    · rw [if_neg hlead]
      refine .kept fun char' hlast ↦ ?_
      rw [List.getLast?_reverse, List.head?_cons, Option.some.injEq] at hlast
      obtain ⟨rfl, rfl⟩ := Prod.mk.inj hlast
      simpa using hlead

theorem ofRun_reverse {pieces : List (List Char)}
    (h : IsCut (· == delimiter) (run.map Prod.fst) pieces) :
    ofRun delimiter run.reverse = statics pieces := by
  rw [ofRun, List.reverse_reverse, splitBefore, ← eq_cutBefore_iff.mpr h]
  rfl

theorem ofItemsFrom_literals (unnamed : ℕ) (pending run : List (Char × Bool)) (items : List Item) :
    ofItemsFrom delimiter unnamed pending (Item.literals run ++ items) =
      ofItemsFrom delimiter unnamed (run.reverse ++ pending) items := by
  induction run generalizing pending with
  | nil => rfl
  | cons entry run ih =>
    rw [List.reverse_cons, List.append_assoc, List.singleton_append]
    exact ih (entry :: pending)

end Token

/-! ### Meanings -/

/-- The name of a parameter that follows `unnamed` unnamed ones. -/
def ParamName.ofWritten (unnamed : ℕ) : Option String → ParamName
  | some name => .named name
  | none => .index unnamed

/-- The parameter that an item means, led by `lead`, where `unnamed` unnamed ones are before it. -/
def Param.ofWritten (delimiter : Char) (unnamed : ℕ) (lead : Option Char)
    (name group : Option String) (modifier : Option Quantifier) : Param where
  name := .ofWritten unnamed name
  group := group.getD (defaultGroup lead delimiter)
  lead
  quantifier := modifier.getD .one

/-- The number of unnamed parameters after one with the name. -/
def unnamedAfter (unnamed : ℕ) (name : Option String) : ℕ :=
  if name.isSome then unnamed else unnamed + 1

/-- The items mean the tokens, where `unnamed` unnamed parameters are before them. -/
inductive Means (delimiter : Char) : ℕ → List Item → List Token → Prop
  | run {unnamed : ℕ} {run : List (Char × Bool)} {pieces : List (List Char)}
      (hpieces : IsCut (· == delimiter) (run.map Prod.fst) pieces) :
      Means delimiter unnamed (Item.literals run) (Token.statics pieces)
  | param {unnamed : ℕ} {run front : List (Char × Bool)} {lead : Option Char}
      {pieces : List (List Char)} {name group : Option String} {modifier : Option Quantifier}
      {items : List Item} {tokens : List Token} (hlead : GivesLead delimiter run lead front)
      (hpieces : IsCut (· == delimiter) (front.map Prod.fst) pieces)
      (hrest : Means delimiter (unnamedAfter unnamed name) items tokens) :
      Means delimiter unnamed (Item.literals run ++ .param name group modifier :: items)
        (Token.statics pieces ++
          .param (.ofWritten delimiter unnamed lead name group modifier) :: tokens)

section Meaning

variable {delimiter : Char} {unnamed : ℕ} {items : List Item} {tokens : List Token}

theorem Token.ofItemsFrom_param (run : List (Char × Bool)) (name group : Option String)
    (modifier : Option Quantifier) (items : List Item) :
    ofItemsFrom delimiter unnamed run (.param name group modifier :: items) =
      ofRun delimiter (takeLead delimiter run).2 ++
        .param (.ofWritten delimiter unnamed (takeLead delimiter run).1 name group modifier) ::
          ofItemsFrom delimiter (unnamedAfter unnamed name) [] items := by
  cases name with
  | none => rfl
  | some name => rfl

theorem ofItemsFrom_of_means (h : Means delimiter unnamed items tokens) :
    Token.ofItemsFrom delimiter unnamed [] items = tokens := by
  induction h with
  | @run unnamed run pieces hpieces =>
    have hitems := @Token.ofItemsFrom_literals delimiter unnamed [] run []
    rw [List.append_nil, List.append_nil] at hitems
    rw [hitems]
    exact Token.ofRun_reverse hpieces
  | param hlead hpieces _ ih =>
    rw [Token.ofItemsFrom_literals, List.append_nil, Token.ofItemsFrom_param,
      Token.takeLead_of_givesLead hlead, Token.ofRun_reverse hpieces, ih]

/-- Literal items before other items join the run that is pending. -/
theorem means_ofItemsFrom (delimiter : Char) (unnamed : ℕ) (run : List (Char × Bool))
    (items : List Item) :
    Means delimiter unnamed (Item.literals run.reverse ++ items)
      (Token.ofItemsFrom delimiter unnamed run items) := by
  induction items generalizing unnamed run with
  | nil =>
    rw [List.append_nil]
    exact .run (List.map_reverse ▸ isCut_cutBefore _ _)
  | cons item items ih =>
    cases item with
    | literal char escaped =>
      have hrest := ih unnamed ((char, escaped) :: run)
      rw [List.reverse_cons, Item.literals, List.map_append, List.append_assoc] at hrest
      exact hrest
    | param name group modifier =>
      rw [Token.ofItemsFrom_param]
      exact .param (Token.givesLead_takeLead delimiter run)
        (List.map_reverse ▸ isCut_cutBefore _ _) (ih _ [])

/-- Items mean one token list, which is the one that is made from them. -/
theorem means_iff :
    Means delimiter unnamed items tokens ↔
      tokens = Token.ofItemsFrom delimiter unnamed [] items := by
  constructor
  · intro h
    exact (ofItemsFrom_of_means h).symm
  · rintro rfl
    exact means_ofItemsFrom delimiter unnamed [] items

end Meaning

/-! ### Checks -/

/-- No unnamed parameter shares its segment with other pieces. -/
def UnnamedStandAlone (delimiter : Char) (tokens : List Token) : Prop :=
  ∀ segment ∈ segments delimiter tokens, 1 < segment.length →
    ∀ parameter, .param parameter ∈ segment → parameter.name.isIndex = false

theorem Piece.unnamed?_eq_none_iff {piece : Piece} :
    piece.unnamed? = none ↔
      ∀ parameter, piece = .param parameter → parameter.name.isIndex = false := by
  cases piece with
  | literal text => simp [unnamed?]
  | param parameter =>
    rw [unnamed?]
    cases hname : parameter.name <;> simp [hname, ParamName.isIndex]

theorem firstCrowded?_eq_none_iff {delimiter : Char} {tokens : List Token} :
    firstCrowded? (segments delimiter tokens) = none ↔ UnnamedStandAlone delimiter tokens := by
  simp only [firstCrowded?, List.findSome?_eq_none_iff, List.mem_flatten, List.mem_filter,
    decide_eq_true_eq, Piece.unnamed?_eq_none_iff]
  constructor
  · intro h segment hsegment hlength parameter hmem
    exact h _ ⟨segment, ⟨hsegment, hlength⟩, hmem⟩ parameter rfl
  · rintro h _ ⟨segment, ⟨hsegment, hlength⟩, hmem⟩ parameter rfl
    exact h segment hsegment hlength parameter hmem

instance (delimiter : Char) (tokens : List Token) :
    Decidable (UnnamedStandAlone delimiter tokens) :=
  decidable_of_iff _ firstCrowded?_eq_none_iff

/-- Tokens pass both checks, or a name is repeated, or the names differ and an unnamed group shares
its segment. -/
theorem checkTokens_cases (pattern : String) (delimiter : Char) (tokens : List Token) :
    ((Token.paramNames tokens).Nodup ∧ UnnamedStandAlone delimiter tokens ∧
        checkTokens pattern delimiter tokens = .ok ()) ∨
      (¬(Token.paramNames tokens).Nodup ∧
        ∃ name, checkTokens pattern delimiter tokens = .error (.duplicateName pattern name)) ∨
      ((Token.paramNames tokens).Nodup ∧ ¬UnnamedStandAlone delimiter tokens ∧
        ∃ position,
          checkTokens pattern delimiter tokens = .error (.unnamedInSegment pattern position)) := by
  rw [← firstRepeated?_nil_eq_none_iff, ← firstCrowded?_eq_none_iff, checkTokens]
  cases firstRepeated? [] (Token.paramNames tokens) with
  | some name => simp
  | none => cases firstCrowded? (segments delimiter tokens) <;> simp

/-! ### Patterns and their tokens -/

section Patterns

variable {pattern : String} {delimiter : Char} {items : List Item} {tokens : List Token}

theorem tokenize_of_derives (h : Derives pattern.toList items)
    (htokens : Means delimiter 0 items tokens) :
    tokenize delimiter pattern = (checkTokens pattern delimiter tokens).map fun _ ↦ tokens := by
  obtain rfl := means_iff.mp htokens
  rw [tokenize, Item.scan_eq_ok_iff.mpr h]
  rfl

/-- A pattern that derives no items has a spelling fault, the same one under every delimiter. -/
theorem tokenize_of_not_derives (h : ¬∃ items, Derives pattern.toList items) :
    ∃ fault, ∀ delimiter, tokenize delimiter pattern = .error (.spelling pattern fault) := by
  cases hscan : Item.scan pattern with
  | ok items => exact absurd ⟨items, Item.scan_eq_ok_iff.mp hscan⟩ h
  | error fault =>
    refine ⟨fault, fun delimiter ↦ ?_⟩
    rw [tokenize, hscan]

/-- The tokenizer accepts exactly the patterns that derive items, but for its two checks. -/
theorem exists_derives_iff (delimiter : Char) (pattern : String) :
    (∃ items, Derives pattern.toList items) ↔
      (∃ tokens, tokenize delimiter pattern = .ok tokens) ∨
        (∃ name, tokenize delimiter pattern = .error (.duplicateName pattern name)) ∨
          ∃ position, tokenize delimiter pattern = .error (.unnamedInSegment pattern position) := by
  constructor
  · rintro ⟨items, h⟩
    have htokens := tokenize_of_derives h (means_iff.mpr rfl : Means delimiter 0 items _)
    rcases checkTokens_cases pattern delimiter (Token.ofItemsFrom delimiter 0 [] items) with
      ⟨-, -, hcheck⟩ | ⟨-, name, hcheck⟩ | ⟨-, -, position, hcheck⟩
    · rw [hcheck] at htokens
      exact .inl ⟨_, htokens⟩
    · rw [hcheck] at htokens
      exact .inr (.inl ⟨name, htokens⟩)
    · rw [hcheck] at htokens
      exact .inr (.inr ⟨position, htokens⟩)
  · intro h
    by_contra hnot
    obtain ⟨fault, hfault⟩ := tokenize_of_not_derives hnot
    simp [hfault delimiter] at h

/-- Assumes: the pattern derives the items, and these mean the tokens. The checks decide alone
whether the pattern has the tokens, and it has no others. -/
theorem tokenize_cases_of_derives (h : Derives pattern.toList items)
    (htokens : Means delimiter 0 items tokens) :
    (∀ other, tokenize delimiter pattern = .ok other ↔
        other = tokens ∧ (Token.paramNames tokens).Nodup ∧ UnnamedStandAlone delimiter tokens) ∧
      ((∃ name, tokenize delimiter pattern = .error (.duplicateName pattern name)) ↔
        ¬(Token.paramNames tokens).Nodup) ∧
      ((∃ position, tokenize delimiter pattern = .error (.unnamedInSegment pattern position)) ↔
        (Token.paramNames tokens).Nodup ∧ ¬UnnamedStandAlone delimiter tokens) := by
  rw [tokenize_of_derives h htokens]
  rcases checkTokens_cases pattern delimiter tokens with
    ⟨hnames, halone, hcheck⟩ | ⟨hnames, name, hcheck⟩ | ⟨hnames, halone, position, hcheck⟩
  · simp [hcheck, hnames, halone, Except.map, eq_comm]
  · simp [hcheck, hnames, Except.map]
  · simp [hcheck, hnames, halone, Except.map]

/-- The tokenizer accepts exactly the patterns that derive items, but for its two checks, and every
other refusal is the same under all delimiters. The tokens of a pattern are those that its items
mean. There is one such list; it is given if the names of its parameters differ and its unnamed
parameters stand alone, and the check that fails first is reported otherwise. -/
theorem tokenize_eq_meaning (pattern : String) (delimiter : Char) :
    ((∃ items, Derives pattern.toList items) ↔
        (∃ tokens, tokenize delimiter pattern = .ok tokens) ∨
          (∃ name, tokenize delimiter pattern = .error (.duplicateName pattern name)) ∨
            ∃ position,
              tokenize delimiter pattern = .error (.unnamedInSegment pattern position)) ∧
      (∀ error, tokenize delimiter pattern = .error error →
        (∃ name, error = .duplicateName pattern name) ∨
          (∃ position, error = .unnamedInSegment pattern position) ∨
            ∃ fault, error = .spelling pattern fault ∧
              ∀ other, tokenize other pattern = .error error) ∧
      ∀ items, Derives pattern.toList items →
        ∃ tokens, (∀ other, Means delimiter 0 items other ↔ other = tokens) ∧
          (∀ other, tokenize delimiter pattern = .ok other ↔
            other = tokens ∧ (Token.paramNames tokens).Nodup ∧
              UnnamedStandAlone delimiter tokens) ∧
          ((∃ name, tokenize delimiter pattern = .error (.duplicateName pattern name)) ↔
            ¬(Token.paramNames tokens).Nodup) ∧
          ((∃ position, tokenize delimiter pattern = .error (.unnamedInSegment pattern position)) ↔
            (Token.paramNames tokens).Nodup ∧ ¬UnnamedStandAlone delimiter tokens) := by
  refine ⟨exists_derives_iff delimiter pattern, fun error herror ↦ ?_, fun items hitems ↦ ?_⟩
  · -- Only a pattern that derives nothing has a fault, and scanning it needs no delimiter.
    by_cases hderives : ∃ items, Derives pattern.toList items
    · rcases (exists_derives_iff delimiter pattern).mp hderives with
        ⟨tokens, h⟩ | ⟨name, h⟩ | ⟨position, h⟩
      · rw [h] at herror
        cases herror
      · rw [h] at herror
        exact .inl ⟨name, (Except.error.inj herror).symm⟩
      · rw [h] at herror
        exact .inr (.inl ⟨position, (Except.error.inj herror).symm⟩)
    · obtain ⟨fault, hfault⟩ := tokenize_of_not_derives hderives
      obtain rfl := Except.error.inj (herror.symm.trans (hfault delimiter))
      exact .inr (.inr ⟨fault, rfl, hfault⟩)
  · have htokens : Means delimiter 0 items (Token.ofItems delimiter items) := means_iff.mpr rfl
    exact ⟨_, fun other ↦ means_iff, tokenize_cases_of_derives hitems htokens⟩

/-- An escaped full stop stays text, a raw one leads the parameter after it. A colon without a name
is refused under every delimiter. -/
theorem tokenize_eq_meaning_extension :
    Derives "/v1\\./:id([0-9]+)?.:ext".toList
        (Item.literals [('/', false), ('v', false), ('1', false), ('.', true), ('/', false)] ++
          [.param (some "id") (some "[0-9]+") (some .zeroOrOne), .literal '.' false,
            .param (some "ext") none none]) ∧
      tokenize '/' "/v1\\./:id([0-9]+)?.:ext" = .ok
        [.literal "/v1.", .param ⟨.named "id", "[0-9]+", some '/', .zeroOrOne⟩,
          .param ⟨.named "ext", "[^\\./]+?", some '.', .one⟩] ∧
      ∀ delimiter, tokenize delimiter "/:" = .error (.spelling "/:" (.missingName 1)) := by
  have hderives : Derives "/v1\\./:id([0-9]+)?.:ext".toList
      (Item.literals [('/', false), ('v', false), ('1', false), ('.', true), ('/', false)] ++
        [.param (some "id") (some "[0-9]+") (some .zeroOrOne), .literal '.' false,
          .param (some "ext") none none]) :=
    Item.scan_eq_ok_iff.mp (by with_unfolding_all rfl)
  refine ⟨hderives, ?_, ?_⟩
  · obtain ⟨-, -, hmeaning⟩ := tokenize_eq_meaning "/v1\\./:id([0-9]+)?.:ext" '/'
    obtain ⟨tokens, hmeans, hok, -⟩ := hmeaning _ hderives
    obtain rfl := (hmeans _).mp (means_iff.mpr rfl)
    exact (hok _).mpr (by decide +kernel)
  · obtain ⟨-, hrefused, -⟩ := tokenize_eq_meaning "/:" '/'
    rcases hrefused (.spelling "/:" (.missingName 1)) (by with_unfolding_all rfl) with
      ⟨name, h⟩ | ⟨position, h⟩ | ⟨fault, -, h⟩
    · cases h
    · cases h
    · exact h

end Patterns

end RoutePatterns
