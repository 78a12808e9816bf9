import RoutePatterns.Proofs.Route.Groups

/-!
# Trailing delimiters

Strict routes refuse a trailing delimiter that their pattern does not ask for. The parts of a
pattern are the same whether its route is strict or not (`Part.ofTokens_strict`), and its expression
for whole paths differs in the ending only. If the groups are expressions on their own, nothing
before the ending depends on it, so that both expressions are valid if one is
(`Matcher.IsRead.exists_ofTokens_strict`). If they have no conditions either, the language of the
route that is not strict is that of the strict one, followed by a delimiter or nothing
(`Route.accepts_iff_of_strict`).
-/

set_option autoImplicit false
set_option relaxedAutoImplicit false

namespace RoutePatterns

open Regex (Node Spells Yields languageOf)
open scoped Computability

variable {options : PatternOptions} {strict : Bool}

/-! ### What strictness leaves alone -/

theorem Part.ofTokens_strict (index : ℕ) (tokens : List Token) :
    ofTokens { options with strict } index tokens = ofTokens options index tokens := by
  induction tokens generalizing index with
  | nil => rfl
  | cons token tokens ih =>
    cases token with
    | literal text => rw [ofTokens, ofTokens, ih]
    | param parameter =>
      rw [ofTokens, ofTokens, ih]
      rfl

theorem Part.nodes_strict : nodes { options with strict } = nodes options := by
  ext1 part
  cases part <;> rfl

theorem Token.isFree_strict_iff (token : Token) :
    token.IsFree { options with strict } ↔ token.IsFree options := by
  cases token <;> exact Iff.rfl

/-! ### Matchers -/

theorem Matcher.exists_spells_ending (options : PatternOptions) :
    ∃ nodes, Spells (!options.sensitive) false (ending options) nodes [] := by
  obtain ⟨_, htail⟩ := Token.exists_spells_tail options
  exact ⟨_, htail.append Spells.dollar (by simp)⟩

/-- A matcher whose groups are expressions on their own has a counterpart that is strict, and one
that is not. -/
theorem Matcher.IsRead.exists_ofTokens_strict {tokens : List Token} {matcher : Matcher}
    (h : matcher.IsRead options) (hmatcher : ofTokens options tokens = .ok matcher)
    (strict : Bool) :
    ∃ other, ofTokens { options with strict } tokens = .ok other ∧ other.parts = matcher.parts := by
  obtain ⟨hparts, hregex⟩ := ofTokens_eq_ok_iff.mp hmatcher
  obtain ⟨_, hyields⟩ := Part.exists_yields h.slots
  obtain ⟨_, hending⟩ := exists_spells_ending options
  obtain ⟨_, hending'⟩ := exists_spells_ending { options with strict }
  have hread := compileRegex_eq_ok hregex
  rw [sourceOf_eq] at hread
  have hother := (Spells.caret.yields.append hyields).read?_append hending' (Or.inr hending.head)
    hread
  rw [← sourceOf_eq { options with strict }] at hother
  obtain ⟨regex, hregex'⟩ : ∃ regex, compileRegex { options with strict }
      (sourceOf { options with strict } matcher.parts) = .ok regex :=
    ⟨_, @compileRegex_of_read? { options with strict } _ _ hother⟩
  refine ⟨⟨regex, matcher.parts⟩, ofTokens_eq_ok_iff.mpr ⟨?_, hregex'⟩, rfl⟩
  rw [Part.ofTokens_strict, hparts]

/-! ### Languages -/

/-- What the parts of a matcher without conditions stand for. -/
def Matcher.partsLanguage (options : PatternOptions) (matcher : Matcher) : Language Char :=
  languageOf (matcher.parts.flatMap (Part.nodes options))

namespace Matcher.IsFree

variable {matcher : Matcher} {path : String}

theorem accepts_strict_iff (h : matcher.IsFree options) (hstrict : options.strict = true) :
    matcher.accepts path = true ↔ path.toList ∈ matcher.partsLanguage options := by
  rw [h.accepts_iff, Token.tailNodes, if_pos hstrict, Regex.languageOf_nil, mul_one, partsLanguage]

theorem accepts_loose_iff (h : matcher.IsFree options) (hstrict : options.strict = false)
    (hdelimiter : isAsciiPunctuation options.delimiter = true) :
    matcher.accepts path = true ↔ path.toList ∈ matcher.partsLanguage options ∨
      ∃ front, path.toList = front ++ [options.delimiter] ∧
        front ∈ matcher.partsLanguage options := by
  rw [h.accepts_iff, Token.tailNodes, hstrict, if_neg Bool.false_ne_true,
    Regex.languageOf_singleton, Regex.language_optional, language_charNode_of_punctuation hdelimiter,
    mul_add, mul_one, partsLanguage]
  refine or_congr Iff.rfl ⟨?_, ?_⟩
  · rintro ⟨front, hfront, back, hback, hpath⟩
    exact ⟨front, (Regex.mem_textsWith.mp hback ▸ hpath).symm, hfront⟩
  · rintro ⟨front, hpath, hfront⟩
    exact ⟨front, hfront, _, Regex.mem_textsWith.mpr rfl, hpath.symm⟩

end Matcher.IsFree

/-! ### Routes -/

namespace Route

variable {pattern : String} {weights : Weights Float} {route : Route}

/-- A route without conditions has a counterpart that is strict, and one that is not. Their parts
stand for the same texts. -/
theorem exists_create_strict (hroute : Route.create pattern options weights = .ok route)
    (hgroups : ∀ token ∈ route.tokens, token.IsPlain options.delimiter ∨ token.IsFree options)
    (strict : Bool) :
    ∃ other, Route.create pattern { options with strict } weights = .ok other ∧
      other.matcher.IsFree { options with strict } ∧
      other.matcher.partsLanguage { options with strict } = route.matcher.partsLanguage options := by
  have hfree := isFree_of_create hroute hgroups
  obtain ⟨hoptions, tokens, matcher, htokens, hmatcher, rfl⟩ := create_eq_ok_iff.mp hroute
  obtain ⟨other, hother, hparts⟩ := hfree.exists_ofTokens_strict hmatcher strict
  have hotherFree : other.IsFree { options with strict } := by
    refine Matcher.isFree_of_ofTokens hoptions htokens hother fun token htoken ↦ ?_
    exact (Token.isFree_strict_iff token).mpr ((hgroups token htoken).elim Token.IsPlain.isFree id)
  refine ⟨_, create_eq_ok_iff.mpr ⟨hoptions, tokens, other, htokens, hother, rfl⟩, hotherFree, ?_⟩
  rw [Matcher.partsLanguage, Matcher.partsLanguage, hparts, Part.nodes_strict]

/-- Assumes: groups of their own that are expressions without conditions. If the pattern has a
route, it has one that is strict and one that is not. The latter accepts what the strict one does,
and this with one delimiter behind it, and nothing else. -/
theorem accepts_iff_of_strict (hroute : Route.create pattern options weights = .ok route)
    (hgroups : ∀ token ∈ route.tokens, token.IsPlain options.delimiter ∨ token.IsFree options) :
    ∃ strict loose,
      Route.create pattern { options with strict := true } weights = .ok strict ∧
      Route.create pattern { options with strict := false } weights = .ok loose ∧
      ∀ path, loose.accepts path = true ↔ strict.accepts path = true ∨
        ∃ front, path = front.push options.delimiter ∧ strict.accepts front = true := by
  obtain ⟨strict, hstrict, hstrictFree, hstrictParts⟩ := exists_create_strict hroute hgroups true
  obtain ⟨loose, hloose, hlooseFree, hlooseParts⟩ := exists_create_strict hroute hgroups false
  have hdelimiter : isAsciiPunctuation options.delimiter = true := by
    obtain ⟨hoptions, -⟩ := create_eq_ok_iff.mp hroute
    exact isAsciiPunctuation_of_isDelimiter (validate_eq_ok_iff.mp hoptions)
  have haccepts (path : String) : strict.accepts path = true ↔
      path.toList ∈ route.matcher.partsLanguage options := by
    rw [Route.accepts, hstrictFree.accepts_strict_iff rfl, hstrictParts]
  refine ⟨strict, loose, hstrict, hloose, fun path ↦ ?_⟩
  rw [Route.accepts, hlooseFree.accepts_loose_iff rfl hdelimiter, hlooseParts]
  simp only [haccepts]
  refine or_congr Iff.rfl ⟨?_, ?_⟩
  · rintro ⟨front, hpath, hfront⟩
    refine ⟨String.ofList front, ?_, by rwa [String.toList_ofList]⟩
    rw [← String.toList_inj, String.toList_push, String.toList_ofList, hpath]
  · rintro ⟨front, rfl, hfront⟩
    exact ⟨front.toList, String.toList_push _, hfront⟩

/-- A delimiter behind a path of the pattern `/users/:id(\d+|me)?`. -/
theorem accepts_iff_of_strict_users :
    ∃ strict loose, Route.create "/users/:id(\\d+|me)?" { strict := true } = .ok strict ∧
      Route.create "/users/:id(\\d+|me)?" { strict := false } = .ok loose ∧
      strict.accepts "/users/7/" = false ∧ loose.accepts "/users/7/" = true := by
  let created := (Route.create "/users/:id(\\d+|me)?" {}).toOption
  have hcreated : ∃ route ∈ created, ∀ token ∈ route.tokens,
      token.IsPlain '/' ∨ token.IsFree {} := by
    decide +kernel
  have hpaths : ∀ route ∈ (Route.create "/users/:id(\\d+|me)?" { strict := true }).toOption,
      route.accepts "/users/7" = true ∧ route.accepts "/users/7/" = false := by
    decide +kernel
  obtain ⟨route, hroute, hgroups⟩ := hcreated
  obtain ⟨strict, loose, hstrict, hloose, haccepts⟩ :=
    accepts_iff_of_strict (eq_ok_of_toOption hroute) hgroups
  have hmem : strict ∈ (Route.create "/users/:id(\\d+|me)?" { strict := true }).toOption := by
    rw [hstrict]
    rfl
  obtain ⟨hplain, htrailing⟩ := hpaths strict hmem
  exact ⟨strict, loose, hstrict, hloose, htrailing,
    (haccepts _).mpr (Or.inr ⟨"/users/7", rfl, hplain⟩)⟩

end Route

end RoutePatterns
