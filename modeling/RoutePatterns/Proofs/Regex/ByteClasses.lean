import RoutePatterns.Proofs.Regex.Pieces

/-!
# Classes over bytes

With `unicode` off an expression is read as one over bytes. A class then has ASCII characters only,
since any other item is refused where it is written (`isAscii_of_readBracket`). The complement of
such a set goes beyond ASCII and could match within the bytes of a character. So a set over bytes is
refused exactly if it would go beyond ASCII (`Flags.isSome_negate?_iff`), and what a piece matches
is an ASCII character or a character that is written out (`isAscii_or_eq_single_of_readPiece?`).
-/

set_option autoImplicit false
set_option relaxedAutoImplicit false

namespace RoutePatterns.Regex

/-! ### Sets of ASCII characters -/

namespace CharSet

/-- Every character of the set is ASCII. -/
def IsAscii (set : CharSet) : Prop :=
  ∀ char, set char = true → char.toNat < 0x80

variable {first second set : CharSet}

theorem isAscii_none : none.IsAscii :=
  fun _ hchar ↦ absurd hchar Bool.false_ne_true

theorem isAscii_single {char : Char} (hchar : char.toNat < 0x80) : (single char).IsAscii := by
  intro other hother
  rwa [eq_of_beq hother]

theorem isAscii_range {low high : Char} (hhigh : high.toNat < 0x80) : (range low high).IsAscii := by
  intro char hchar
  have hle : char ≤ high := of_decide_eq_true (Bool.and_eq_true_iff.mp hchar).2
  have hle : char.toNat ≤ high.toNat := hle
  omega

theorem IsAscii.union (hfirst : first.IsAscii) (hsecond : second.IsAscii) :
    (first.union second).IsAscii :=
  fun char hchar ↦ (Bool.or_eq_true_iff.mp hchar).elim (hfirst char) (hsecond char)

theorem IsAscii.inter (hfirst : first.IsAscii) (second : CharSet) :
    (first.inter second).IsAscii :=
  fun char hchar ↦ hfirst char (Bool.and_eq_true_iff.mp hchar).1

theorem IsAscii.diff (hfirst : first.IsAscii) (second : CharSet) : (first.diff second).IsAscii :=
  fun char hchar ↦ hfirst char (Bool.and_eq_true_iff.mp hchar).1

theorem IsAscii.symmDiff (hfirst : first.IsAscii) (hsecond : second.IsAscii) :
    (first.symmDiff second).IsAscii := by
  intro char hchar
  cases hmem : first char with
  | true => exact hfirst char hmem
  | false =>
    refine hsecond char ?_
    rw [CharSet.symmDiff, hmem] at hchar
    simpa using hchar

/-- A character whose other case is ASCII is ASCII. -/
theorem toNat_lt_of_swapAsciiCase {char : Char} (h : (swapAsciiCase char).toNat < 0x80) :
    char.toNat < 0x80 := by
  unfold swapAsciiCase at h
  split at h
  · next hlower => exact @isAscii_range 'a' 'z' (by decide) char hlower
  · split at h
    · next hupper => exact @isAscii_range 'A' 'Z' (by decide) char hupper
    · exact h

theorem IsAscii.foldedAscii (h : set.IsAscii) : set.foldedAscii.IsAscii := by
  intro char hchar
  rcases Bool.or_eq_true_iff.mp hchar with hmem | hswapped
  · exact h char hmem
  · exact toNat_lt_of_swapAsciiCase (h _ hswapped)

/-- What is left out of a set of ASCII characters goes beyond ASCII. -/
theorem IsAscii.not_compl (h : set.IsAscii) : ¬ set.compl.IsAscii := by
  intro hcompl
  have hbeyond : ¬ 'é'.toNat < 0x80 := by decide
  cases hmem : set 'é' with
  | true => exact hbeyond (h 'é' hmem)
  | false => exact hbeyond (hcompl 'é' (by rw [compl, hmem]; rfl))

theorem isAscii_asciiDigit : asciiDigit.IsAscii :=
  @isAscii_range '0' '9' (by decide)

theorem toNat_lt_of_isAlpha {char : Char} (h : char.isAlpha = true) : char.toNat < 0x80 := by
  rcases Bool.or_eq_true_iff.mp h with hupper | hlower
  · have hle : char ≤ 'Z' := (of_decide_eq_true hupper).2
    exact Nat.lt_of_le_of_lt hle (by decide)
  · exact @isAscii_range 'a' 'z' (by decide) char hlower

theorem toNat_lt_of_isAlphanum {char : Char} (h : char.isAlphanum = true) : char.toNat < 0x80 :=
  (Bool.or_eq_true_iff.mp h).elim toNat_lt_of_isAlpha (isAscii_asciiDigit char)

theorem isAscii_asciiSpace : asciiSpace.IsAscii :=
  (isAscii_single (by decide)).union (isAscii_range (by decide))

theorem isAscii_asciiWord : asciiWord.IsAscii :=
  IsAscii.union (fun _ ↦ toNat_lt_of_isAlphanum) (isAscii_single (by decide))

/-- The sets that are named inside brackets are ASCII. -/
theorem isAscii_of_asciiNamed? {name : String} (h : asciiNamed? name = some set) : set.IsAscii := by
  unfold asciiNamed? at h
  split at h <;> cases h
  · exact fun _ ↦ toNat_lt_of_isAlphanum
  · exact fun _ ↦ toNat_lt_of_isAlpha
  · exact fun _ ↦ of_decide_eq_true
  · exact (isAscii_single (by decide)).union (isAscii_single (by decide))
  · intro char hchar
    simp only [Bool.or_eq_true, decide_eq_true_eq, beq_iff_eq] at hchar
    omega
  · exact isAscii_asciiDigit
  · exact isAscii_range (by decide)
  · exact isAscii_range (by decide)
  · exact isAscii_range (by decide)
  · exact (((isAscii_range (by decide)).union (isAscii_range (by decide))).union
      (isAscii_range (by decide))).union (isAscii_range (by decide))
  · exact isAscii_asciiSpace
  · exact isAscii_range (by decide)
  · exact isAscii_asciiWord
  · exact (isAscii_asciiDigit.union (isAscii_range (by decide))).union (isAscii_range (by decide))

end CharSet

variable {flags : Flags} {set : CharSet}

/-! ### Switches -/

namespace Flags

theorem isAscii_fold (hflags : flags.unicode = false) (h : set.IsAscii) :
    (flags.fold set).IsAscii := by
  unfold fold
  rw [hflags]
  cases flags.ignoreCase with
  | false => exact h
  | true => exact h.foldedAscii

/-- Over bytes only a set that is not to be complemented is left. -/
theorem eq_of_negate? (hflags : flags.unicode = false) {negated : Bool} {result : CharSet}
    (h : flags.negate? negated set = some result) : result = set := by
  unfold negate? at h
  rw [hflags] at h
  cases negated with
  | false => exact (Option.some.inj h).symm
  | true => cases h

/-- Over bytes a set is refused exactly if it would go beyond ASCII. -/
theorem isSome_negate?_iff (hflags : flags.unicode = false) (h : set.IsAscii) (negated : Bool) :
    (flags.negate? negated set).isSome = true ↔ (if negated then set.compl else set).IsAscii := by
  unfold negate?
  rw [hflags]
  cases negated with
  | false => simpa using h
  | true => simpa using h.not_compl

end Flags

/-! ### Items -/

/-- The set that a letter after a backslash stands for over bytes is ASCII. -/
def Escaped.IsAscii : Escaped → Prop
  | .classSet _ ascii _ => ascii.IsAscii
  | _ => True

theorem Escaped.isAscii_of_map {α : Type} {found : Option α} {make : α → Escaped × List Char}
    {escaped : Escaped} {rest : List Char} (h : found.map make = some (escaped, rest))
    (hmake : ∀ value, (make value).1.IsAscii) : escaped.IsAscii := by
  obtain ⟨value, -, heq⟩ := Option.map_eq_some_iff.mp h
  have hvalue := hmake value
  rwa [heq] at hvalue

theorem isAscii_of_readHex {byte : Bool} {width : ℕ} {text rest : List Char} {escaped : Escaped}
    (h : readHex flags byte width text = some (escaped, rest)) : escaped.IsAscii := by
  unfold readHex at h
  split at h <;> split at h
  · cases h
  · exact Escaped.isAscii_of_map h fun _ ↦ trivial
  · cases h
  · exact Escaped.isAscii_of_map h fun _ ↦ trivial

theorem isAscii_of_readProperty {negated : Bool} {text rest : List Char} {escaped : Escaped}
    (h : readProperty flags negated text = some (escaped, rest)) : escaped.IsAscii := by
  unfold readProperty at h
  split at h
  · cases h
  · cases h
  · split at h
    · cases h
    · exact Escaped.isAscii_of_map h fun _ ↦ trivial
  · exact Escaped.isAscii_of_map h fun _ ↦ trivial

theorem isAscii_of_readBoundary {text rest : List Char} {escaped : Escaped}
    (h : readBoundary flags text = some (escaped, rest)) : escaped.IsAscii := by
  unfold readBoundary at h
  split at h
  · split at h
    · cases h
    · split at h
      · cases h
        trivial
      · split at h
        · cases h
        · split at h <;> cases h <;> trivial
  · cases h
    trivial

theorem isAscii_of_readEscaped {text rest : List Char} {escaped : Escaped}
    (h : readEscaped flags text = some (escaped, rest)) : escaped.IsAscii := by
  unfold readEscaped at h
  split at h
  · cases h
  · split at h
    case h_1 | h_2 | h_3 => exact isAscii_of_readHex h
    case h_4 | h_5 => exact isAscii_of_readProperty h
    case h_6 | h_7 =>
      cases h
      exact CharSet.isAscii_asciiDigit
    case h_8 | h_9 =>
      cases h
      exact CharSet.isAscii_asciiSpace
    case h_10 | h_11 =>
      cases h
      exact CharSet.isAscii_asciiWord
    case h_20 => exact isAscii_of_readBoundary h
    case h_24 =>
      split at h
      · cases h
        trivial
      · cases h
    all_goals
      cases h
      trivial

/-- A character that is an item over bytes is ASCII. -/
theorem isAscii_of_literalAtom? (hflags : flags.unicode = false) {char : Char} {atom : BracketAtom}
    (h : literalAtom? flags char = some atom) : atom.toSet.IsAscii := by
  unfold literalAtom? at h
  rw [hflags, Bool.false_or] at h
  split at h
  · next hchar =>
    cases h
    exact CharSet.isAscii_single (of_decide_eq_true hchar)
  · cases h

theorem isAscii_of_escapedAtom? (hflags : flags.unicode = false) {escaped : Escaped}
    {atom : BracketAtom} (hescaped : escaped.IsAscii) (h : escapedAtom? flags escaped = some atom) :
    atom.toSet.IsAscii := by
  cases escaped with
  | literal char byte => exact isAscii_of_literalAtom? hflags h
  | classSet unicode ascii negated =>
    obtain ⟨set, hset, rfl⟩ := Option.map_eq_some_iff.mp h
    rw [Flags.eq_of_negate? hflags hset, hflags]
    exact hescaped
  | property set negated =>
    unfold escapedAtom? at h
    rw [hflags] at h
    cases h
  | look condition => cases h

theorem isAscii_of_readAtom (hflags : flags.unicode = false) {char : Char} {text rest : List Char}
    {atom : BracketAtom} (h : readAtom flags char text = some (atom, rest)) :
    atom.toSet.IsAscii := by
  unfold readAtom at h
  split at h
  · split at h
    · cases h
    · next hescaped =>
      obtain ⟨_, hatom, heq⟩ := Option.map_eq_some_iff.mp h
      cases heq
      exact isAscii_of_escapedAtom? hflags (isAscii_of_readEscaped hescaped) hatom
  · obtain ⟨_, hatom, heq⟩ := Option.map_eq_some_iff.mp h
    cases heq
    exact isAscii_of_literalAtom? hflags hatom

theorem isAscii_of_readRange (hflags : flags.unicode = false) {char : Char} {text rest : List Char}
    (h : readRange flags char text = some (set, rest)) : set.IsAscii := by
  unfold readRange at h
  split at h
  · cases h
  · next hfirst =>
    have hitem := isAscii_of_readAtom hflags hfirst
    split at h
    · split at h
      · cases h
        exact hitem
      · split at h
        · cases h
        · split at h
          · next low high _ hsecond =>
            -- The last character of a range is an item itself.
            have hhigh : high.toNat < 0x80 :=
              isAscii_of_readAtom hflags hsecond high (beq_self_eq_true high)
            split at h
            · cases h
              exact CharSet.isAscii_range hhigh
            · cases h
          · cases h
    · cases h
      exact hitem

/-! ### Brackets -/

/-- What has been read of a class is ASCII. -/
structure Bracket.IsAscii (bracket : Bracket) : Prop where
  left : ∀ operation set, bracket.left = some (operation, set) → set.IsAscii
  items : bracket.items.IsAscii

namespace Bracket

variable {bracket : Bracket}

theorem isAscii_of_left_eq_none (hleft : bracket.left = none) (hitems : bracket.items.IsAscii) :
    bracket.IsAscii where
  left _ _ h := by rw [hleft] at h; cases h
  items := hitems

theorem IsAscii.add (h : bracket.IsAscii) (hset : set.IsAscii) : (bracket.add set).IsAscii where
  left := h.left
  items := h.items.union hset

theorem IsAscii.operand (h : bracket.IsAscii) (hflags : flags.unicode = false) :
    (bracket.operand flags).IsAscii := by
  unfold Bracket.operand
  split
  · exact h.items
  · next operation left hleft =>
    have hfirst := Flags.isAscii_fold hflags (h.left operation left hleft)
    have hsecond := Flags.isAscii_fold hflags h.items
    cases operation with
    | inter => exact hfirst.inter _
    | diff => exact hfirst.diff _
    | symmDiff => exact hfirst.symmDiff hsecond

theorem IsAscii.operate (h : bracket.IsAscii) (hflags : flags.unicode = false)
    (operation : SetOperation) : (bracket.operate flags operation).IsAscii where
  left _ _ heq := by
    cases heq
    exact h.operand hflags
  items := CharSet.isAscii_none

theorem IsAscii.of_close? (h : bracket.IsAscii) (hflags : flags.unicode = false)
    (hclose : bracket.close? flags = some set) : set.IsAscii := by
  rw [Flags.eq_of_negate? hflags hclose]
  exact Flags.isAscii_fold hflags (h.operand hflags)

end Bracket

theorem isAscii_openBracket (flags : Flags) (text : List Char) :
    (openBracket flags text).1.IsAscii := by
  unfold openBracket
  simp only
  split
  · exact Bracket.isAscii_of_left_eq_none rfl (CharSet.isAscii_single (by decide))
  · exact Bracket.isAscii_of_left_eq_none rfl (CharSet.isAscii_single (by decide))
  · exact Bracket.isAscii_of_left_eq_none rfl CharSet.isAscii_none

theorem isAscii_of_readAsciiNamed {text rest : List Char} {negated : Bool}
    (h : readAsciiNamed text = some (set, negated, rest)) : set.IsAscii := by
  unfold readAsciiNamed at h
  split at h
  · simp only at h
    split at h
    · obtain ⟨named, hnamed, heq⟩ := Option.map_eq_some_iff.mp h
      cases heq
      exact CharSet.isAscii_of_asciiNamed? hnamed
    · cases h
  · cases h

/-- The class that is read, or what has been read of it and of the brackets around it, is ASCII. -/
def BracketStep.IsAscii : BracketStep → Prop
  | .more current outer _ => current.IsAscii ∧ ∀ bracket ∈ outer, bracket.IsAscii
  | .done set _ => set.IsAscii

section Steps

variable {current : Bracket} {outer : List Bracket} {rest : List Char} {step : BracketStep}

theorem isAscii_of_nestBracket (hflags : flags.unicode = false) (hcurrent : current.IsAscii)
    (houter : ∀ bracket ∈ outer, bracket.IsAscii)
    (h : nestBracket flags current outer rest = some step) : step.IsAscii := by
  unfold nestBracket at h
  split at h
  · next hnamed =>
    obtain ⟨named, hset, rfl⟩ := Option.map_eq_some_iff.mp h
    rw [Flags.eq_of_negate? hflags hset]
    have hnamed := isAscii_of_readAsciiNamed hnamed
    exact ⟨hcurrent.add (Flags.isAscii_fold hflags hnamed), houter⟩
  · cases h
    exact ⟨isAscii_openBracket _ _, List.forall_mem_cons.mpr ⟨hcurrent, houter⟩⟩

theorem isAscii_of_closeBracket (hflags : flags.unicode = false) (hcurrent : current.IsAscii)
    (houter : ∀ bracket ∈ outer, bracket.IsAscii)
    (h : closeBracket flags current outer rest = some step) : step.IsAscii := by
  unfold closeBracket at h
  split at h
  · cases h
  · next hclose =>
    have hset := hcurrent.of_close? hflags hclose
    split at h
    · cases h
      exact hset
    · cases h
      obtain ⟨hparent, houter⟩ := List.forall_mem_cons.mp houter
      exact ⟨hparent.add hset, houter⟩

theorem isAscii_of_bracketStep (hflags : flags.unicode = false) (hcurrent : current.IsAscii)
    (houter : ∀ bracket ∈ outer, bracket.IsAscii) {char : Char}
    (h : bracketStep flags current outer char rest = some step) : step.IsAscii := by
  unfold bracketStep at h
  split at h
  · exact isAscii_of_nestBracket hflags hcurrent houter h
  · exact isAscii_of_closeBracket hflags hcurrent houter h
  · cases h
    exact ⟨hcurrent.operate hflags _, houter⟩
  · cases h
    exact ⟨hcurrent.operate hflags _, houter⟩
  · cases h
    exact ⟨hcurrent.operate hflags _, houter⟩
  · obtain ⟨_, hrange, rfl⟩ := Option.map_eq_some_iff.mp h
    exact ⟨hcurrent.add (isAscii_of_readRange hflags hrange), houter⟩

end Steps

theorem isAscii_of_readBracketFrom (hflags : flags.unicode = false) {current : Bracket}
    {outer : List Bracket} {text rest : List Char} (hcurrent : current.IsAscii)
    (houter : ∀ bracket ∈ outer, bracket.IsAscii)
    (h : readBracketFrom flags current outer text = some (set, rest)) : set.IsAscii := by
  fun_induction readBracketFrom flags current outer text with
  | case1 => cases h
  | case2 => cases h
  | case3 current outer text char middle hskip set' rest' hstep =>
    cases h
    exact isAscii_of_bracketStep hflags hcurrent houter hstep
  | case4 current outer text char middle hskip current' outer' rest' hstep _ ih =>
    obtain ⟨hcurrent, houter⟩ := isAscii_of_bracketStep hflags hcurrent houter hstep
    exact ih hcurrent houter h

/-- A class over bytes is ASCII. -/
theorem isAscii_of_readBracket (hflags : flags.unicode = false) {text rest : List Char}
    (h : readBracket flags text = some (set, rest)) : set.IsAscii :=
  isAscii_of_readBracketFrom hflags (isAscii_openBracket flags text) (List.forall_mem_nil _) h

-- The first byte beyond ASCII is refused, although the complement would leave it out.
example : (readBracket { unicode := false } "^\\x80-\\xFF]".toList).isNone = true := by
  with_unfolding_all decide

theorem isAscii_or_eq_single_of_escapedPiece? (hflags : flags.unicode = false) {escaped : Escaped}
    (hescaped : escaped.IsAscii) (h : escapedPiece? flags escaped = some (.one set)) :
    set.IsAscii ∨ ∃ written, set = flags.single written := by
  cases escaped with
  | literal char byte =>
    rw [escapedPiece?] at h
    split at h
    · cases h
      exact Or.inr ⟨char, rfl⟩
    · cases h
  | classSet unicode ascii negated =>
    obtain ⟨_, hset, heq⟩ := Option.map_eq_some_iff.mp h
    cases heq
    rw [Flags.eq_of_negate? hflags hset, hflags]
    exact Or.inl hescaped
  | property set negated =>
    unfold escapedPiece? at h
    rw [hflags] at h
    cases h
  | look condition => cases h

/-- Over bytes a piece stands for ASCII characters or for a character that is written out. -/
theorem isAscii_or_eq_single_of_readPiece? (hflags : flags.unicode = false) {char : Char}
    {text rest : List Char} (h : readPiece? flags char text = some (.one set, rest)) :
    set.IsAscii ∨ ∃ written, set = flags.single written := by
  unfold readPiece? at h
  split at h
  case h_4 =>
    obtain ⟨_, hset, heq⟩ := Option.map_eq_some_iff.mp h
    cases heq
    exact Or.inl (isAscii_of_readBracket hflags hset)
  case h_9 =>
    obtain ⟨escaped, hescaped, h⟩ := Option.bind_eq_some_iff.mp h
    obtain ⟨_, hpiece, heq⟩ := Option.map_eq_some_iff.mp h
    cases heq
    exact isAscii_or_eq_single_of_escapedPiece? hflags (isAscii_of_readEscaped hescaped) hpiece
  case h_10 =>
    rw [Flags.dot?, hflags] at h
    cases h
  case h_13 =>
    cases h
    exact Or.inr ⟨char, rfl⟩
  case h_1 | h_8 =>
    obtain ⟨_, _, heq⟩ := Option.map_eq_some_iff.mp h
    cases heq
  all_goals cases h

end RoutePatterns.Regex
