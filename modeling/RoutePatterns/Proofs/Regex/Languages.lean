import Mathlib.Computability.Language
import RoutePatterns.Proofs.Regex.Reads

/-!
# Expressions that record nothing

`HasLanguage text nodes language` says that the expressions, one after the other, read exactly the
stretches of the text that are in the language, and record nothing while they do. There is one rule
for each way to put expressions together, with the operations of languages on the right:
`HasLanguage.append`, `HasLanguage.plus`, `HasLanguage.loop`, `HasLanguage.optional`.
-/

set_option autoImplicit false
set_option relaxedAutoImplicit false

namespace RoutePatterns.Regex

open scoped Computability

variable {text : List Char}

/-- The texts with a property. -/
def textsWith (holds : List Char → Prop) : Language Char :=
  {part | holds part}

@[simp]
theorem mem_textsWith {holds : List Char → Prop} {part : List Char} :
    part ∈ textsWith holds ↔ holds part :=
  Iff.rfl

/-- The expressions read the stretches of the text that are in the language, and record nothing. -/
def HasLanguage (text : List Char) (nodes : List Node) (language : Language Char) : Prop :=
  ∀ start stop recorded, ReadsAll text nodes start stop recorded ↔
    recorded = [] ∧ ∃ part ∈ language, Covers text start stop part

namespace HasLanguage

variable {node : Node} {nodes others : List Node} {language other : Language Char}

theorem congr (h : HasLanguage text nodes language)
    (hiff : ∀ part, part ∈ language ↔ part ∈ other) : HasLanguage text nodes other :=
  Language.ext hiff ▸ h

theorem reads_iff (h : HasLanguage text [node] language) {start stop : Nat}
    {recorded : List Recorded} :
    Reads text node start stop recorded ↔
      recorded = [] ∧ ∃ part ∈ language, Covers text start stop part := by
  rw [← h, readsAll_singleton_iff]

theorem of_reads_iff (h : ∀ start stop recorded, Reads text node start stop recorded ↔
    recorded = [] ∧ ∃ part ∈ language, Covers text start stop part) :
    HasLanguage text [node] language := by
  intro start stop recorded
  rw [readsAll_singleton_iff, h]

theorem nil : HasLanguage text [] 1 := by
  intro start stop recorded
  rw [readsAll_nil_iff, and_comm]
  constructor
  · rintro ⟨rfl, rfl⟩
    exact ⟨rfl, [], Language.nil_mem_one, .nil _⟩
  · rintro ⟨rfl, part, rfl, hcovers⟩
    exact ⟨rfl, covers_nil_iff.mp hcovers⟩

theorem append (h : HasLanguage text nodes language) (h' : HasLanguage text others other) :
    HasLanguage text (nodes ++ others) (language * other) := by
  intro start stop recorded
  rw [readsAll_append_iff]
  constructor
  · rintro ⟨middle, earlier, later, hfront, hback, rfl⟩
    obtain ⟨rfl, front, hfrontMem, hfront⟩ := (h _ _ _).mp hfront
    obtain ⟨rfl, back, hbackMem, hback⟩ := (h' _ _ _).mp hback
    exact ⟨rfl, front ++ back, Language.append_mem_mul hfrontMem hbackMem, hfront.append hback⟩
  · rintro ⟨rfl, part, hmem, hcovers⟩
    obtain ⟨front, hfrontMem, back, hbackMem, rfl⟩ := Language.mem_mul.mp hmem
    obtain ⟨middle, hfront, hback⟩ := covers_append_iff.mp hcovers
    exact ⟨middle, [], [], (h _ _ _).mpr ⟨rfl, front, hfrontMem, hfront⟩,
      (h' _ _ _).mpr ⟨rfl, back, hbackMem, hback⟩, rfl⟩

/-- One character of a set. -/
theorem one (set : CharSet) :
    HasLanguage text [.one set] (textsWith fun part ↦ ∃ char, set char = true ∧ part = [char]) := by
  refine of_reads_iff fun start stop recorded ↦ ?_
  rw [reads_one_iff]
  constructor
  · rintro ⟨char, hset, hcovers, rfl⟩
    exact ⟨rfl, [char], ⟨char, hset, rfl⟩, hcovers⟩
  · rintro ⟨rfl, _, ⟨char, hset, rfl⟩, hcovers⟩
    exact ⟨char, hset, hcovers, rfl⟩

/-- Expressions in a group are read as they are without it. -/
theorem group (h : HasLanguage text nodes language) :
    HasLanguage text [Node.ofItems nodes] language :=
  of_reads_iff fun start stop recorded ↦ by rw [reads_ofItems_iff, h]

theorem optional (h : HasLanguage text [node] language) (greedy : Bool) :
    HasLanguage text [Node.optional greedy node] (1 + language) := by
  refine of_reads_iff fun start stop recorded ↦ ?_
  have hnil : start = stop ∧ recorded = [] ↔
      recorded = [] ∧ ∃ part ∈ (1 : Language Char), Covers text start stop part := by
    rw [← nil, readsAll_nil_iff]
  rw [reads_optional_iff, hnil, h.reads_iff, ← and_or_left]
  simp only [Language.mem_add, or_and_right, exists_or]

theorem loop (h : HasLanguage text [node] language) (greedy : Bool) :
    HasLanguage text [.loop greedy node] language∗ := by
  refine of_reads_iff fun start stop recorded ↦ ⟨fun hreads ↦ ?_, ?_⟩
  · generalize hloop : Node.loop greedy node = whole at hreads
    induction hreads with
    | loopNone => exact ⟨rfl, [], Language.nil_mem_kstar language, .nil _⟩
    | loopMore _ hbody ih =>
      obtain ⟨rfl, front, hfrontMem, hfront⟩ := ih hloop
      obtain ⟨-, rfl⟩ := Node.loop.inj hloop
      obtain ⟨rfl, back, hbackMem, hback⟩ := h.reads_iff.mp hbody
      refine ⟨rfl, front ++ back, ?_, hfront.append hback⟩
      rw [← Language.one_add_kstar_mul_self_eq_kstar]
      exact Or.inr (Language.append_mem_mul hfrontMem hbackMem)
    | _ => cases hloop
  · rintro ⟨rfl, part, hmem, hcovers⟩
    obtain ⟨parts, rfl, hparts⟩ := Language.mem_kstar.mp hmem
    clear hmem
    -- The last part is the last round.
    induction parts using List.reverseRecOn generalizing stop with
    | nil =>
      obtain rfl := covers_nil_iff.mp hcovers
      exact .loopNone _ _ _
    | append_singleton parts last ih =>
      rw [List.flatten_append, List.flatten_singleton] at hcovers
      obtain ⟨middle, hfront, hback⟩ := covers_append_iff.mp hcovers
      obtain ⟨hinit, hlast⟩ := List.forall_mem_append.mp hparts
      have hbody := h.reads_iff.mpr ⟨rfl, last, hlast last List.mem_cons_self, hback⟩
      exact .loopMore (ih middle hinit hfront) hbody

theorem plus (h : HasLanguage text [node] language) (greedy : Bool) :
    HasLanguage text [.plus greedy node] (language∗ * language) :=
  of_reads_iff fun start stop recorded ↦ by
    rw [reads_plus_iff]
    exact (h.loop greedy).append h start stop recorded

/-- One character of a set or several. -/
theorem run (set : CharSet) (greedy : Bool) :
    HasLanguage text [.plus greedy (.one set)]
      (textsWith fun part ↦ part ≠ [] ∧ ∀ char ∈ part, set char = true) := by
  refine ((one set).plus greedy).congr fun part ↦ ?_
  rw [Language.mem_mul, mem_textsWith]
  constructor
  · rintro ⟨_, hfront, _, ⟨last, hlast, rfl⟩, rfl⟩
    obtain ⟨items, rfl, hitems⟩ := Language.mem_kstar.mp hfront
    refine ⟨by simp, fun char hchar ↦ ?_⟩
    rcases List.mem_append.mp hchar with hchar | hchar
    · obtain ⟨item, hitem, hchar⟩ := List.mem_flatten.mp hchar
      obtain ⟨only, honly, rfl⟩ := hitems item hitem
      exact List.mem_singleton.mp hchar ▸ honly
    · exact List.mem_singleton.mp hchar ▸ hlast
  · rintro ⟨hne, hset⟩
    obtain ⟨front, last, rfl⟩ := (List.eq_nil_or_concat part).resolve_left hne
    rw [List.concat_eq_append] at hset ⊢
    obtain ⟨hfront, hlast⟩ := List.forall_mem_append.mp hset
    refine ⟨front, Language.mem_kstar.mpr ⟨front.map ([·]), ?_, ?_⟩, [last],
      ⟨last, hlast last List.mem_cons_self, rfl⟩, rfl⟩
    · exact (List.flatMap_singleton' front).symm
    · intro item hitem
      obtain ⟨char, hchar, rfl⟩ := List.mem_map.mp hitem
      exact ⟨char, hfront char hchar, rfl⟩

end HasLanguage

end RoutePatterns.Regex
