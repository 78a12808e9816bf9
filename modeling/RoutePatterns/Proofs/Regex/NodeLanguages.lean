import RoutePatterns.Proofs.Regex.Found
import RoutePatterns.Proofs.Regex.Languages

/-!
# The language of an expression

An expression without conditions (`Node.isFree`) reads the same texts wherever they stand. They are
its language, `Node.language`, which is told by recursion on the expression
(`Node.exists_reads_iff`). What is recorded is left out of account. An expression for whole texts
matches the texts in the language of what stands between its two ends
(`isMatch_iff_mem_language`).
-/

set_option autoImplicit false
set_option relaxedAutoImplicit false

namespace RoutePatterns.Regex

open scoped Computability

namespace Node

/-- Whether the expression has no conditions. -/
def isFree : Node → Bool
  | empty | one _ => true
  | look _ => false
  | capture _ body | plus _ body | loop _ body => body.isFree
  | seq first second | alt first second => first.isFree && second.isFree

/-- The texts that the expression can read, conditions aside. -/
def language : Node → Language Char
  | empty | look _ => 1
  | one set => textsWith fun part ↦ ∃ char, set char = true ∧ part = [char]
  | capture _ body => body.language
  | seq first second => first.language * second.language
  | alt first second => first.language + second.language
  | plus _ body => body.language∗ * body.language
  | loop _ body => body.language∗

variable {text : List Char}

/-- What is read is in the language. -/
theorem exists_part_of_reads {node : Node} (hfree : node.isFree = true) {start stop : ℕ}
    {recorded : List Recorded} (h : Reads text node start stop recorded) :
    ∃ part ∈ node.language, Covers text start stop part := by
  induction h with
  | empty position => exact ⟨[], Language.nil_mem_one, .nil _⟩
  | @one set position char hchar hset =>
    exact ⟨[char], ⟨char, hset, rfl⟩, covers_singleton_iff.mpr ⟨hchar, rfl⟩⟩
  | look => cases hfree
  | capture _ _ ih => exact ih hfree
  | seq _ _ ihfirst ihsecond =>
    obtain ⟨hfirst, hsecond⟩ := (Bool.and_eq_true _ _).mp hfree
    obtain ⟨front, hfront, hcovers⟩ := ihfirst hfirst
    obtain ⟨back, hback, hcovers'⟩ := ihsecond hsecond
    exact ⟨front ++ back, Language.append_mem_mul hfront hback, hcovers.append hcovers'⟩
  | altFirst _ _ ih =>
    obtain ⟨part, hpart, hcovers⟩ := ih ((Bool.and_eq_true _ _).mp hfree).1
    exact ⟨part, Or.inl hpart, hcovers⟩
  | altSecond _ _ ih =>
    obtain ⟨part, hpart, hcovers⟩ := ih ((Bool.and_eq_true _ _).mp hfree).2
    exact ⟨part, Or.inr hpart, hcovers⟩
  | plusOne _ ih =>
    obtain ⟨part, hpart, hcovers⟩ := ih hfree
    exact ⟨part, Language.append_mem_mul (Language.nil_mem_kstar _) hpart, hcovers⟩
  | plusMore _ _ ihrounds ihbody =>
    obtain ⟨front, hfront, hcovers⟩ := ihrounds hfree
    obtain ⟨back, hback, hcovers'⟩ := ihbody hfree
    refine ⟨front ++ back, Language.append_mem_mul ?_ hback, hcovers.append hcovers'⟩
    rw [← Language.one_add_kstar_mul_self_eq_kstar]
    exact Or.inr hfront
  | loopNone => exact ⟨[], Language.nil_mem_kstar _, .nil _⟩
  | loopMore _ _ ihrounds ihbody =>
    obtain ⟨front, hfront, hcovers⟩ := ihrounds hfree
    obtain ⟨back, hback, hcovers'⟩ := ihbody hfree
    refine ⟨front ++ back, ?_, hcovers.append hcovers'⟩
    rw [language, ← Language.one_add_kstar_mul_self_eq_kstar]
    exact Or.inr (Language.append_mem_mul hfront hback)

/-- Rounds of a loop are read one after the other. -/
theorem exists_reads_loop {body : Node} {greedy : Bool} {start stop : ℕ}
    (hbody : ∀ {start stop : ℕ} {part : List Char}, part ∈ body.language →
      Covers text start stop part → ∃ recorded, Reads text body start stop recorded)
    {part : List Char} (hpart : part ∈ body.language∗) (hcovers : Covers text start stop part) :
    ∃ recorded, Reads text (.loop greedy body) start stop recorded := by
  obtain ⟨parts, rfl, hparts⟩ := Language.mem_kstar.mp hpart
  clear hpart
  -- The last part is the last round.
  induction parts using List.reverseRecOn generalizing stop with
  | nil =>
    obtain rfl := covers_nil_iff.mp hcovers
    exact ⟨[], .loopNone _ _ _⟩
  | append_singleton parts last ih =>
    rw [List.flatten_append, List.flatten_singleton] at hcovers
    obtain ⟨middle, hfront, hback⟩ := covers_append_iff.mp hcovers
    obtain ⟨hinit, hlast⟩ := List.forall_mem_append.mp hparts
    obtain ⟨earlier, hrounds⟩ := ih hinit hfront
    obtain ⟨later, hround⟩ := hbody (hlast last List.mem_cons_self) hback
    exact ⟨later ++ earlier, .loopMore hrounds hround⟩

/-- What is in the language is read wherever it stands. -/
theorem exists_reads_of_mem {node : Node} (hfree : node.isFree = true) {start stop : ℕ}
    {part : List Char} (hpart : part ∈ node.language) (hcovers : Covers text start stop part) :
    ∃ recorded, Reads text node start stop recorded := by
  induction node generalizing start stop part with
  | empty =>
    obtain rfl := hpart
    obtain rfl := covers_nil_iff.mp hcovers
    exact ⟨[], .empty _⟩
  | one set =>
    obtain ⟨char, hset, rfl⟩ := hpart
    obtain ⟨hchar, rfl⟩ := covers_singleton_iff.mp hcovers
    exact ⟨[], .one hchar hset⟩
  | look => cases hfree
  | capture name body ih =>
    obtain ⟨recorded, hbody⟩ := ih hfree hpart hcovers
    exact ⟨_, .capture name hbody⟩
  | seq first second ihfirst ihsecond =>
    obtain ⟨hfirst, hsecond⟩ := (Bool.and_eq_true _ _).mp hfree
    obtain ⟨front, hfront, back, hback, rfl⟩ := Language.mem_mul.mp hpart
    obtain ⟨middle, hcovers, hcovers'⟩ := covers_append_iff.mp hcovers
    obtain ⟨earlier, hreads⟩ := ihfirst hfirst hfront hcovers
    obtain ⟨later, hreads'⟩ := ihsecond hsecond hback hcovers'
    exact ⟨_, .seq hreads hreads'⟩
  | alt first second ihfirst ihsecond =>
    obtain ⟨hfirst, hsecond⟩ := (Bool.and_eq_true _ _).mp hfree
    rcases hpart with hpart | hpart
    · obtain ⟨recorded, hreads⟩ := ihfirst hfirst hpart hcovers
      exact ⟨recorded, .altFirst _ hreads⟩
    · obtain ⟨recorded, hreads⟩ := ihsecond hsecond hpart hcovers
      exact ⟨recorded, .altSecond _ hreads⟩
  | plus greedy body ih =>
    obtain ⟨front, hfront, back, hback, rfl⟩ := Language.mem_mul.mp hpart
    obtain ⟨middle, hcovers, hcovers'⟩ := covers_append_iff.mp hcovers
    obtain ⟨earlier, hrounds⟩ := @exists_reads_loop _ body greedy _ _ (ih hfree) _ hfront hcovers
    obtain ⟨later, hround⟩ := ih hfree hback hcovers'
    refine ⟨_, reads_plus_iff.mpr (.cons hrounds (readsAll_singleton_iff.mpr hround))⟩
  | loop greedy body ih => exact exists_reads_loop (ih hfree) hpart hcovers

/-- An expression without conditions reads the texts in its language. -/
theorem exists_reads_iff {node : Node} (hfree : node.isFree = true) {start stop : ℕ} :
    (∃ recorded, Reads text node start stop recorded) ↔
      ∃ part ∈ node.language, Covers text start stop part := by
  constructor
  · rintro ⟨recorded, hreads⟩
    exact exists_part_of_reads hfree hreads
  · rintro ⟨part, hpart, hcovers⟩
    exact exists_reads_of_mem hfree hpart hcovers

end Node

/-! ### Lists of expressions -/

/-- The texts that the expressions can read one after the other, conditions aside. -/
def languageOf (nodes : List Node) : Language Char :=
  (nodes.map Node.language).prod

@[simp]
theorem languageOf_nil : languageOf [] = 1 :=
  rfl

@[simp]
theorem languageOf_cons (node : Node) (nodes : List Node) :
    languageOf (node :: nodes) = node.language * languageOf nodes :=
  List.prod_cons

@[simp]
theorem languageOf_append (front back : List Node) :
    languageOf (front ++ back) = languageOf front * languageOf back := by
  rw [languageOf, List.map_append, List.prod_append]
  rfl

theorem languageOf_singleton (node : Node) : languageOf [node] = node.language := by
  rw [languageOf_cons, languageOf_nil, mul_one]

@[simp]
theorem language_ofItems (nodes : List Node) :
    (Node.ofItems nodes).language = languageOf nodes := by
  fun_induction Node.ofItems nodes with
  | case1 => rfl
  | case2 item => exact (languageOf_singleton item).symm
  | case3 first second rest items ihfront =>
    rename_i ihback
    change _ = languageOf items
    rw [Node.language, ihfront, ihback, ← languageOf_append, List.take_append_drop]

@[simp]
theorem isFree_ofItems (nodes : List Node) :
    (Node.ofItems nodes).isFree = nodes.all Node.isFree := by
  fun_induction Node.ofItems nodes with
  | case1 => rfl
  | case2 item => simp
  | case3 first second rest items ihfront =>
    rename_i ihback
    change _ = items.all Node.isFree
    rw [Node.isFree, ihfront, ihback, ← List.all_append, List.take_append_drop]

@[simp]
theorem language_optional (greedy : Bool) (node : Node) :
    (Node.optional greedy node).language = 1 + node.language := by
  cases greedy with
  | true => exact add_comm _ _
  | false => rfl

@[simp]
theorem isFree_optional (greedy : Bool) (node : Node) :
    (Node.optional greedy node).isFree = node.isFree := by
  cases greedy with
  | true => exact Bool.and_true _
  | false => exact Bool.true_and _

variable {text : List Char} {nodes : List Node}

theorem exists_readsAll_iff (hfree : ∀ node ∈ nodes, node.isFree = true) {start stop : ℕ} :
    (∃ recorded, ReadsAll text nodes start stop recorded) ↔
      ∃ part ∈ languageOf nodes, Covers text start stop part := by
  have hall : (Node.ofItems nodes).isFree = true := by
    rw [isFree_ofItems]
    exact List.all_eq_true.mpr hfree
  rw [← language_ofItems, ← Node.exists_reads_iff hall]
  simp only [reads_ofItems_iff]

/-- Expressions that have a language as they record nothing have it in this sense, too. -/
theorem languageOf_eq_of_hasLanguage (hfree : ∀ node ∈ nodes, node.isFree = true)
    {language : Language Char} (h : ∀ text, HasLanguage text nodes language) :
    languageOf nodes = language := by
  refine Language.ext fun part ↦ ?_
  have hwhole (other : Language Char) :
      (∃ stretch ∈ other, Covers part 0 part.length stretch) ↔ part ∈ other := by
    simp [covers_text_iff]
  rw [← hwhole, ← exists_readsAll_iff hfree, ← hwhole language]
  simp only [h part _ _ _, exists_eq_left]

/-- An expression for whole texts matches those in the language of what it has between the ends. -/
theorem isMatch_iff_mem_language {regex : RoutePatterns.Regex} {path : String}
    (hroot : regex.root = .ofItems ([.look .textStart] ++ nodes ++ [.look .textEnd]))
    (hfree : ∀ node ∈ nodes, node.isFree = true) :
    regex.isMatch path = true ↔ path.toList ∈ languageOf nodes := by
  rw [isMatch_iff_of_anchored hroot, exists_readsAll_iff hfree]
  simp only [covers_text_iff]
  constructor
  · rintro ⟨part, hpart, hpath⟩
    rwa [hpath]
  · intro hpath
    exact ⟨path.toList, hpath, rfl⟩

end RoutePatterns.Regex
