import RoutePatterns.Proofs.Matcher.Trees

/-!
# The kind of a plain parameter

A kind is told from the text of a group. The group of a plain parameter is told from one that the
author of the pattern wrote by having no closing bracket in its class (`isDefaultGroup_append`).
So a plain parameter is taken for one with a group of its own if the closing bracket is among the
characters that its values exclude (`Param.kind_of_isPlain`).
-/

set_option autoImplicit false
set_option relaxedAutoImplicit false

namespace RoutePatterns

theorem Regex.mem_escapeChar_self (char : Char) : char ∈ escapeChar char := by
  unfold escapeChar
  split <;> simp

theorem Regex.mem_escapeChar_iff {char written : Char} (h : char ≠ '\\') :
    char ∈ escapeChar written ↔ char = written := by
  unfold escapeChar
  split <;> simp [h]

theorem Regex.mem_escape_iff {char : Char} {text : List Char} (h : char ≠ '\\') :
    char ∈ escape text ↔ char ∈ text := by
  simp [escape, List.mem_flatMap, mem_escapeChar_iff h]

namespace Param

/-- A class with characters in it and no closing bracket among them is that of a default group. -/
theorem isDefaultGroup_append {group : String} {excluded : List Char}
    (hgroup : group.toList = '[' :: '^' :: (excluded ++ [']', '+', '?'])) (hne : excluded ≠ []) :
    isDefaultGroup group = !excluded.contains ']' := by
  have hreverse : (excluded ++ [']', '+', '?']).reverse =
      '?' :: '+' :: ']' :: excluded.reverse := by simp
  simp only [isDefaultGroup, hgroup, hreverse, List.isEmpty_reverse, List.contains_reverse,
    List.isEmpty_eq_false_iff.mpr hne, Bool.not_false, Bool.true_and]

theorem isDefaultGroup_defaultGroup (delimiter : Char) (parameter : Param) :
    isDefaultGroup (defaultGroup parameter.lead delimiter) =
      !(parameter.excluded delimiter).contains ']' := by
  have hne : Regex.escape (parameter.excluded delimiter) ≠ [] :=
    List.ne_nil_of_mem (List.mem_flatMap.mpr
      ⟨delimiter, mem_excluded_iff.mpr (Or.inl rfl), Regex.mem_escapeChar_self delimiter⟩)
  have hgroup : (defaultGroup parameter.lead delimiter).toList =
      '[' :: '^' :: (Regex.escape (parameter.excluded delimiter) ++ [']', '+', '?']) := by
    rw [toList_defaultGroup]
    simp
  rw [isDefaultGroup_append hgroup hne]
  congr 1
  rw [Bool.eq_iff_iff, List.contains_iff_mem, List.contains_iff_mem,
    Regex.mem_escape_iff (by decide)]

/-- A plain parameter passes for one with a group of its own if its values may not have the closing
bracket in them. -/
theorem kind_of_isPlain {delimiter : Char} {parameter : Param}
    (hplain : Token.IsPlain delimiter (.param parameter)) :
    parameter.kind = if ']' ∈ parameter.excluded delimiter then .custom else .segment := by
  have hgroup : parameter.group = defaultGroup parameter.lead delimiter := hplain
  have hwildcard : parameter.group ≠ wildcardGroup := by
    rw [hgroup, Ne, ← String.toList_inj, toList_defaultGroup]
    exact fun heq ↦ absurd (List.cons.inj heq).1 (by decide)
  rw [kind, if_neg hwildcard, hgroup, isDefaultGroup_defaultGroup]
  by_cases hmem : ']' ∈ parameter.excluded delimiter <;> simp [hmem]

end Param

end RoutePatterns
