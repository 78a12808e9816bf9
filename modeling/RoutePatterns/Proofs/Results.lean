/-!
# Results

What a result says of the one that it is mapped or converted from: a value comes from a value
(`exists_eq_ok_of_map`), and mapping the value leaves an error alone (`map_eq_error_iff`).
-/

set_option autoImplicit false
set_option relaxedAutoImplicit false

namespace RoutePatterns

theorem exists_eq_ok_of_map {ε α β : Type} {f : α → β} {result : Except ε α} {value : β}
    (h : result.map f = .ok value) : ∃ inner, result = .ok inner ∧ f inner = value := by
  rcases result with error | inner
  · cases h
  · exact ⟨inner, rfl, Except.ok.inj h⟩

theorem map_eq_error_iff {ε α β : Type} {f : α → β} {result : Except ε α} {error : ε} :
    result.map f = .error error ↔ result = .error error := by
  rcases result with fault | value
  · simp [Except.map]
  · simp [Except.map]

theorem eq_ok_of_toOption {ε α : Type} {result : Except ε α} {value : α}
    (h : result.toOption = some value) : result = .ok value := by
  rcases result with error | inner
  · cases h
  · exact congrArg Except.ok (Option.some.inj h)

theorem eq_ok_of_mapError {ε ε' α : Type} {f : ε → ε'} {result : Except ε α} {value : α}
    (h : result.mapError f = .ok value) : result = .ok value := by
  rcases result with error | inner
  · cases h
  · exact congrArg Except.ok (Except.ok.inj h)

end RoutePatterns
