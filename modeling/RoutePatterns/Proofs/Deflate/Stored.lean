import Mathlib.Tactic.Common
import RoutePatterns.Deflate.Inflate
import RoutePatterns.Deflate.Stored

/-!
# Stored blocks are read back

A stored block begins with three bits that tell whether it is the final one and that it is stored;
the bits up to the next whole byte are not looked at. Its length comes twice, the second time as a
complement (`readStored_pairBytes`). So reading blocks takes what a block holds and goes on after it
(`readBlocks_storedBlock`), and data that are stored are given back (`inflate?_store`).
-/

set_option autoImplicit false
set_option relaxedAutoImplicit false

namespace RoutePatterns.Deflate

theorem pairValue_pairBytes {value : ℕ} (hvalue : value ≤ 0xFFFF) :
    pairValue (.ofNat (value % 256)) (.ofNat (value / 256)) = value := by
  have hlow : value % 256 < 256 := Nat.mod_lt _ (by omega)
  have hhigh : value / 256 < 256 := by omega
  rw [pairValue, UInt8.toNat_ofNat', UInt8.toNat_ofNat', Nat.mod_eq_of_lt hlow,
    Nat.mod_eq_of_lt hhigh]
  omega

/-- The lengths and the content of a stored block are read; other bytes are left. -/
theorem readStored_pairBytes {content : List UInt8} (hlength : content.length ≤ storedLimit)
    (output : Array UInt8) (rest : List UInt8) :
    readStored output (pairBytes content.length ++ pairBytes (0xFFFF - content.length) ++ content ++
      rest) = some (output ++ content, .ofBytes rest) := by
  change content.length ≤ 0xFFFF at hlength
  have hvalue := pairValue_pairBytes hlength
  have hcomplement : pairValue (.ofNat ((0xFFFF - content.length) % 256))
      (.ofNat ((0xFFFF - content.length) / 256)) = 0xFFFF - content.length :=
    pairValue_pairBytes (Nat.sub_le _ _)
  rw [pairBytes, pairBytes, List.append_assoc, List.append_assoc]
  simp only [List.cons_append, List.nil_append, readStored, hvalue, hcomplement]
  have hshort : ¬(content ++ rest).length < content.length := by
    rw [List.length_append]
    omega
  rw [bne_self_eq_false, Bool.false_or, decide_eq_false hshort, if_neg Bool.false_ne_true,
    List.take_left, List.drop_left]

/-- Reading blocks takes the content of a stored block and goes on after it, unless the block is the
final one. -/
theorem readBlocks_storedBlock {content : List UInt8} (hlength : content.length ≤ storedLimit)
    (isFinal : Bool) (fuel : ℕ) (output : Array UInt8) (rest : List UInt8) :
    readBlocks (fuel + 1) output (.ofBytes (storedBlock isFinal content ++ rest)) =
      if isFinal then some (output ++ content)
      else readBlocks fuel (output ++ content) (.ofBytes rest) := by
  have hstored := readStored_pairBytes hlength output rest
  have hblock : readBlock output ⟨List.replicate 7 false, pairBytes content.length ++
      pairBytes (0xFFFF - content.length) ++ content ++ rest⟩ =
        some (output ++ content, .ofBytes rest) := hstored
  have hbit : (BitReader.ofBytes (storedBlock isFinal content ++ rest)).bit? =
      some (isFinal, ⟨List.replicate 7 false, pairBytes content.length ++
        pairBytes (0xFFFF - content.length) ++ content ++ rest⟩) := by
    cases isFinal with
    | false => rfl
    | true => rfl
  rw [readBlocks, hbit]
  simp only [hblock]

/-- Reading blocks gives back data that are stored. -/
theorem readBlocks_store (data : List UInt8) {fuel : ℕ} (hfuel : data.length < fuel)
    (output : Array UInt8) :
    readBlocks fuel output (.ofBytes (store data)) = some (output ++ data) := by
  induction data using store.induct generalizing fuel output with
  | case1 data hle =>
    obtain ⟨fuel, rfl⟩ := Nat.exists_eq_succ_of_ne_zero (by omega : fuel ≠ 0)
    have hblock := readBlocks_storedBlock hle true fuel output []
    rw [List.append_nil] at hblock
    rw [store, if_pos hle]
    exact hblock
  | case2 data hle ih =>
    obtain ⟨fuel, rfl⟩ := Nat.exists_eq_succ_of_ne_zero (by omega : fuel ≠ 0)
    have hlimit : storedLimit = 0xFFFF := rfl
    have htake : (data.take storedLimit).length ≤ storedLimit := List.length_take_le _ _
    have hdrop : (data.drop storedLimit).length < fuel := by
      rw [List.length_drop]
      omega
    rw [store, if_neg hle, readBlocks_storedBlock htake, if_neg Bool.false_ne_true, ih hdrop]
    refine congrArg some (Array.ext' ?_)
    rw [Array.toList_appendList, Array.toList_appendList, Array.toList_appendList,
      List.append_assoc, List.take_append_drop]

theorem length_storedBlock (isFinal : Bool) (content : List UInt8) :
    (storedBlock isFinal content).length = content.length + 5 := by
  simp [storedBlock, pairBytes]

theorem length_le_length_store (data : List UInt8) : data.length ≤ (store data).length := by
  induction data using store.induct with
  | case1 data hle =>
    rw [store, if_pos hle, length_storedBlock]
    exact Nat.le_add_right _ _
  | case2 data hle ih =>
    rw [List.length_drop] at ih
    rw [store, if_neg hle, List.length_append, length_storedBlock, List.length_take]
    omega

/-- Data that are stored are given back. -/
theorem inflate?_store (data : List UInt8) : inflate? (store data) = some data := by
  have hfuel : data.length < 8 * (store data).length + 1 := by
    have hlength := length_le_length_store data
    omega
  rw [inflate?, readBlocks_store data hfuel, Option.map_some, Array.toList_appendList]
  rfl

end RoutePatterns.Deflate
