import Mathlib.Data.List.Sort
import RoutePatterns.Proofs.Table.Ranking

/-!
# A table is a stable sort

`ranked` sorts routes by falling score and keeps routes of equal scores in their order. `IsRanking`
says the same in parts: nothing is lost or doubled, scores do not rise, and the routes of any one
score stand in their order. A ranked table holds the ranking of the routes that were added to it
(`RouteTable.Ranks.isRanking`).

`IsAdded` tells what one addition does: the new route goes to the place that is given back, the
others keep their order, and the place is both the number of earlier routes whose score is no lower
and the first place of a lower score, so that binary search finds what a scan would find. An added
route does so (`RouteTable.Ranks.isAdded`). `AreAdded` follows several additions step by step.
-/

set_option autoImplicit false
set_option relaxedAutoImplicit false

namespace RoutePatterns

/-- The routes by falling score; routes of equal scores stay in their order. -/
def ranked (routes : List Route) : List Route :=
  routes.mergeSort fun first second ↦ second.score ≤ first.score

/-- The second list is the first one sorted by falling score: it has the same routes, no score
rises, and the routes of any one score stand in their order. -/
structure IsRanking (routes sorted : List Route) : Prop where
  eq_ranked : sorted = ranked routes
  perm : sorted.Perm routes
  falling : sorted.Pairwise fun first second ↦ second.score ≤ first.score
  level : ∀ score : Float, (sorted.filter fun route ↦ route.score == score) =
    routes.filter fun route ↦ route.score == score

/-- After the routes `added`, which stand in a table as `before`, the route goes to `place`, so that
they stand as `after`. -/
structure IsAdded (added before : List Route) (route : Route) (place : ℕ) (after : List Route) :
    Prop where
  get : after[place]? = some route
  insert : after = before.insertIdx place route
  count : place = added.countP fun other ↦ route.score ≤ other.score
  scan : place = before.findIdx fun other ↦ other.score < route.score
  ranking : IsRanking (added ++ [route]) after

/-- After the routes `added`, the routes of a list go to the places of another, one after the other,
so that what stood as `before` stands as `after`. -/
inductive AreAdded : List Route → List Route → List Route → List ℕ → List Route → Prop
  | nil {added before : List Route} : AreAdded added before [] [] before
  | cons {added before middle after routes : List Route} {route : Route} {place : ℕ}
      {places : List ℕ} (hfirst : IsAdded added before route place middle)
      (hrest : AreAdded (added ++ [route]) middle routes places after) :
      AreAdded added before (route :: routes) (place :: places) after

variable {routes added : List Route} {route : Route}

/-! ### Numbered routes -/

theorem eq_of_mem_zipIdx {entry entry' : Route × ℕ} (hentry : entry ∈ routes.zipIdx)
    (hentry' : entry' ∈ routes.zipIdx) (hnumber : entry.2 = entry'.2) : entry = entry' := by
  have hget := List.mem_zipIdx_iff_getElem?.mp hentry
  have hget' := List.mem_zipIdx_iff_getElem?.mp hentry'
  rw [hnumber] at hget
  exact Prod.ext (Option.some.inj (hget.symm.trans hget')) hnumber

theorem pairwise_zipIdx (routes : List Route) :
    routes.zipIdx.Pairwise fun entry entry' ↦ entry.2 < entry'.2 := by
  rw [← List.pairwise_map, List.zipIdx_map_snd]
  exact List.pairwise_lt_range'

/-- Numbered routes of one score that stand in order stand as they are numbered. -/
theorem filter_eq_of_pairwise_precedes {entries : List (Route × ℕ)}
    (hperm : entries.Perm routes.zipIdx) (hentries : entries.Pairwise Precedes) (score : Float) :
    (entries.filter fun entry ↦ entry.1.score == score) =
      routes.zipIdx.filter fun entry ↦ entry.1.score == score := by
  have hnumbers : (entries.filter fun entry ↦ entry.1.score == score).Pairwise
      fun entry entry' ↦ entry.2 < entry'.2 := by
    refine (hentries.filter _).imp_of_mem ?_
    intro entry entry' hentry hentry' hprecedes
    obtain ⟨hnumber, -, hrank⟩ := Score.beq_iff.mp (List.mem_filter.mp hentry).2
    obtain ⟨hnumber', -, hrank'⟩ := Score.beq_iff.mp (List.mem_filter.mp hentry').2
    exact hprecedes.2 (Score.le_iff.mpr ⟨hnumber, hnumber', (hrank.trans hrank'.symm).le⟩)
  refine (hperm.filter _).eq_of_pairwise ?_ hnumbers ((pairwise_zipIdx routes).filter _)
  intro entry entry' _ _ hlt hlt'
  exact absurd hlt' hlt.asymm

/-- Assumes: scores that are numbers. Numbered routes that stand in order are sorted. -/
theorem map_fst_eq_ranked {entries : List (Route × ℕ)} (hperm : entries.Perm routes.zipIdx)
    (hentries : entries.Pairwise Precedes)
    (hroutes : ∀ route ∈ routes, route.score.isNaN = false) :
    entries.map Prod.fst = ranked routes := by
  -- The order of ranks is total on all scores; on numbers it is the order of scores.
  let noLower (first second : Route) : Bool := Score.rank second.score ≤ Score.rank first.score
  have htrans : ∀ first second third : Route, noLower first second = true →
      noLower second third = true → noLower first third = true := by
    intro first second third hfirst hsecond
    exact decide_eq_true ((of_decide_eq_true hsecond).trans (of_decide_eq_true hfirst))
  have htotal : ∀ first second : Route, (noLower first second || noLower second first) = true := by
    intro first second
    rw [Bool.or_eq_true, decide_eq_true_iff, decide_eq_true_iff]
    exact LinearOrder.le_total _ _
  have hsorted : entries.Pairwise fun entry entry' ↦ List.zipIdxLE noLower entry entry' = true := by
    refine hentries.imp ?_
    intro entry entry' hprecedes
    obtain ⟨hnumber', hnumber, hrank⟩ := Score.le_iff.mp hprecedes.1
    rw [List.zipIdxLE, if_pos (decide_eq_true hrank)]
    split_ifs with hrank'
    · have hle := Score.le_iff.mpr ⟨hnumber, hnumber', of_decide_eq_true hrank'⟩
      exact decide_eq_true (hprecedes.2 hle).le
    · rfl
  have hentries_eq : entries = routes.zipIdx.mergeSort (List.zipIdxLE noLower) := by
    refine (hperm.trans (List.mergeSort_perm _ _).symm).eq_of_pairwise ?_ hsorted
      (List.pairwise_mergeSort (List.zipIdxLE_trans htrans) (List.zipIdxLE_total htotal) _)
    intro entry entry' hentry hentry' hle hle'
    refine eq_of_mem_zipIdx (hperm.mem_iff.mp hentry) (List.mem_mergeSort.mp hentry') ?_
    rw [List.zipIdxLE] at hle hle'
    split_ifs at hle hle' with hfirst hsecond
    exact le_antisymm (of_decide_eq_true hle) (of_decide_eq_true hle')
  have hagree : ∀ first ∈ routes, ∀ second ∈ routes,
      noLower first second = decide (second.score ≤ first.score) := by
    intro first hfirst second hsecond
    rw [decide_eq_decide, Score.le_iff, and_iff_right (hroutes second hsecond),
      and_iff_right (hroutes first hfirst)]
  have hcongr : (routes.mergeSort noLower).map id = (routes.map id).mergeSort
      fun first second ↦ second.score ≤ first.score := List.map_mergeSort hagree
  rw [List.map_id, List.map_id] at hcongr
  rw [hentries_eq, List.mergeSort_zipIdx, hcongr, ranked]

namespace RouteTable

variable {table : RouteTable}

/-- Assumes: scores that are numbers. A ranked table holds its routes sorted. -/
theorem Ranks.isRanking (hranks : table.Ranks added)
    (hadded : ∀ route ∈ added, route.score.isNaN = false) :
    IsRanking added table.routes.toList := by
  have hperm := hranks.perm
  obtain ⟨entries, hentries, hnumbered, hordered⟩ := hranks
  refine ⟨hentries ▸ map_fst_eq_ranked hnumbered hordered hadded, hperm, ?_, ?_⟩
  · rw [← hentries]
    exact List.pairwise_map.mpr (hordered.imp fun hprecedes ↦ hprecedes.1)
  · intro score
    rw [← hentries]
    calc (entries.map Prod.fst).filter (fun route ↦ route.score == score)
        = (entries.filter fun entry ↦ entry.1.score == score).map Prod.fst := List.filter_map
      _ = (added.zipIdx.filter fun entry ↦ entry.1.score == score).map Prod.fst := by
        rw [filter_eq_of_pairwise_precedes hnumbered hordered]
      _ = (added.zipIdx.map Prod.fst).filter fun route ↦ route.score == score := by
        rw [List.filter_map]
        rfl
      _ = added.filter fun route ↦ route.score == score := by rw [List.zipIdx_map_fst]

/-- Ranked routes are those of no lower score than a given one, then the others. -/
theorem Ranks.exists_append (hranks : table.Ranks added) (score : Float) :
    ∃ front back, table.routes.toList = front ++ back ∧ (∀ other ∈ front, score ≤ other.score) ∧
      ∀ other ∈ back, ¬score ≤ other.score := by
  obtain ⟨entries, hentries, -, hordered⟩ := hranks
  obtain ⟨front, back, rfl, hfront, hback⟩ := exists_append_of_pairwise_precedes score hordered
  refine ⟨front.map Prod.fst, back.map Prod.fst, ?_, List.forall_mem_map.mpr hfront,
    List.forall_mem_map.mpr hback⟩
  rw [← hentries, List.map_append]

/-- Assumes: a ranked table and scores that are numbers. The new route is added at its place. -/
theorem Ranks.isAdded (hranks : table.Ranks added)
    (hadded : ∀ other ∈ added, other.score.isNaN = false) (hroute : route.score.isNaN = false) :
    IsAdded added table.routes.toList route (table.insert route).1
      (table.insert route).2.routes.toList := by
  obtain ⟨front, back, hroutes, hfront, hback⟩ := hranks.exists_append route.score
  have hafter := toList_insert hroutes hfront hback
  have hplace : (table.insert route).1 = front.length := place_eq_length hroutes hfront hback
  have hnumber : ∀ other ∈ front ++ back, other.score.isNaN = false := by
    intro other hother
    exact hadded other (hranks.perm.mem_iff.mp (hroutes ▸ hother))
  rw [hplace]
  refine ⟨?_, ?_, ?_, ?_, ?_⟩
  · rw [hafter, List.getElem?_append_right le_rfl, Nat.sub_self, List.getElem?_cons_zero]
  · rw [hafter, hroutes, insertIdx_length]
  · have hnone : (back.countP fun other ↦ route.score ≤ other.score) = 0 :=
      List.countP_eq_zero.mpr fun other hother ↦ by simpa using hback other hother
    have hall : (front.countP fun other ↦ route.score ≤ other.score) = front.length :=
      List.countP_eq_length.mpr fun other hother ↦ by simpa using hfront other hother
    rw [← hranks.perm.countP_eq, hroutes, List.countP_append, hall, hnone, Nat.add_zero]
  · have hlower : ∀ other ∈ front ++ back,
        (other.score < route.score ↔ ¬route.score ≤ other.score) :=
      fun other hother ↦ Score.lt_iff_not_le (hnumber other hother) hroute
    have hfront' : front.findIdx (fun other ↦ other.score < route.score) = front.length := by
      refine List.findIdx_eq_length.mpr fun other hother ↦ decide_eq_false ?_
      rw [hlower other (List.mem_append_left _ hother), not_not]
      exact hfront other hother
    have hback' : back.findIdx (fun other ↦ other.score < route.score) = 0 := by
      cases back with
      | nil => rfl
      | cons other others =>
        have hother := List.mem_cons_self (a := other) (l := others)
        have hlt := (hlower other (List.mem_append_right _ hother)).mpr (hback other hother)
        rw [List.findIdx_cons, decide_eq_true hlt, cond_true]
    rw [hroutes, List.findIdx_append, hfront', if_neg (lt_irrefl _), hback', Nat.zero_add]
  · refine (hranks.insert hadded hroute).isRanking ?_
    intro other hother
    rcases List.mem_append.mp hother with hother | hother
    · exact hadded other hother
    · rw [List.mem_singleton.mp hother]
      exact hroute

end RouteTable

end RoutePatterns
