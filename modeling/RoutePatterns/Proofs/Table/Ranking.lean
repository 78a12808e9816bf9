import Mathlib.Data.List.Perm.Basic
import RoutePatterns.Proofs.Table.ScoreOrder
import RoutePatterns.RouteTable

/-!
# How routes are ranked

A table keeps its routes by falling score and, among equal scores, in the order in which they came.
`RouteTable.Ranks` says so of the routes that were added to a table: numbered as they came, they
stand in the table in an order in which each precedes all later ones (`Precedes`). Binary search
finds the end of the items that pass a test where those come first (`passingCount_eq_length`), which
among ranked routes is the end of those of no lower score (`RouteTable.place_eq_length`). A route
that is put there leaves the table ranked (`RouteTable.Ranks.insert`).
-/

set_option autoImplicit false
set_option relaxedAutoImplicit false

namespace RoutePatterns

/-! ### Binary search -/

section BinarySearch

variable {α : Type} {passes : α → Bool} {items : Array α} {front back : List α}

/-- Assumes: bounds about the end of the items that pass. The search between them finds it. -/
theorem passingCountFrom_eq_length (hitems : items.toList = front ++ back)
    (hfront : ∀ item ∈ front, passes item = true) (hback : ∀ item ∈ back, passes item = false)
    (low high : ℕ) (hlow : low ≤ front.length) (hhigh : front.length ≤ high)
    (hsize : high ≤ items.size) : passingCountFrom passes items low high = front.length := by
  have hget (place : ℕ) : items[place]? = (front ++ back)[place]? := by
    rw [← hitems, Array.getElem?_toList]
  induction low, high using passingCountFrom.induct passes items with
  | case1 low high hlt middle hpass ih =>
    rw [passingCountFrom, if_pos hlt, if_pos hpass]
    refine ih ?_ hhigh hsize
    by_contra hbeyond
    have hle : front.length ≤ middle := by omega
    obtain ⟨item, hitem, htrue⟩ := (Option.any_eq_true _ _).mp hpass
    rw [hget, List.getElem?_append_right hle] at hitem
    rw [hback _ (List.mem_of_getElem? hitem)] at htrue
    exact Bool.noConfusion htrue
  | case2 low high hlt middle hpass ih =>
    rw [passingCountFrom, if_pos hlt, if_neg hpass]
    refine ih hlow ?_ (by omega)
    by_contra hbefore
    have hlt' : middle < front.length := by omega
    apply hpass
    rw [hget, List.getElem?_append_left hlt', List.getElem?_eq_getElem hlt']
    exact hfront _ (List.getElem_mem hlt')
  | case3 low high hge =>
    rw [passingCountFrom, if_neg hge]
    omega

theorem insertIdx_length (item : α) :
    (front ++ back).insertIdx front.length item = front ++ item :: back := by
  induction front with
  | nil => rfl
  | cons first front ih =>
    rw [List.cons_append, List.length_cons, List.insertIdx_succ_cons, ih, List.cons_append]

/-- Where the items that pass a test come first, binary search finds their number. -/
theorem passingCount_eq_length (hitems : items.toList = front ++ back)
    (hfront : ∀ item ∈ front, passes item = true) (hback : ∀ item ∈ back, passes item = false) :
    passingCount passes items = front.length := by
  have hsize : items.size = front.length + back.length := by
    rw [← Array.length_toList, hitems, List.length_append]
  have hhigh : front.length ≤ items.size := by omega
  exact passingCountFrom_eq_length hitems hfront hback 0 items.size (Nat.zero_le _) hhigh le_rfl

/-- Whatever the items are, the search does not leave its bounds. -/
theorem passingCountFrom_le {low high : ℕ} (h : low ≤ high) :
    passingCountFrom passes items low high ≤ high := by
  induction low, high using passingCountFrom.induct passes items with
  | case1 low high hlt middle hpass ih =>
    rw [passingCountFrom, if_pos hlt, if_pos hpass]
    exact ih (by omega)
  | case2 low high hlt middle hpass ih =>
    rw [passingCountFrom, if_pos hlt, if_neg hpass]
    exact (ih (by omega)).trans (by omega)
  | case3 low high hge =>
    rw [passingCountFrom, if_neg hge]
    exact h

end BinarySearch

/-! ### Ranked tables -/

/-- Of two routes with their numbers, the first stands before the second: its score is no lower and,
if it is no higher either, its number is lower. -/
def Precedes (first second : Route × ℕ) : Prop :=
  second.1.score ≤ first.1.score ∧ (first.1.score ≤ second.1.score → first.2 < second.2)

/-- Entries that stand in order are those of no lower score than a given one, then the others. -/
theorem exists_append_of_pairwise_precedes (score : Float) {entries : List (Route × ℕ)}
    (hentries : entries.Pairwise Precedes) :
    ∃ front back, entries = front ++ back ∧ (∀ entry ∈ front, score ≤ entry.1.score) ∧
      ∀ entry ∈ back, ¬score ≤ entry.1.score := by
  induction hentries with
  | nil => exact ⟨[], [], rfl, List.forall_mem_nil _, List.forall_mem_nil _⟩
  | @cons entry rest hprecedes _ ih =>
    by_cases hle : score ≤ entry.1.score
    · obtain ⟨front, back, rfl, hfront, hback⟩ := ih
      exact ⟨entry :: front, back, rfl, List.forall_mem_cons.mpr ⟨hle, hfront⟩, hback⟩
    · refine ⟨[], entry :: rest, rfl, List.forall_mem_nil _, ?_⟩
      rintro other (_ | ⟨_, hother⟩) hother'
      · exact hle hother'
      · exact hle (Score.le_trans hother' (hprecedes other hother).1)

namespace RouteTable

variable {table : RouteTable} {added front back : List Route} {route : Route}

section

variable (hroutes : table.routes.toList = front ++ back)
  (hfront : ∀ other ∈ front, route.score ≤ other.score)
  (hback : ∀ other ∈ back, ¬route.score ≤ other.score)

include hroutes hfront hback

/-- Assumes: routes of which the first ones alone have scores no lower than that of `route`. Its
place is after them. -/
theorem place_eq_length : table.place route.score = front.length :=
  passingCount_eq_length hroutes (fun other hother ↦ decide_eq_true (hfront other hother))
    fun other hother ↦ decide_eq_false (hback other hother)

/-- Assumes: routes of which the first ones alone have scores no lower than that of `route`. It is
put between them and the others. -/
theorem toList_insert : (table.insert route).2.routes.toList = front ++ route :: back := by
  have hsize : front.length ≤ table.routes.size := by
    rw [← Array.length_toList, hroutes, List.length_append]
    exact Nat.le_add_right _ _
  change (table.routes.insertIdxIfInBounds (table.place route.score) route).toList = _
  rw [place_eq_length hroutes hfront hback, Array.insertIdxIfInBounds, dif_pos hsize,
    Array.toList_insertIdx, hroutes, insertIdx_length]

end

theorem place_le_size (table : RouteTable) (score : Float) : table.place score ≤ table.size :=
  passingCountFrom_le (Nat.zero_le _)

/-- In any table a route is put where the answer says, and the others stay in order. -/
theorem toList_insert_eq_insertIdx (table : RouteTable) (route : Route) :
    (table.insert route).2.routes.toList =
      table.routes.toList.insertIdx (table.insert route).1 route := by
  have hsize : table.place route.score ≤ table.routes.size := table.place_le_size route.score
  change (table.routes.insertIdxIfInBounds (table.place route.score) route).toList = _
  rw [Array.insertIdxIfInBounds, dif_pos hsize, Array.toList_insertIdx]
  rfl

theorem perm_insert (table : RouteTable) (route : Route) :
    (table.insert route).2.routes.toList.Perm (route :: table.routes.toList) := by
  rw [toList_insert_eq_insertIdx]
  exact List.perm_insertIdx _ _ (table.place_le_size route.score)

/-- The table holds the routes that were added to it, in the order of `Precedes`. -/
def Ranks (table : RouteTable) (added : List Route) : Prop :=
  ∃ entries : List (Route × ℕ), entries.map Prod.fst = table.routes.toList ∧
    entries.Perm added.zipIdx ∧ entries.Pairwise Precedes

theorem ranks_nil (hempty : table.routes = #[]) : table.Ranks [] :=
  ⟨[], by rw [hempty]; rfl, List.Perm.nil, List.Pairwise.nil⟩

theorem Ranks.congr {other : RouteTable} (hranks : table.Ranks added)
    (hroutes : table.routes = other.routes) : other.Ranks added := by
  unfold Ranks
  rw [← hroutes]
  exact hranks

theorem Ranks.perm (hranks : table.Ranks added) : table.routes.toList.Perm added := by
  obtain ⟨entries, hentries, hperm, -⟩ := hranks
  rw [← hentries, ← List.zipIdx_map_fst 0 added]
  exact hperm.map Prod.fst

/-- Assumes: a ranked table and a score that is a number. An added route leaves the table ranked. -/
theorem Ranks.insert (hranks : table.Ranks added)
    (hadded : ∀ other ∈ added, other.score.isNaN = false) (hroute : route.score.isNaN = false) :
    (table.insert route).2.Ranks (added ++ [route]) := by
  obtain ⟨entries, hentries, hperm, hordered⟩ := hranks
  obtain ⟨front, back, rfl, hfront, hback⟩ :=
    exists_append_of_pairwise_precedes route.score hordered
  have hmem {entry : Route × ℕ} (hentry : entry ∈ front ++ back) :
      entry.1 ∈ added ∧ entry.2 < added.length := by
    rw [hperm.mem_iff] at hentry
    have hget := List.mem_zipIdx_iff_getElem?.mp hentry
    exact ⟨List.mem_of_getElem? hget, (List.getElem?_eq_some_iff.mp hget).1⟩
  refine ⟨front ++ (route, added.length) :: back, ?_, ?_, ?_⟩
  · rw [List.map_append] at hentries
    rw [List.map_append, List.map_cons]
    exact (toList_insert hentries.symm (List.forall_mem_map.mpr hfront)
      (List.forall_mem_map.mpr hback)).symm
  · rw [List.zipIdx_append, Nat.zero_add, List.zipIdx_singleton]
    exact List.perm_middle.trans ((hperm.cons _).trans (List.perm_append_singleton _ _).symm)
  · obtain ⟨hfronts, hbacks, hbetween⟩ := List.pairwise_append.mp hordered
    refine List.pairwise_append.mpr ⟨hfronts, List.pairwise_cons.mpr ⟨?_, hbacks⟩, ?_⟩
    · intro entry hentry
      have hnumber := hadded _ (hmem (List.mem_append_right _ hentry)).1
      have hlower := (Score.le_total hnumber hroute).resolve_right (hback entry hentry)
      exact ⟨hlower, fun hle ↦ absurd hle (hback entry hentry)⟩
    · rintro entry hentry other (_ | ⟨_, hother⟩)
      · exact ⟨hfront entry hentry, fun _ ↦ (hmem (List.mem_append_left _ hentry)).2⟩
      · exact hbetween entry hentry other hother

end RouteTable

end RoutePatterns
