import RoutePatterns.Proofs.Regex.Embedding
import RoutePatterns.Proofs.Regex.Reads

/-!
# The captures of an expression

`Node.captures` are the names under which an expression can record anything (`Reads.mem_captures`).
They are names of its groups: a reading never makes an item whose captures have other names than
those it has come across (`Reading.HasNames`, `Reading.hasNames_of_advance?`), so that an expression
that is read has only captures with the names of its groups (`mem_groupNames_of_mem_captures`).
-/

set_option autoImplicit false
set_option relaxedAutoImplicit false

namespace RoutePatterns.Regex

namespace Node

/-- The names of the captures in an expression. -/
def captures : Node → List String
  | empty | one _ | look _ => []
  | capture name body => name :: body.captures
  | seq first second | alt first second => first.captures ++ second.captures
  | plus _ body | loop _ body => body.captures

variable {name : String} {node : Node}

theorem mem_captures_ofItems {items : List Node} :
    name ∈ (ofItems items).captures ↔ ∃ item ∈ items, name ∈ item.captures := by
  fun_induction ofItems items with
  | case1 => simp [captures]
  | case2 item => simp
  | case3 first second rest items ihfront =>
    rename_i ihback
    change name ∈ _ ↔ ∃ item ∈ items, _
    rw [captures, List.mem_append, ihfront, ihback]
    conv_rhs => rw [← List.take_append_drop (items.length / 2) items]
    simp only [List.mem_append, or_and_right, exists_or]

theorem mem_captures_ofBranches {last : Node} {earlier : List Node} :
    name ∈ (ofBranches last earlier).captures ↔
      name ∈ last.captures ∨ ∃ branch ∈ earlier, name ∈ branch.captures := by
  induction earlier generalizing last with
  | nil => simp [ofBranches]
  | cons branch earlier ih =>
    have hbranches : ofBranches last (branch :: earlier) = ofBranches (.alt branch last) earlier :=
      rfl
    rw [hbranches, ih, captures]
    simp only [List.mem_append, List.mem_cons, exists_eq_or_imp]
    tauto

theorem captures_optional (greedy : Bool) (node : Node) :
    (optional greedy node).captures = node.captures := by
  cases greedy <;> simp [optional, captures]

theorem captures_star (greedy : Bool) (node : Node) :
    (star greedy node).captures = node.captures := by
  unfold star
  split_ifs
  · exact captures_optional greedy _
  · rfl

theorem mem_captures_of_copies {count : ℕ} (h : name ∈ (node.copies count).captures) :
    name ∈ node.captures := by
  induction count with
  | zero => cases h
  | succ count ih => exact (List.mem_append.mp h).elim id ih

theorem mem_captures_of_upTo {greedy : Bool} {count : ℕ}
    (h : name ∈ (node.upTo greedy count).captures) : name ∈ node.captures := by
  induction count with
  | zero => cases h
  | succ count ih =>
    rw [upTo, captures_optional] at h
    exact (List.mem_append.mp h).elim id ih

theorem mem_captures_of_repeated {greedy : Bool} {least : ℕ} {most : Option ℕ}
    (h : name ∈ (node.repeated greedy least most).captures) : name ∈ node.captures := by
  unfold repeated at h
  split at h
  · exact (List.mem_append.mp h).elim mem_captures_of_copies mem_captures_of_upTo
  · split_ifs at h
    · rwa [captures_star] at h
    · exact (List.mem_append.mp h).elim mem_captures_of_copies id

/-- A repeated item has no new captures. -/
theorem mem_captures_of_make? {sign : Repetition} {repeated : Node}
    (h : sign.make? node = some repeated) (hname : name ∈ repeated.captures) :
    name ∈ node.captures := by
  cases sign with
  | optional greedy =>
    obtain rfl := Option.some.inj h
    rwa [captures_optional] at hname
  | star greedy =>
    obtain rfl := Option.some.inj h
    rwa [captures_star] at hname
  | plus greedy =>
    obtain rfl := Option.some.inj h
    exact hname
  | counted greedy least most =>
    simp only [Repetition.make?, repeat?] at h
    split_ifs at h
    obtain rfl := Option.some.inj h
    exact mem_captures_of_repeated hname

end Node

/-- What is recorded is recorded under the name of a capture. -/
theorem Reads.mem_captures {text : List Char} {node : Node} {start stop : ℕ}
    {recorded : List Recorded} (h : Reads text node start stop recorded) :
    ∀ entry ∈ recorded, entry.1 ∈ node.captures := by
  induction h with
  | empty | one | look | loopNone => exact List.forall_mem_nil _
  | capture name _ ih =>
    exact List.forall_mem_cons.mpr
      ⟨List.mem_cons_self, fun entry hentry ↦ List.mem_cons_of_mem _ (ih entry hentry)⟩
  | seq _ _ ihfirst ihsecond =>
    refine List.forall_mem_append.mpr ⟨fun entry hentry ↦ ?_, fun entry hentry ↦ ?_⟩
    · exact List.mem_append_right _ (ihsecond entry hentry)
    · exact List.mem_append_left _ (ihfirst entry hentry)
  | altFirst _ _ ih => exact fun entry hentry ↦ List.mem_append_left _ (ih entry hentry)
  | altSecond _ _ ih => exact fun entry hentry ↦ List.mem_append_right _ (ih entry hentry)
  | plusOne _ ih => exact ih
  | plusMore _ _ ihrounds ihbody => exact List.forall_mem_append.mpr ⟨ihbody, ihrounds⟩
  | loopMore _ _ ihrounds ihbody => exact List.forall_mem_append.mpr ⟨ihbody, ihrounds⟩

theorem ReadsAll.mem_captures {text : List Char} {nodes : List Node} {start stop : ℕ}
    {recorded : List Recorded} (h : ReadsAll text nodes start stop recorded) :
    ∀ entry ∈ recorded, ∃ node ∈ nodes, entry.1 ∈ node.captures := by
  induction h with
  | nil => exact List.forall_mem_nil _
  | cons hnode _ ih =>
    refine List.forall_mem_append.mpr ⟨fun entry hentry ↦ ?_, fun entry hentry ↦ ?_⟩
    · obtain ⟨node, hmem, hname⟩ := ih entry hentry
      exact ⟨node, List.mem_cons_of_mem _ hmem, hname⟩
    · exact ⟨_, List.mem_cons_self, hnode.mem_captures entry hentry⟩

/-! ### Names of groups -/

namespace Group

variable {group : Group} {name : String} {node : Node}

/-- The names of a group and of the captures in it. -/
def captures (group : Group) : List String :=
  group.name.toList ++ (group.branches ++ group.items).flatMap Node.captures

theorem mem_captures_iff : name ∈ group.captures ↔
    group.name = some name ∨ (∃ branch ∈ group.branches, name ∈ branch.captures) ∨
      ∃ item ∈ group.items, name ∈ item.captures := by
  simp only [captures, List.mem_append, Option.mem_toList, List.mem_flatMap, or_and_right,
    exists_or]

theorem mem_captures_of_content (h : name ∈ group.content.captures) : name ∈ group.captures := by
  rw [content, Node.mem_captures_ofBranches, Node.mem_captures_ofItems] at h
  simp only [List.mem_reverse] at h
  exact mem_captures_iff.mpr (Or.inr h.symm)

theorem mem_captures_of_node (h : name ∈ group.node.captures) : name ∈ group.captures := by
  unfold node at h
  split at h
  · exact mem_captures_of_content h
  · next hname =>
    rcases List.mem_cons.mp h with rfl | hcontent
    · exact mem_captures_iff.mpr (Or.inl hname)
    · exact mem_captures_of_content hcontent

/-- A group with one more item has the captures of the item, too. -/
theorem mem_captures_of_item (h : name ∈ captures { group with items := node :: group.items }) :
    name ∈ node.captures ∨ name ∈ group.captures := by
  rw [mem_captures_iff] at h ⊢
  simp only [List.mem_cons, exists_eq_or_imp] at h
  rcases h with hname | hbranch | hnode | hitem
  · exact Or.inr (Or.inl hname)
  · exact Or.inr (Or.inr (Or.inl hbranch))
  · exact Or.inl hnode
  · exact Or.inr (Or.inr (Or.inr hitem))

end Group

namespace Reading

variable {reading last next : Reading} {node : Node}

/-- The names of all groups that are open and of their captures have been come across. -/
def HasNames (reading : Reading) : Prop :=
  ∀ group ∈ reading.current :: reading.enclosing, ∀ name ∈ group.captures, name ∈ reading.names

theorem HasNames.push (h : reading.HasNames)
    (hnode : ∀ name ∈ node.captures, name ∈ reading.names) : (reading.push node).HasNames := by
  obtain ⟨hcurrent, henclosing⟩ := List.forall_mem_cons.mp h
  refine List.forall_mem_cons.mpr ⟨fun name hname ↦ ?_, henclosing⟩
  exact (Group.mem_captures_of_item hname).elim (hnode name) (hcurrent name)

theorem HasNames.branch (h : reading.HasNames) : reading.branch.HasNames := by
  obtain ⟨hcurrent, henclosing⟩ := List.forall_mem_cons.mp h
  refine List.forall_mem_cons.mpr ⟨fun name hname ↦ hcurrent name ?_, henclosing⟩
  rw [Group.mem_captures_iff] at hname ⊢
  simp only [Reading.branch, List.mem_cons, exists_eq_or_imp, Node.mem_captures_ofItems,
    List.mem_reverse, List.not_mem_nil, false_and, exists_false, or_false] at hname
  exact hname.imp_right Or.symm

theorem HasNames.enter (h : reading.HasNames) (flags : Flags) (name : Option String) :
    HasNames { reading.enter name flags with names := name.toList ++ reading.names } := by
  refine List.forall_mem_cons.mpr ⟨fun other hother ↦ ?_, fun group hgroup other hother ↦ ?_⟩
  · rw [Group.mem_captures_iff] at hother
    simpa [Reading.enter] using Or.inl hother
  · exact List.mem_append_right _ (h group hgroup other hother)

theorem HasNames.leave (h : reading.HasNames) (hnext : reading.leave? = some next) :
    next.HasNames := by
  obtain ⟨current, enclosing, flags, repeatable, names⟩ := reading
  rcases enclosing with _ | ⟨outer, enclosing⟩
  · cases hnext
  · obtain rfl := Option.some.inj hnext
    obtain ⟨hcurrent, henclosing⟩ := List.forall_mem_cons.mp h
    exact HasNames.push henclosing fun name hname ↦
      hcurrent name (Group.mem_captures_of_node hname)

theorem HasNames.modifyLast (h : reading.HasNames) {sign : Repetition}
    (hnext : reading.modifyLast? sign.make? = some next) : next.HasNames := by
  obtain ⟨⟨outside, name, branches, items⟩, enclosing, flags, repeatable, names⟩ := reading
  rcases repeatable with _ | _
  · cases hnext
  · rcases items with _ | ⟨item, items⟩
    · cases hnext
    · obtain ⟨node, hnode, rfl⟩ := Option.map_eq_some_iff.mp hnext
      obtain ⟨hcurrent, henclosing⟩ := List.forall_mem_cons.mp h
      refine List.forall_mem_cons.mpr ⟨fun other hother ↦ hcurrent other ?_, henclosing⟩
      rw [Group.mem_captures_iff] at hother ⊢
      simp only [List.mem_cons, exists_eq_or_imp] at hother ⊢
      exact hother.imp_right (Or.imp_right (Or.imp_left (Node.mem_captures_of_make? hnode)))

/-- A piece adds no captures but those with the names of its groups. -/
theorem hasNames_of_advance? {piece : Piece} (hnext : piece.advance? reading = some next)
    (h : reading.HasNames) : next.HasNames := by
  cases piece with
  | opening introduced =>
    cases introduced with
    | group flags =>
      obtain rfl := Option.some.inj hnext
      exact h.enter flags none
    | named name =>
      simp only [Piece.advance?, opened?] at hnext
      split_ifs at hnext
      obtain rfl := Option.some.inj hnext
      exact h.enter reading.flags (some name)
    | directive flags =>
      obtain rfl := Option.some.inj hnext
      exact h
  | closing => exact h.leave hnext
  | bar =>
    obtain rfl := Option.some.inj hnext
    exact h.branch
  | one set =>
    obtain rfl := Option.some.inj hnext
    exact h.push (List.forall_mem_nil _)
  | look condition =>
    obtain rfl := Option.some.inj hnext
    exact h.push (List.forall_mem_nil _)
  | repetition sign => exact h.modifyLast hnext

end Reading

/-- The captures of an expression have the names of its groups. -/
theorem mem_groupNames_of_mem_captures {flags : Flags} {text : List Char} {root : Node}
    (hroot : Node.read? flags text = some root) {name : String} (hname : name ∈ root.captures) :
    name ∈ groupNames flags text := by
  obtain ⟨last, hlast, hfinish⟩ := Option.bind_eq_some_iff.mp hroot
  have hnames : last.HasNames := by
    refine Reading.run_induction (motive := Reading.HasNames) ?_ hlast ?_
    · intro piece reading next hadvance
      exact Reading.hasNames_of_advance? hadvance
    · simp [Reading.HasNames, Reading.start, Group.captures]
  obtain ⟨-, hcontent⟩ := Reading.finish?_eq_some_iff.mp hfinish
  rw [groupNames, hlast, Option.elim_some, List.mem_reverse]
  refine hnames last.current List.mem_cons_self name (Group.mem_captures_of_content ?_)
  rwa [hcontent]

end RoutePatterns.Regex
