import Mathlib.Data.List.Nodup
import RoutePatterns.Proofs.Regex.Pieces
import RoutePatterns.Proofs.Regex.Spelling

/-!
# Expressions inside others

An expression that is valid on its own can be put into a group of a larger one. What the larger one
reads there is what the expression is on its own (`Reading.run_within`), with one exception: if it
ends in a comment, the comment takes in the parenthesis that is to close the group, and the larger
expression is not valid, because the group stays open.

`Yields ignoreCase closed source nodes names` says that an expression which goes on with the text
`source` and is valid has read it as the expressions `nodes` with the group names `names`. Unlike
`Spells` it does not promise that the expression is valid, so that nothing need be known about the
names. There is the same rule for each way to put expressions together, and one more for expressions
that are valid on their own (`Yields.group_of_read?`).
-/

set_option autoImplicit false
set_option relaxedAutoImplicit false

namespace RoutePatterns.Regex

/-- What a group was opened with: the switches outside and its name. -/
def Group.frame (group : Group) : Flags × Option String :=
  (group.outside, group.name)

/-! ### Readings within a group -/

namespace Reading

variable {reading last : Reading} {text : List Char}

/-- The reading in a group that is open in `outer`. -/
def within (outer reading : Reading) : Reading :=
  { reading with
    enclosing := reading.enclosing ++ outer.current :: outer.enclosing
    names := reading.names ++ outer.names }

/-- Where a piece can be read inside and outside of a group, it does the same. -/
theorem advance?_within {piece : Piece} {outer next next' : Reading}
    (h : piece.advance? reading = some next)
    (h' : piece.advance? (outer.within reading) = some next') :
    next' = outer.within next := by
  cases piece with
  | opening introduced =>
    cases introduced with
    | group flags =>
      obtain rfl := Option.some.inj h
      exact (Option.some.inj h').symm
    | named name =>
      simp only [Piece.advance?, opened?] at h h'
      split_ifs at h
      split_ifs at h'
      obtain rfl := Option.some.inj h
      exact (Option.some.inj h').symm
    | directive flags =>
      obtain rfl := Option.some.inj h
      exact (Option.some.inj h').symm
  | closing =>
    obtain ⟨current, enclosing, flags, repeatable, names⟩ := reading
    rcases enclosing with _ | ⟨group, enclosing⟩
    · cases h
    · obtain rfl := Option.some.inj h
      exact (Option.some.inj h').symm
  | bar | one set | look condition =>
    obtain rfl := Option.some.inj h
    exact (Option.some.inj h').symm
  | repetition sign =>
    obtain ⟨⟨outside, name, branches, items⟩, enclosing, flags, repeatable, names⟩ := reading
    rcases repeatable with _ | _
    · cases h
    · rcases items with _ | ⟨node, items⟩
      · cases h
      · obtain ⟨_, hnode, rfl⟩ := Option.map_eq_some_iff.mp h
        obtain ⟨_, hnode', rfl⟩ := Option.map_eq_some_iff.mp h'
        obtain rfl := Option.some.inj (hnode.symm.trans hnode')
        rfl

theorem skip_closing (flags : Flags) (after : List Char) :
    flags.skip (')' :: after) = ')' :: after := by
  unfold Flags.skip
  split_ifs
  · exact skipBlanks_closing after
  · rfl

/-- An expression that is valid on its own leads to the same within a group up to the parenthesis
that closes the group, whatever follows this, unless a comment takes in the rest of the line. -/
theorem run_within (h : reading.run text = some last) :
    (∀ outer after result, (within outer reading).run (text ++ ')' :: after) = some result →
        ∀ after', (within outer reading).run (text ++ ')' :: after') =
          (within outer last).run (')' :: after')) ∨
      ∀ outer after result, '\n' ∉ after →
        (within outer reading).run (text ++ ')' :: after) = some result →
        result = within outer last := by
  fun_induction Reading.run reading text with
  | case1 reading text hskip =>
    obtain rfl := Option.some.inj h
    refine (Flags.skip_append_of_eq_nil hskip).imp (fun hsame ↦ ?_) fun hcomment ↦ ?_
    · intro outer after result _ after'
      have hflags : (outer.within reading).flags = reading.flags := rfl
      rw [run_of_skip (hflags ▸ hsame after'), run_of_skip (skip_closing _ after')]
    · intro outer after result hafter hrun
      have hmore : '\n' ∉ ')' :: after := List.not_mem_cons_of_ne_of_not_mem (by decide) hafter
      have hnil : (outer.within reading).flags.skip (text ++ ')' :: after) = [] := hcomment _ hmore
      rw [run_of_skip_nil hnil] at hrun
      exact (Option.some.inj hrun).symm
  | case2 => cases h
  | case3 reading text char tail hskip next rest hstep _ ih =>
    rw [readStep_eq] at hstep
    obtain ⟨⟨piece, rest⟩, hpiece, hnext⟩ := Option.bind_eq_some_iff.mp hstep
    obtain ⟨middle, hadvance, heq⟩ := Option.map_eq_some_iff.mp hnext
    obtain ⟨rfl, rfl⟩ := Prod.mk.inj heq
    have hfirst (outer : Reading) (more : List Char) :
        (outer.within reading).flags.skip (text ++ more) = char :: (tail ++ more) :=
      Flags.skip_append_of_eq_cons hskip more
    rcases readPiece?_append hpiece with hsame | ⟨rfl, hcomment⟩
    · -- The piece is the same, and so the rest decides.
      have hafter (outer : Reading) (after : List Char) (result : Reading)
          (hrun : (outer.within reading).run (text ++ ')' :: after) = some result)
          (after' : List Char) : (outer.within reading).run (text ++ ')' :: after') =
            (outer.within middle).run (rest ++ ')' :: after') := by
        have hread (after : List Char) : readPiece? (outer.within reading).flags char
            (tail ++ ')' :: after) = some (piece, rest ++ ')' :: after) := hsame after
        rw [run_of_skip (hfirst outer _), hread, Option.bind_some] at hrun ⊢
        obtain ⟨next', hadvance', hrun⟩ := Option.bind_eq_some_iff.mp hrun
        rw [hadvance', Option.bind_some, advance?_within hadvance hadvance']
      refine (ih h).imp (fun hleft ↦ ?_) fun hright ↦ ?_
      · intro outer after result hrun after'
        have hmiddle := hafter outer after result hrun
        rw [hmiddle after] at hrun
        rw [hmiddle after', hleft outer after result hrun after']
      · intro outer after result hline hrun
        rw [hafter outer after result hrun after] at hrun
        exact hright outer after result hline hrun
    · -- The piece ends in a comment, which takes in the parenthesis.
      right
      intro outer after result hafter hrun
      have hmore : '\n' ∉ ')' :: after := List.not_mem_cons_of_ne_of_not_mem (by decide) hafter
      have hread : readPiece? (outer.within reading).flags char (tail ++ ')' :: after) =
          some (piece, []) := hcomment _ hmore
      rw [run_of_skip (hfirst outer _), hread, Option.bind_some] at hrun
      obtain ⟨next', hadvance', hrun⟩ := Option.bind_eq_some_iff.mp hrun
      obtain rfl := advance?_within hadvance hadvance'
      have hnil (flags : Flags) : flags.skip [] = [] :=
        List.eq_nil_of_length_eq_zero (Nat.le_zero.mp (flags.skip_length []))
      rw [run_of_skip_nil (hnil _)] at h hrun
      obtain rfl := Option.some.inj h
      exact (Option.some.inj hrun).symm

/-! ### The outermost group -/

/-- The group of the whole expression. -/
def outermost (reading : Reading) : Group :=
  reading.enclosing.getLastD reading.current

theorem frame_outermost_congr {other : Reading} (henclosing : other.enclosing = reading.enclosing)
    (hframe : other.current.frame = reading.current.frame) :
    other.outermost.frame = reading.outermost.frame := by
  unfold outermost
  rw [henclosing]
  rcases reading.enclosing with _ | ⟨group, groups⟩
  · exact hframe
  · rfl

theorem frame_of_advance? {piece : Piece} {next : Reading}
    (h : piece.advance? reading = some next) : next.outermost.frame = reading.outermost.frame := by
  cases piece with
  | opening introduced =>
    cases introduced with
    | group flags =>
      obtain rfl := Option.some.inj h
      exact congrArg Group.frame (List.getLastD_cons ..)
    | named name =>
      simp only [Piece.advance?, opened?] at h
      split_ifs at h
      obtain rfl := Option.some.inj h
      exact congrArg Group.frame (List.getLastD_cons ..)
    | directive flags =>
      obtain rfl := Option.some.inj h
      rfl
  | closing =>
    obtain ⟨current, enclosing, flags, repeatable, names⟩ := reading
    rcases enclosing with _ | ⟨group, enclosing⟩
    · cases h
    · obtain rfl := Option.some.inj h
      have houter : (Reading.mk current (group :: enclosing) flags repeatable names).outermost =
          (Reading.mk group enclosing flags repeatable names).outermost := List.getLastD_cons ..
      rw [houter]
      exact frame_outermost_congr rfl rfl
  | bar | one set | look condition =>
    obtain rfl := Option.some.inj h
    exact frame_outermost_congr rfl rfl
  | repetition sign =>
    simp only [Piece.advance?, modifyLast?] at h
    split at h
    · obtain ⟨_, _, rfl⟩ := Option.map_eq_some_iff.mp h
      exact frame_outermost_congr rfl rfl
    · cases h

/-- A whole expression is not in a group and has the switches that it began with around it. -/
theorem frame_of_run {flags : Flags} (h : (start flags).run text = some last)
    (hclosed : last.enclosing = []) : last.current.frame = (flags, none) := by
  have hframe : last.outermost.frame = (flags, none) := by
    refine run_induction (motive := fun reading ↦ reading.outermost.frame = (flags, none)) ?_ h rfl
    intro piece reading next hadvance hreading
    rw [frame_of_advance? hadvance, hreading]
  rwa [outermost, hclosed] at hframe

end Reading

/-! ### What valid expressions read -/

/-- If an expression goes on with the text `source` and is valid, it has read the text as `nodes`
with the names `names`, and so does the expression that goes on in another way after the text. -/
structure Yields (ignoreCase closed : Bool) (source : List Char) (nodes : List Node)
    (names : List String) : Prop where
  /-- The text does not make a repetition before it lazy. -/
  head : source.head? ≠ some '?'
  /-- The text was read as the expressions. -/
  run : ∀ (reading : Reading) (rest : List Char) (last : Reading), reading.flags = { ignoreCase } →
    (closed = true ∨ rest.head? ≠ some '?') → reading.run (source ++ rest) = some last →
    ∀ rest', (closed = true ∨ rest'.head? ≠ some '?') →
      reading.run (source ++ rest') = (reading.extend nodes names).run rest'

theorem Spells.yields {ignoreCase closed : Bool} {source : List Char} {nodes : List Node}
    (h : Spells ignoreCase closed source nodes []) : Yields ignoreCase closed source nodes [] where
  head := h.head
  run reading _ _ hflags _ _ rest' hrest' := h.run reading rest' hflags (by simp) hrest'

namespace Yields

variable {ignoreCase closed : Bool} {source : List Char} {nodes : List Node} {names : List String}

theorem append {closed' : Bool} {source' : List Char} {nodes' : List Node} {names' : List String}
    (h : Yields ignoreCase closed source nodes names)
    (h' : Yields ignoreCase closed' source' nodes' names') :
    Yields ignoreCase false (source ++ source') (nodes ++ nodes') (names ++ names') where
  head := by
    cases source with
    | nil => exact h'.head
    | cons char source => exact h.head
  run reading rest last hflags hrest hrun rest' hrest' := by
    have hnext {rest : List Char} (hrest : false = true ∨ rest.head? ≠ some '?') :
        (source' ++ rest).head? ≠ some '?' := by
      cases source' with
      | nil => exact hrest.resolve_left Bool.false_ne_true
      | cons char source' => exact h'.head
    rw [List.append_assoc] at hrun
    have hfirst := h.run reading _ last hflags (Or.inr (hnext hrest)) hrun
    rw [hfirst _ (Or.inr (hnext hrest))] at hrun
    rw [List.append_assoc, hfirst _ (Or.inr (hnext hrest')), ← Reading.extend_extend]
    exact h'.run (reading.extend nodes names) rest last hflags
      (hrest.imp_left (absurd · Bool.false_ne_true)) hrun rest'
      (hrest'.imp_left (absurd · Bool.false_ne_true))

/-! ### Groups and captures -/

/-- What is read in a group becomes one item of the text around it. -/
theorem run_enclosed (h : Yields ignoreCase closed source nodes names) {reading last : Reading}
    {name : Option String} {opening rest : List Char} (hflags : reading.flags = { ignoreCase })
    (hopen : ∀ after, readStep reading '(' (opening ++ after) = some (reading.inside name, after))
    (hrun : reading.run ('(' :: (opening ++ (source ++ ')' :: rest))) = some last)
    (rest' : List Char) :
    reading.run ('(' :: (opening ++ (source ++ ')' :: rest'))) =
      (reading.extend [Group.node ⟨reading.flags, name, [], nodes.reverse⟩]
        (name.toList ++ names)).run rest' := by
  have hverbose : reading.flags.verbose = false := by rw [hflags]
  rw [Reading.run_of_step (hopen _) hverbose] at hrun ⊢
  rw [h.run (reading.inside name) (')' :: rest) last hflags (Or.inr (by simp)) hrun _
    (Or.inr (by simp))]
  exact Reading.run_of_step (readStep_leave reading rest' name nodes names) hverbose

theorem group (h : Yields ignoreCase closed source nodes names) :
    Yields ignoreCase true (['(', '?', ':'] ++ source ++ [')']) [Node.ofItems nodes] names where
  head := by simp
  run reading rest last hflags _ hrun rest' _ := by
    have hsource (rest : List Char) : ['(', '?', ':'] ++ source ++ [')'] ++ rest =
        '(' :: (['?', ':'] ++ (source ++ ')' :: rest)) := by simp
    rw [hsource] at hrun ⊢
    have hgroup := h.run_enclosed hflags (fun after ↦ readStep_group after hflags) hrun rest'
    simpa [Group.node, Group.content, Node.ofBranches] using hgroup

theorem capture {name : List Char} (hname : isGroupName name = true) (hend : '>' ∉ name)
    (h : Yields ignoreCase closed source nodes names) :
    Yields ignoreCase true (['(', '?', 'P', '<'] ++ name ++ ['>'] ++ source ++ [')'])
      [.capture (String.ofList name) (Node.ofItems nodes)] (String.ofList name :: names) where
  head := by simp
  run reading rest last hflags _ hrun rest' _ := by
    have hsource (rest : List Char) :
        ['(', '?', 'P', '<'] ++ name ++ ['>'] ++ source ++ [')'] ++ rest =
          '(' :: (['?', 'P', '<'] ++ name ++ ['>'] ++ (source ++ ')' :: rest)) := by simp
    have hverbose : reading.flags.verbose = false := by rw [hflags]
    have hopen (after : List Char) := readStep_capture after hname hend hflags
    have hnew : String.ofList name ∉ reading.names := by
      intro hmem
      rw [hsource, Reading.run_cons hverbose, hopen, if_pos hmem] at hrun
      cases hrun
    simp only [if_neg hnew] at hopen
    rw [hsource] at hrun ⊢
    have hcapture := h.run_enclosed hflags hopen hrun rest'
    simpa [Group.node, Group.content, Node.ofBranches] using hcapture

/-! ### Repetitions -/

/-- A greedy repetition of one item. -/
theorem repetition {node : Node} {sign : Char} {make : Bool → Node → Node}
    (h : Yields ignoreCase true source [node] names) (hsource : source ≠ [])
    (hstep : ∀ (reading : Reading) (rest : List Char),
      readStep reading sign rest = readRepetition reading make rest) :
    Yields ignoreCase false (source ++ [sign]) [make true node] names where
  head := by
    cases source with
    | nil => exact absurd rfl hsource
    | cons char source => exact h.head
  run reading rest last hflags _ hrun rest' hrest' := by
    have hsign := readStep_greedy rest' hstep hflags (by simpa using hrest') node names
    have hverbose : (reading.extend [node] names).flags.verbose = false := by
      change reading.flags.verbose = false
      rw [hflags]
    rw [List.append_assoc, List.singleton_append] at hrun ⊢
    rw [h.run reading _ last hflags (Or.inl rfl) hrun _ (Or.inl rfl)]
    exact Reading.run_of_step hsign hverbose

theorem optional {node : Node} (h : Yields ignoreCase true source [node] names)
    (hsource : source ≠ []) :
    Yields ignoreCase false (source ++ ['?']) [Node.optional true node] names :=
  h.repetition hsource fun _ _ ↦ rfl

theorem star {node : Node} (h : Yields ignoreCase true source [node] names)
    (hsource : source ≠ []) :
    Yields ignoreCase false (source ++ ['*']) [Node.star true node] names :=
  h.repetition hsource fun _ _ ↦ rfl

/-! ### Whole expressions -/

/-- A valid expression was read as the tree of its expressions, and its names are different. -/
theorem of_read? (h : Yields ignoreCase closed source nodes names) {root : Node}
    (hroot : Node.read? { ignoreCase } source = some root) :
    root = Node.ofItems nodes ∧ names.Nodup := by
  obtain ⟨last, hrun, hfinish⟩ := Option.bind_eq_some_iff.mp hroot
  have hnodup := Reading.nodup_of_run hrun List.nodup_nil
  rw [← List.append_nil source] at hrun
  rw [h.run (Reading.start { ignoreCase }) [] last rfl (Or.inr (by simp)) hrun [] (Or.inr (by simp)),
    Reading.run_nil rfl] at hrun
  obtain rfl := Option.some.inj hrun
  constructor
  · have hnode : Node.ofItems nodes = root := by
      simpa [Reading.finish?, Reading.extend, Reading.start, Group.content, Node.ofBranches]
        using hfinish
    exact hnode.symm
  · simpa [Reading.extend, Reading.start, List.nodup_reverse] using hnodup

/-- What was read in a valid expression is read before any other ending that is spelled right. -/
theorem read?_append {closed' : Bool} {back back' : List Char} {nodes' : List Node} {root : Node}
    (h : Yields ignoreCase closed source nodes names)
    (hback' : Spells ignoreCase closed' back' nodes' [])
    (hhead : closed = true ∨ back.head? ≠ some '?')
    (hread : Node.read? { ignoreCase } (source ++ back) = some root) :
    Node.read? { ignoreCase } (source ++ back') = some (.ofItems (nodes ++ nodes')) := by
  obtain ⟨last, hrun, -⟩ := Option.bind_eq_some_iff.mp hread
  have hsource := h.run (Reading.start { ignoreCase }) back last rfl hhead hrun back'
    (Or.inr hback'.head)
  have hend := hback'.run ((Reading.start { ignoreCase }).extend nodes names) [] rfl (by simp)
    (Or.inr (by simp))
  rw [List.append_nil, Reading.run_nil rfl] at hend
  rw [Node.read?, hsource, hend]
  simp [Reading.finish?, Reading.extend, Reading.start, Group.content, Node.ofBranches]

end Yields

/-! ### Expressions that are valid on their own -/

namespace Reading

variable {ignoreCase : Bool} {reading last : Reading}

/-- An expression is complete if no group is open. -/
theorem finish?_eq_some_iff {root : Node} :
    reading.finish? = some root ↔ reading.enclosing = [] ∧ reading.current.content = root := by
  unfold finish?
  split_ifs with hempty
  · simp [List.isEmpty_iff.mp hempty]
  · simp [mt List.isEmpty_iff.mpr hempty]

/-- To enter a group is to begin an expression within the reading. -/
theorem run_group (hflags : reading.flags = { ignoreCase }) (text : List Char) :
    reading.run ('(' :: (['?', ':'] ++ text)) =
      (reading.within (start { ignoreCase })).run text := by
  have hinside : reading.inside none = reading.within (start { ignoreCase }) := by
    simp [inside, enter, within, start, hflags]
  rw [run_of_step (readStep_group _ hflags) (by rw [hflags]), hinside]

/-- To leave a group after a whole expression is to add the expression to the text around it. -/
theorem run_within_closing (hflags : reading.flags = { ignoreCase }) {text : List Char}
    (hlast : (start { ignoreCase }).run text = some last) (hclosed : last.enclosing = [])
    (rest : List Char) :
    (reading.within last).run (')' :: rest) =
      (reading.extend [last.current.content] last.names.reverse).run rest := by
  obtain ⟨houtside, hname⟩ := Prod.mk.inj (frame_of_run hlast hclosed)
  have hnode : last.current.node = last.current.content := by
    rw [Group.node, hname]
  have houtside' : last.current.outside = reading.flags := houtside.trans hflags.symm
  have hclose : Piece.closing.advance? (reading.within last) =
      some (reading.extend [last.current.content] last.names.reverse) := by
    simp [Piece.advance?, leave?, within, extend, push, hclosed, hnode, houtside']
  have hpiece (flags : Flags) : readPiece? flags ')' rest = some (.closing, rest) := rfl
  rw [run_of_skip (skip_closing _ rest), hpiece, Option.bind_some, hclose, Option.bind_some]

end Reading

/-- The names of the groups of an expression. -/
def groupNames (flags : Flags) (text : List Char) : List String :=
  ((Reading.start flags).run text).elim [] fun last ↦ last.names.reverse

/-- Assumes: an expression that is valid on its own, and with which the expression for whole texts
is valid. In any valid expression it was read in its group as on its own. -/
theorem Yields.group_of_read? {ignoreCase : Bool} {source : List Char} {root whole : Node}
    (hroot : Node.read? { ignoreCase } source = some root)
    (hwhole : Node.read? { ignoreCase } ('^' :: (['(', '?', ':'] ++ source ++ [')', '$'])) =
      some whole) :
    Yields ignoreCase true (['(', '?', ':'] ++ source ++ [')']) [root]
      (groupNames { ignoreCase } source) where
  head := by simp
  run reading rest result hflags _ hrun rest' _ := by
    obtain ⟨last, hlast, hfinish⟩ := Option.bind_eq_some_iff.mp hroot
    obtain ⟨hclosed, rfl⟩ := Reading.finish?_eq_some_iff.mp hfinish
    have hsource (rest : List Char) : ['(', '?', ':'] ++ source ++ [')'] ++ rest =
        '(' :: (['?', ':'] ++ (source ++ ')' :: rest)) := by simp
    rw [hsource, Reading.run_group hflags] at hrun ⊢
    rcases Reading.run_within hlast with hsame | hcomment
    · rw [hsame reading rest result hrun rest', groupNames, hlast, Option.elim_some]
      exact Reading.run_within_closing hflags hlast hclosed rest'
    · -- Then the expression for whole texts would not be valid.
      exfalso
      obtain ⟨end', hend, hfinish'⟩ := Option.bind_eq_some_iff.mp hwhole
      have hsource' : ['(', '?', ':'] ++ source ++ [')', '$'] =
          '(' :: (['?', ':'] ++ (source ++ ')' :: ['$'])) := by simp
      have hbegin (condition : Look) :
          ((Reading.start { ignoreCase }).push (.look condition)).flags = { ignoreCase } := rfl
      rw [Reading.run_of_step (readStep_caret _ _) rfl, hsource',
        Reading.run_group (hbegin _)] at hend
      obtain rfl := hcomment _ _ _ (by decide) hend
      obtain ⟨hopen, -⟩ := Reading.finish?_eq_some_iff.mp hfinish'
      simp [Reading.within] at hopen

end RoutePatterns.Regex
