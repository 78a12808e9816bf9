import Mathlib.Data.List.Basic
import Mathlib.Tactic.Tauto
import RoutePatterns.Regex.Reader

/-!
# Spellings of regular expressions

`Spells ignoreCase closed source nodes names` says that the text `source`, wherever it stands in an
expression, is read as the expressions `nodes` and takes the group names `names`. A spelling is
`closed` if what follows cannot change how it is read; after one that is not, no question mark may
follow, because it would make the last repetition lazy.

There is one rule for each way to put an expression together: characters, groups, captures,
repetitions, complemented classes and conditions. `Spells.read?_eq` says that a whole spelling is
read as the tree of its expressions.
-/

set_option autoImplicit false
set_option relaxedAutoImplicit false

namespace RoutePatterns.Regex

open Text

/-! ### Readings that go on -/

namespace Reading

theorem run_nil {reading : Reading} (hverbose : reading.flags.verbose = false) :
    reading.run [] = some reading := by
  rw [Reading.run]
  split
  · rfl
  · next hskip =>
    rw [Flags.skip, hverbose] at hskip
    cases hskip

theorem run_cons {reading : Reading} (hverbose : reading.flags.verbose = false) (char : Char)
    (rest : List Char) :
    reading.run (char :: rest) =
      (readStep reading char rest).bind fun next ↦ next.1.run next.2 := by
  have hskip : reading.flags.skip (char :: rest) = char :: rest := by
    rw [Flags.skip, hverbose]
    rfl
  rw [Reading.run]
  split
  · next hnil =>
    rw [hskip] at hnil
    cases hnil
  · next char' rest' hcons =>
    rw [hskip] at hcons
    obtain ⟨rfl, rfl⟩ := List.cons.inj hcons
    split
    · next hstep =>
      rw [hstep]
      rfl
    · next next' rest' hstep =>
      change next'.run rest' = _
      rw [hstep]
      rfl

theorem run_of_step {reading next : Reading} {char : Char} {rest rest' : List Char}
    (hstep : readStep reading char rest = some (next, rest'))
    (hverbose : reading.flags.verbose = false) :
    reading.run (char :: rest) = next.run rest' := by
  rw [run_cons hverbose, hstep, Option.bind_some]

/-- The reading inside a group that keeps the switches. -/
def inside (reading : Reading) (name : Option String) : Reading :=
  { reading.enter name reading.flags with names := name.toList ++ reading.names }

/-- The reading after the items `nodes` and the names `names`. -/
def extend (reading : Reading) (nodes : List Node) (names : List String) : Reading :=
  { reading with
    current := { reading.current with items := nodes.reverse ++ reading.current.items }
    repeatable := reading.repeatable || !nodes.isEmpty
    names := names.reverse ++ reading.names }

theorem extend_nil (reading : Reading) : reading.extend [] [] = reading := by
  simp [extend]

theorem extend_extend (reading : Reading) (front back : List Node) (names others : List String) :
    (reading.extend front names).extend back others =
      reading.extend (front ++ back) (names ++ others) := by
  cases front <;> simp [extend]

theorem extend_singleton (reading : Reading) (node : Node) :
    reading.extend [node] [] = reading.push node := by
  simp [extend, push]

theorem modifyLast?_extend (reading : Reading) (node : Node) (names : List String)
    (make : Node → Node) :
    (reading.extend [node] names).modifyLast? (fun node ↦ some (make node)) =
      some (reading.extend [make node] names) := by
  simp [modifyLast?, extend]

end Reading

/-- A backslash before a sign makes it stand for itself. -/
theorem readEscaped_of_isMeta {char : Char} (flags : Flags) (rest : List Char)
    (hmeta : isMeta char = true) :
    readEscaped flags (char :: rest) = some (.literal char false, rest) := by
  have hmem : char ∈ metaCharacters := by simpa [isMeta] using hmeta
  simp only [metaCharacters, List.mem_cons, List.not_mem_nil, or_false] at hmem
  rcases hmem with rfl | rfl | rfl | rfl | rfl | rfl | rfl | rfl | rfl | rfl | rfl | rfl | rfl |
    rfl | rfl | rfl | rfl | rfl <;> rfl

/-! ### Steps of a reading -/

section Steps

variable (reading : Reading) (rest : List Char)

theorem readStep_open : readStep reading '(' rest =
    (readOpening reading.flags rest).bind fun opening ↦
      (reading.opened? opening.1).map fun reading ↦ (reading, opening.2) := by
  delta readStep
  rcases readOpening reading.flags rest with _ | _
  · rfl
  · rfl

theorem readStep_close :
    readStep reading ')' rest = reading.leave?.map fun reading ↦ (reading, rest) :=
  rfl

theorem readStep_bracket : readStep reading '[' rest =
    (readBracket reading.flags rest).map fun set ↦ (reading.push (.one set.1), set.2) := by
  delta readStep
  rcases readBracket reading.flags rest with _ | _
  · rfl
  · rfl

theorem readStep_plus : readStep reading '+' rest = readRepetition reading Node.plus rest :=
  rfl

theorem readStep_backslash : readStep reading '\\' rest =
    (readEscaped reading.flags rest).bind fun escaped ↦
      (reading.escaped? escaped.1).map fun reading ↦ (reading, escaped.2) := by
  delta readStep
  rcases readEscaped reading.flags rest with _ | _
  · rfl
  · rfl

theorem readStep_caret :
    readStep reading '^' rest = some (reading.push (.look reading.flags.caret), rest) :=
  rfl

theorem readStep_dollar :
    readStep reading '$' rest = some (reading.push (.look reading.flags.dollar), rest) :=
  rfl

/-- The parenthesis that closes a group makes its content one item of the text around it. -/
theorem readStep_leave (name : Option String) (nodes : List Node) (names : List String) :
    readStep ((reading.inside name).extend nodes names) ')' rest =
      some (reading.extend [Group.node ⟨reading.flags, name, [], nodes.reverse⟩]
        (name.toList ++ names), rest) := by
  rw [readStep_close]
  cases name <;>
    simp [Reading.leave?, Reading.extend, Reading.inside, Reading.enter, Reading.push]

variable {ignoreCase : Bool} {reading}

/-- A group that keeps the switches and records nothing is entered. -/
theorem readStep_group (hflags : reading.flags = { ignoreCase }) :
    readStep reading '(' (['?', ':'] ++ rest) = some (reading.inside none, rest) := by
  simp [readStep_open, readOpening, readSwitches, Flags.skip, Flags.areLetters, Flags.apply, hflags,
    Reading.opened?, Reading.inside, Reading.enter]

/-- A capture is entered if its name is new. -/
theorem readStep_capture {name : List Char} (hname : isGroupName name = true) (hend : '>' ∉ name)
    (hflags : reading.flags = { ignoreCase }) :
    readStep reading '(' (['?', 'P', '<'] ++ name ++ ['>'] ++ rest) =
      if String.ofList name ∈ reading.names then none
      else some (reading.inside (some (String.ofList name)), rest) := by
  have hletters : ∀ char ∈ name, (char != '>') = true := by
    intro char hchar
    exact bne_iff_ne.mpr fun heq ↦ hend (heq ▸ hchar)
  have hopening : readOpening { ignoreCase } (['?', 'P', '<'] ++ name ++ ['>'] ++ rest) =
      some (.named (String.ofList name), rest) := by
    simp [readOpening, readGroupName, Flags.skip, hname, List.takeWhile_append_of_pos hletters,
      List.dropWhile_append_of_pos hletters]
  rw [readStep_open, hflags, hopening, Option.bind_some, Reading.opened?]
  split_ifs with hcontains hmem hmem
  · rfl
  · exact absurd (List.contains_iff_mem.mp hcontains) hmem
  · exact absurd (List.contains_iff_mem.mpr hmem) hcontains
  · rfl

variable {sign : Char} {make : Bool → Node → Node}
  (hsign : ∀ (reading : Reading) (rest : List Char),
    readStep reading sign rest = readRepetition reading make rest)

include hsign

/-- A repetition sign that is not followed by a question mark repeats the last item greedily. -/
theorem readStep_greedy (hflags : reading.flags = { ignoreCase }) (hrest : rest.head? ≠ some '?')
    (node : Node) (names : List String) :
    readStep (reading.extend [node] names) sign rest =
      some (reading.extend [make true node] names, rest) := by
  have hgreed : readGreed { ignoreCase } rest = (true, rest) := by
    unfold readGreed
    split
    · simp at hrest
    · rfl
  have hflags' : (reading.extend [node] names).flags = { ignoreCase } := hflags
  simp only [hsign, readRepetition, hflags', hgreed, Reading.modifyLast?_extend, Option.map_some]

/-- A repetition sign that is followed by a question mark repeats the last item lazily. -/
theorem readStep_lazy (hflags : reading.flags = { ignoreCase }) (node : Node)
    (names : List String) :
    readStep (reading.extend [node] names) sign ('?' :: rest) =
      some (reading.extend [make false node] names, rest) := by
  have hflags' : (reading.extend [node] names).flags = { ignoreCase } := hflags
  simp only [hsign, readRepetition, readGreed, hflags', Reading.modifyLast?_extend,
    Option.map_some]

end Steps

/-! ### Spellings -/

/-- The text `source` is read as `nodes` and takes the names `names`. -/
structure Spells (ignoreCase closed : Bool) (source : List Char) (nodes : List Node)
    (names : List String) : Prop where
  /-- The text does not make a repetition before it lazy. -/
  head : source.head? ≠ some '?'
  /-- The text is read as the expressions. -/
  run : ∀ (reading : Reading) (rest : List Char), reading.flags = { ignoreCase } →
    (∀ name ∈ names, name ∉ reading.names) → (closed = true ∨ rest.head? ≠ some '?') →
    reading.run (source ++ rest) = (reading.extend nodes names).run rest

namespace Spells

variable {ignoreCase closed : Bool} {source : List Char} {nodes : List Node} {names : List String}

theorem nil : Spells ignoreCase true [] [] [] where
  head := by simp
  run reading rest _ _ _ := by rw [Reading.extend_nil, List.nil_append]

theorem append {closed' : Bool} {source' : List Char} {nodes' : List Node} {names' : List String}
    (h : Spells ignoreCase closed source nodes names)
    (h' : Spells ignoreCase closed' source' nodes' names') (hnames : names.Disjoint names') :
    Spells ignoreCase false (source ++ source') (nodes ++ nodes') (names ++ names') where
  head := by
    cases source with
    | nil => exact h'.head
    | cons char source => exact h.head
  run reading rest hflags hfresh hrest := by
    have hrest : rest.head? ≠ some '?' := by simpa using hrest
    have hnext : (source' ++ rest).head? ≠ some '?' := by
      cases source' with
      | nil => exact hrest
      | cons char source' => exact h'.head
    rw [List.append_assoc, h.run reading _ hflags
      (fun name hname ↦ hfresh name (List.mem_append_left _ hname)) (Or.inr hnext),
      h'.run (reading.extend nodes names) rest hflags ?_ (Or.inr hrest), Reading.extend_extend]
    intro name hname hmem
    rcases List.mem_append.mp hmem with hold | hold
    · exact hnames (List.mem_reverse.mp hold) hname
    · exact hfresh name (List.mem_append_right _ hname) hold

/-- A piece that is read in one step is a spelling. -/
theorem of_step {char : Char} {node : Node} (hchar : char ≠ '?')
    (hstep : ∀ (reading : Reading) (rest : List Char), reading.flags = { ignoreCase } →
      readStep reading char (source ++ rest) = some (reading.push node, rest)) :
    Spells ignoreCase true (char :: source) [node] [] where
  head := by simpa using hchar
  run reading rest hflags _ _ := by
    rw [List.cons_append, Reading.run_cons (by rw [hflags]), hstep reading rest hflags,
      Reading.extend_singleton]
    rfl

/-! ### Characters and conditions -/

theorem char (char : Char) :
    Spells ignoreCase true (escapeChar char) [.one (Flags.single { ignoreCase } char)] [] := by
  unfold escapeChar
  split
  · next hmeta =>
    refine of_step (by decide) fun reading rest hflags ↦ ?_
    simp only [readStep_backslash, List.singleton_append, readEscaped_of_isMeta _ _ hmeta,
      Reading.escaped?, hflags, Bool.true_or, if_true, Option.bind_some, Option.map_some]
  · next hmeta =>
    have hnot : char ∉ metaCharacters := by simpa [isMeta] using hmeta
    simp only [metaCharacters, List.mem_cons, List.not_mem_nil, or_false, not_or] at hnot
    refine of_step (by tauto) fun reading rest hflags ↦ ?_
    unfold readStep
    split
    case h_13 => rw [hflags]; rfl
    all_goals tauto

theorem caret : Spells ignoreCase true ['^'] [.look .textStart] [] :=
  of_step (by decide) fun reading rest hflags ↦ by
    rw [readStep_caret, hflags]
    rfl

theorem dollar : Spells ignoreCase true ['$'] [.look .textEnd] [] :=
  of_step (by decide) fun reading rest hflags ↦ by
    rw [readStep_dollar, hflags]
    rfl

/-- A text is spelled character by character. -/
theorem text (text : List Char) :
    Spells ignoreCase false (escape text)
      (text.map fun char ↦ .one (Flags.single { ignoreCase } char)) [] := by
  induction text with
  | nil => exact ⟨by simp [escape], fun reading rest _ _ _ ↦ by simp [escape, Reading.extend_nil]⟩
  | cons first text ih => exact (char first).append ih (by simp)

/-! ### Groups and captures -/

/-- What is spelled in a group becomes one item of the text around it. -/
theorem run_enclosed (h : Spells ignoreCase closed source nodes names) {reading : Reading}
    {name : Option String} {opening : List Char} (hflags : reading.flags = { ignoreCase })
    (hfresh : ∀ other ∈ names, other ∉ name.toList ++ reading.names)
    (hopen : ∀ after, readStep reading '(' (opening ++ after) = some (reading.inside name, after))
    (rest : List Char) :
    reading.run ('(' :: (opening ++ (source ++ ')' :: rest))) =
      (reading.extend [Group.node ⟨reading.flags, name, [], nodes.reverse⟩]
        (name.toList ++ names)).run rest := by
  have hverbose : reading.flags.verbose = false := by rw [hflags]
  have hinside := h.run (reading.inside name) (')' :: rest) hflags hfresh (Or.inr (by simp))
  rw [Reading.run_of_step (hopen _) hverbose, hinside,
    Reading.run_of_step (readStep_leave reading rest name nodes names) hverbose]

/-- What is spelled in a group that records nothing becomes one item. -/
theorem group (h : Spells ignoreCase closed source nodes names) :
    Spells ignoreCase true (['(', '?', ':'] ++ source ++ [')']) [Node.ofItems nodes] names where
  head := by simp
  run reading rest hflags hfresh _ := by
    have hopen (after : List Char) := readStep_group after hflags
    have hrun := h.run_enclosed hflags (by simpa using hfresh) hopen rest
    simpa [Group.node, Group.content, Node.ofBranches] using hrun

/-- What is spelled in a capture becomes one item that records under its name. -/
theorem capture {name : List Char} (hname : isGroupName name = true) (hend : '>' ∉ name)
    (h : Spells ignoreCase closed source nodes names) (hnames : String.ofList name ∉ names) :
    Spells ignoreCase true (['(', '?', 'P', '<'] ++ name ++ ['>'] ++ source ++ [')'])
      [.capture (String.ofList name) (Node.ofItems nodes)] (String.ofList name :: names) where
  head := by simp
  run reading rest hflags hfresh _ := by
    have hnew : String.ofList name ∉ reading.names := hfresh _ List.mem_cons_self
    have hopen (after : List Char) := readStep_capture after hname hend hflags
    simp only [if_neg hnew] at hopen
    have hfresh' : ∀ other ∈ names,
        other ∉ (some (String.ofList name)).toList ++ reading.names := by
      intro other hother hmem
      rcases List.mem_cons.mp hmem with rfl | hold
      · exact hnames hother
      · exact hfresh other (List.mem_cons_of_mem _ hother) hold
    have hrun := h.run_enclosed hflags hfresh' hopen rest
    simpa [Group.node, Group.content, Node.ofBranches] using hrun

/-! ### Repetitions -/

/-- A greedy repetition of one item. -/
theorem repetition {node : Node} {sign : Char} {make : Bool → Node → Node}
    (h : Spells ignoreCase true source [node] names) (hsource : source ≠ [])
    (hstep : ∀ (reading : Reading) (rest : List Char),
      readStep reading sign rest = readRepetition reading make rest) :
    Spells ignoreCase false (source ++ [sign]) [make true node] names where
  head := by
    cases source with
    | nil => exact absurd rfl hsource
    | cons char source => exact h.head
  run reading rest hflags hfresh hrest := by
    have hsign := readStep_greedy rest hstep hflags (by simpa using hrest) node names
    have hverbose : reading.flags.verbose = false := by rw [hflags]
    rw [List.append_assoc, h.run reading _ hflags hfresh (Or.inl rfl), List.singleton_append,
      Reading.run_of_step hsign hverbose]

theorem optional {node : Node} (h : Spells ignoreCase true source [node] names)
    (hsource : source ≠ []) :
    Spells ignoreCase false (source ++ ['?']) [Node.optional true node] names :=
  h.repetition hsource fun _ _ ↦ rfl

theorem star {node : Node} (h : Spells ignoreCase true source [node] names)
    (hsource : source ≠ []) :
    Spells ignoreCase false (source ++ ['*']) [Node.star true node] names :=
  h.repetition hsource fun _ _ ↦ rfl

/-- One item or several, as few as possible. -/
theorem lazyPlus {node : Node} (h : Spells ignoreCase true source [node] names)
    (hsource : source ≠ []) :
    Spells ignoreCase true (source ++ ['+', '?']) [.plus false node] names where
  head := by
    cases source with
    | nil => exact absurd rfl hsource
    | cons char source => exact h.head
  run reading rest hflags hfresh _ := by
    have hsign := readStep_lazy rest readStep_plus hflags node names
    have hverbose : reading.flags.verbose = false := by rw [hflags]
    have hsource' : source ++ ['+', '?'] ++ rest = source ++ '+' :: '?' :: rest := by simp
    rw [hsource', h.run reading _ hflags hfresh (Or.inl rfl), Reading.run_of_step hsign hverbose]

end Spells

/-! ### Complemented classes -/

theorem readBracketFrom_of_more {flags : Flags} {current current' : Bracket}
    {outer outer' : List Bracket} {char : Char} {rest rest' : List Char}
    (hverbose : flags.verbose = false)
    (hstep : bracketStep flags current outer char rest = some (.more current' outer' rest')) :
    readBracketFrom flags current outer (char :: rest) =
      readBracketFrom flags current' outer' rest' := by
  have hskip : flags.skip (char :: rest) = char :: rest := by
    rw [Flags.skip, hverbose]
    rfl
  rw [readBracketFrom]
  split
  · next hnil =>
    rw [hskip] at hnil
    cases hnil
  · next hcons =>
    rw [hskip] at hcons
    obtain ⟨rfl, rfl⟩ := List.cons.inj hcons
    split
    · next hnone =>
      rw [hstep] at hnone
      cases hnone
    · next hdone =>
      rw [hstep] at hdone
      cases hdone
    · next hmore =>
      rw [hstep] at hmore
      cases hmore
      rfl

theorem readBracketFrom_of_done {flags : Flags} {current : Bracket} {outer : List Bracket}
    {char : Char} {rest rest' : List Char} {set : CharSet} (hverbose : flags.verbose = false)
    (hstep : bracketStep flags current outer char rest = some (.done set rest')) :
    readBracketFrom flags current outer (char :: rest) = some (set, rest') := by
  have hskip : flags.skip (char :: rest) = char :: rest := by
    rw [Flags.skip, hverbose]
    rfl
  rw [readBracketFrom]
  split
  · next hnil =>
    rw [hskip] at hnil
    cases hnil
  · next hcons =>
    rw [hskip] at hcons
    obtain ⟨rfl, rfl⟩ := List.cons.inj hcons
    split
    · next hnone =>
      rw [hstep] at hnone
      cases hnone
    · next hdone =>
      rw [hstep] at hdone
      cases hdone
      rfl
    · next hmore =>
      rw [hstep] at hmore
      cases hmore

/-- A character that is written so that it stands for itself adds its set to the class. -/
theorem bracketStep_escapeChar (ignoreCase : Bool) (current : Bracket) (char : Char)
    {after : List Char} (hafter : after.head? ≠ some '-') :
    ∃ first rest, escapeChar char ++ after = first :: rest ∧
      bracketStep { ignoreCase } current [] first rest =
        some (.more (current.add (.single char)) [] after) := by
  have hrange {first : Char} {rest : List Char}
      (hatom : readAtom { ignoreCase } first rest = some (.literal char, after)) :
      readRange { ignoreCase } first rest = some (.single char, after) := by
    unfold readRange
    rw [hatom]
    simp only [Flags.skip, Bool.false_eq_true, if_false]
    split
    · simp at hafter
    · rfl
  unfold escapeChar
  split
  · next hmeta =>
    refine ⟨'\\', char :: after, rfl, ?_⟩
    have hatom : readAtom { ignoreCase } '\\' (char :: after) = some (.literal char, after) := by
      simp [readAtom, readEscaped_of_isMeta _ _ hmeta, escapedAtom?, literalAtom?]
    simp [bracketStep, hrange hatom]
  · next hmeta =>
    have hnot : char ∉ metaCharacters := by simpa [isMeta] using hmeta
    simp only [metaCharacters, List.mem_cons, List.not_mem_nil, or_false, not_or] at hnot
    refine ⟨char, after, rfl, ?_⟩
    have hatom : readAtom { ignoreCase } char after = some (.literal char, after) := by
      simp [readAtom, literalAtom?, hnot]
    unfold bracketStep
    split
    case h_6 => rw [hrange hatom]; rfl
    all_goals tauto

/-- The written form of a character begins with no sign of its own. -/
theorem head?_escapeChar_append (char : Char) {sign : Char} (hsign : isMeta sign = true)
    (hne : sign ≠ '\\') (after : List Char) : (escapeChar char ++ after).head? ≠ some sign := by
  unfold escapeChar
  split
  · simpa using Ne.symm hne
  · next hmeta =>
    have hchar : char ≠ sign := fun heq ↦ hmeta (heq ▸ hsign)
    simpa using hchar

/-- The set of some characters. -/
def CharSet.oneOf (chars : List Char) : CharSet :=
  fun char ↦ chars.contains char

/-- The characters that fold like none of some characters if case is ignored, else those that are
none of them. -/
def CharSet.noneOf (ignoreCase : Bool) (chars : List Char) : CharSet :=
  (Flags.fold { ignoreCase } (.oneOf chars)).compl

variable {ignoreCase : Bool}

theorem exists_close?_eq_some (ignoreCase : Bool) (current : Bracket) :
    ∃ set, current.close? { ignoreCase } = some set := by
  cases hnegated : current.negated <;> simp [Bracket.close?, Flags.negate?, hnegated]

/-- The characters of a class, each written so that it stands for itself. -/
theorem readBracketFrom_escape (current : Bracket) (chars rest : List Char) :
    readBracketFrom { ignoreCase } current [] (escape chars ++ ']' :: rest) =
      ({ current with items := current.items.union (.oneOf chars) }.close? { ignoreCase }).map
        fun set ↦ (set, rest) := by
  induction chars generalizing current with
  | nil =>
    have hitems : current.items.union (.oneOf []) = current.items := by
      funext char
      simp [CharSet.union, CharSet.oneOf]
    obtain ⟨set, hclose⟩ := exists_close?_eq_some ignoreCase current
    have hstep : bracketStep { ignoreCase } current [] ']' rest = some (.done set rest) := by
      simp [bracketStep, closeBracket, hclose]
    rw [hitems, hclose]
    exact readBracketFrom_of_done rfl hstep
  | cons char chars ih =>
    have hafter : (escape chars ++ ']' :: rest).head? ≠ some '-' := by
      cases chars with
      | nil => simp [escape]
      | cons next chars =>
        rw [escape, List.flatMap_cons, List.append_assoc]
        exact head?_escapeChar_append next rfl (by decide) _
    obtain ⟨first, after, hsource, hstep⟩ := bracketStep_escapeChar ignoreCase current char hafter
    have hitems : (current.add (.single char)).items.union (.oneOf chars) =
        current.items.union (.oneOf (char :: chars)) := by
      funext other
      have hsame : (other == char) = decide (other = char) := Bool.beq_eq_decide_eq _ _
      simp [Bracket.add, CharSet.union, CharSet.single, CharSet.oneOf, Bool.or_assoc, hsame]
    have hescape : escape (char :: chars) ++ ']' :: rest =
        escapeChar char ++ (escape chars ++ ']' :: rest) := by
      simp [escape]
    rw [hescape, hsource, readBracketFrom_of_more rfl hstep, ih, hitems]
    rfl

/-- A complemented class is not taken for one that begins with a hyphen or a bracket. -/
theorem openBracket_caret (char : Char) (after : List Char) :
    openBracket { ignoreCase } ('^' :: (escapeChar char ++ after)) =
      (⟨true, none, .none⟩, escapeChar char ++ after) := by
  have hhyphen : (escapeChar char ++ after).head? ≠ some '-' :=
    head?_escapeChar_append char rfl (by decide) after
  have hclosing : (escapeChar char ++ after).head? ≠ some ']' :=
    head?_escapeChar_append char rfl (by decide) after
  have hskip : skipHyphens { ignoreCase } (escapeChar char ++ after) =
      (false, escapeChar char ++ after) := by
    rw [skipHyphens]
    split
    · next heq =>
      simp only [Flags.skip, Bool.false_eq_true, if_false] at heq
      rw [heq] at hhyphen
      simp at hhyphen
    · rfl
  unfold openBracket
  simp only [Flags.skip, Bool.false_eq_true, if_false, hskip]
  split
  · next heq => cases heq
  · next heq =>
    obtain ⟨-, hrest⟩ := Prod.mk.inj heq
    rw [hrest] at hclosing
    simp at hclosing
  · next heq =>
    obtain ⟨-, rfl⟩ := Prod.mk.inj heq
    rfl

/-- A complemented class of characters, each written so that it stands for itself. -/
theorem Spells.noneOf {chars : List Char} (hchars : chars ≠ []) :
    Spells ignoreCase true ('[' :: '^' :: (escape chars ++ [']']))
      [.one (.noneOf ignoreCase chars)] [] := by
  refine of_step (by decide) fun reading rest hflags ↦ ?_
  have hbracket : readBracket { ignoreCase } ('^' :: (escape chars ++ [']']) ++ rest) =
      some (.noneOf ignoreCase chars, rest) := by
    obtain ⟨char, chars, rfl⟩ := List.exists_cons_of_ne_nil hchars
    have hescape : '^' :: (escape (char :: chars) ++ [']']) ++ rest =
        '^' :: (escapeChar char ++ (escape chars ++ ']' :: rest)) := by
      simp [escape]
    have hescape' : escapeChar char ++ (escape chars ++ ']' :: rest) =
        escape (char :: chars) ++ ']' :: rest := by
      simp [escape]
    rw [readBracket, hescape, openBracket_caret]
    simp only
    rw [hescape', readBracketFrom_escape]
    rfl
  simp only [readStep_bracket, hflags, hbracket, Option.map_some]

/-! ### Whole expressions -/

/-- A whole spelling is read as the tree of its expressions. -/
theorem Spells.read?_eq {closed : Bool} {source : List Char} {nodes : List Node}
    {names : List String} (h : Spells ignoreCase closed source nodes names) :
    Node.read? { ignoreCase } source = some (Node.ofItems nodes) := by
  have hrun := h.run (Reading.start { ignoreCase }) [] rfl (by simp [Reading.start])
    (Or.inr (by simp))
  rw [List.append_nil, Reading.run_nil rfl] at hrun
  rw [Node.read?, hrun]
  simp [Reading.finish?, Reading.extend, Reading.start, Group.content, Node.ofBranches]

end RoutePatterns.Regex
