import RoutePatterns.Proofs.Regex.LongerClasses

/-!
# The pieces of a regular expression

A reading takes an expression piece by piece. `readPiece?` reads one piece from the text, for which
it needs nothing of the reading but the switches, and `Piece.advance?` does to the reading what the
piece says; together they are a step (`readStep_eq`). A piece is the same if the text goes on, or it
ends in a comment that goes on, too (`readPiece?_append`).

Since a whole reading is made of pieces, what every piece keeps is kept by the reading
(`Reading.run_induction`): group names are used once (`Reading.nodup_of_run`).
-/

set_option autoImplicit false
set_option relaxedAutoImplicit false

namespace RoutePatterns.Regex

/-! ### Pieces -/

/-- A sign that repeats the item before it. -/
inductive Repetition
  | optional (greedy : Bool)
  | star (greedy : Bool)
  | plus (greedy : Bool)
  | counted (greedy : Bool) (least : ℕ) (most : Option ℕ)

/-- The repeated item, unless it would be too large. -/
def Repetition.make? : Repetition → Node → Option Node
  | optional greedy, node => some (.optional greedy node)
  | star greedy, node => some (.star greedy node)
  | plus greedy, node => some (.plus greedy node)
  | counted greedy least most, node => repeat? greedy least most node

/-- A piece of an expression. -/
inductive Piece
  /-- An opening parenthesis with what it introduces. -/
  | opening (introduced : Opening)
  /-- A closing parenthesis. -/
  | closing
  /-- The bar between branches. -/
  | bar
  /-- One character of a set. -/
  | one (set : CharSet)
  /-- A condition. -/
  | look (condition : Look)
  /-- A repetition sign. -/
  | repetition (sign : Repetition)

/-- What a backslash introduces as a piece; over bytes some of it is refused. -/
def escapedPiece? (flags : Flags) : Escaped → Option Piece
  | .literal char byte =>
    if flags.unicode || !byte || char.toNat < 0x80 then some (.one (flags.single char)) else none
  | .classSet unicode ascii negated =>
    (flags.negate? negated (if flags.unicode then unicode else ascii)).map .one
  | .property set negated =>
    if flags.unicode then (flags.negate? negated (flags.fold set)).map .one else none
  | .look condition => some (.look condition)

/-- The piece for a counted repetition with its bounds, and the text after it. -/
def countedPiece (flags : Flags) (counts : (ℕ × Option ℕ) × List Char) : Piece × List Char :=
  let greed := readGreed flags (flags.skip counts.2)
  (.repetition (.counted greed.1 counts.1.1 counts.1.2), greed.2)

/-- Reads the piece that begins with `char`. -/
def readPiece? (flags : Flags) (char : Char) (rest : List Char) : Option (Piece × List Char) :=
  match char with
  | '(' => (readOpening flags rest).map fun opening ↦ (.opening opening.1, opening.2)
  | ')' => some (.closing, rest)
  | '|' => some (.bar, rest)
  | '[' => (readBracket flags rest).map fun set ↦ (.one set.1, set.2)
  | '?' => some (.repetition (.optional (readGreed flags rest).1), (readGreed flags rest).2)
  | '*' => some (.repetition (.star (readGreed flags rest).1), (readGreed flags rest).2)
  | '+' => some (.repetition (.plus (readGreed flags rest).1), (readGreed flags rest).2)
  | '\x7b' => (readCounts flags rest).map (countedPiece flags)
  | '\\' =>
    (readEscaped flags rest).bind fun escaped ↦
      (escapedPiece? flags escaped.1).map fun piece ↦ (piece, escaped.2)
  | '.' => flags.dot?.map fun set ↦ (.one set, rest)
  | '^' => some (.look flags.caret, rest)
  | '$' => some (.look flags.dollar, rest)
  | char => some (.one (flags.single char), rest)

/-- The reading after a piece. -/
def Piece.advance? (piece : Piece) (reading : Reading) : Option Reading :=
  match piece with
  | .opening introduced => reading.opened? introduced
  | .closing => reading.leave?
  | .bar => some reading.branch
  | .one set => some (reading.push (.one set))
  | .look condition => some (reading.push (.look condition))
  | .repetition sign => reading.modifyLast? sign.make?

theorem readCounted_eq (reading : Reading) (text : List Char) :
    readCounted reading text =
      ((readCounts reading.flags text).map (countedPiece reading.flags)).bind fun piece ↦
        (piece.1.advance? reading).map fun next ↦ (next, piece.2) := by
  unfold readCounted
  rcases readCounts reading.flags text with _ | ⟨⟨least, most⟩, rest⟩
  · rfl
  · rfl

theorem escaped?_eq (reading : Reading) (escaped : Escaped) :
    reading.escaped? escaped =
      (escapedPiece? reading.flags escaped).bind fun piece ↦ piece.advance? reading := by
  cases escaped with
  | literal char byte =>
    rw [Reading.escaped?, escapedPiece?]
    split_ifs <;> rfl
  | classSet unicode ascii negated =>
    rw [Reading.escaped?, escapedPiece?, Reading.pushSet?]
    rcases reading.flags.negate? negated _ with _ | set <;> rfl
  | property set negated =>
    rw [Reading.escaped?, escapedPiece?, Reading.pushSet?]
    split_ifs
    · rcases reading.flags.negate? negated _ with _ | set <;> rfl
    · rfl
  | look condition => rfl

/-- A step reads a piece and does what it says. -/
theorem readStep_eq (reading : Reading) (char : Char) (rest : List Char) :
    readStep reading char rest =
      (readPiece? reading.flags char rest).bind fun piece ↦
        (piece.1.advance? reading).map fun next ↦ (next, piece.2) := by
  unfold readStep
  split
  case h_13 =>
    unfold readPiece?
    split
    case h_13 => rfl
    all_goals contradiction
  all_goals simp only [readPiece?]
  · rcases readOpening reading.flags rest with _ | ⟨opening, after⟩ <;> rfl
  · rfl
  · rfl
  · rcases readBracket reading.flags rest with _ | ⟨set, after⟩ <;> rfl
  · rfl
  · rfl
  · rfl
  · exact readCounted_eq reading rest
  · rcases readEscaped reading.flags rest with _ | ⟨escaped, after⟩
    · rfl
    · simp only [escaped?_eq, Option.bind_some]
      rcases escapedPiece? reading.flags escaped with _ | piece <;> rfl
  · rw [Reading.pushSet?]
    rcases reading.flags.dot? with _ | set <;> rfl
  · rfl
  · rfl

theorem countedPiece_append {flags : Flags} {counts : ℕ × Option ℕ} {text : List Char} :
    (∀ after, countedPiece flags (counts, text ++ ')' :: after) =
        ((countedPiece flags (counts, text)).1,
          (countedPiece flags (counts, text)).2 ++ ')' :: after)) ∨
      (countedPiece flags (counts, text)).2 = [] ∧
        ∀ more, '\n' ∉ more → countedPiece flags (counts, text ++ more) =
          ((countedPiece flags (counts, text)).1, []) := by
  rcases hskip : flags.skip text with _ | ⟨char, rest⟩
  · have hgreed : readGreed flags [] = (!flags.swapGreed, []) := rfl
    refine (Flags.skip_append_of_eq_nil hskip).imp (fun hsame after ↦ ?_) fun hcomment ↦ ?_
    · simp only [countedPiece, hskip, hsame]
      rfl
    · refine ⟨by simp only [countedPiece, hskip, hgreed], fun more hmore ↦ ?_⟩
      simp only [countedPiece, hskip, hcomment more hmore, hgreed]
  · left
    intro after
    have hskip' := Flags.skip_append (by rw [hskip]; exact List.cons_ne_nil _ _) (')' :: after)
    simp only [countedPiece, hskip', readGreed_append]

/-- A piece is the same if the text goes on, or the rest of the text is a comment that goes on,
too. -/
theorem readPiece?_append {flags : Flags} {char : Char} {text rest : List Char} {piece : Piece}
    (h : readPiece? flags char text = some (piece, rest)) :
    (∀ after, readPiece? flags char (text ++ ')' :: after) = some (piece, rest ++ ')' :: after)) ∨
      rest = [] ∧ ∀ more, '\n' ∉ more →
        readPiece? flags char (text ++ more) = some (piece, []) := by
  unfold readPiece? at h ⊢
  split at h
  case h_1 =>
    obtain ⟨⟨introduced, after⟩, hopening, heq⟩ := Option.map_eq_some_iff.mp h
    cases heq
    refine (readOpening_append hopening).imp (fun hsame after ↦ ?_) fun hcomment ↦ ?_
    · rw [hsame]
      rfl
    · refine ⟨hcomment.1, fun more hmore ↦ ?_⟩
      rw [hcomment.2 more hmore]
      rfl
  case h_4 =>
    obtain ⟨⟨set, after⟩, hbracket, heq⟩ := Option.map_eq_some_iff.mp h
    cases heq
    left
    intro after
    rw [readBracket_append hbracket]
    rfl
  case h_5 | h_6 | h_7 =>
    cases h
    left
    intro after
    rw [readGreed_append]
  case h_8 =>
    obtain ⟨⟨counts, after⟩, hcounts, heq⟩ := Option.map_eq_some_iff.mp h
    simp only [readCounts_append hcounts, Option.map_some, Option.some.injEq]
    obtain ⟨rfl, rfl⟩ := Prod.mk.inj heq
    exact countedPiece_append
  case h_9 =>
    obtain ⟨⟨escaped, rest⟩, hescaped, hpiece⟩ := Option.bind_eq_some_iff.mp h
    obtain ⟨found, hfound, heq⟩ := Option.map_eq_some_iff.mp hpiece
    obtain ⟨rfl, rfl⟩ := Prod.mk.inj heq
    have hfound : escapedPiece? flags escaped = some found := hfound
    left
    intro after
    rw [readEscaped_append hescaped (')' :: after) rfl, Option.bind_some, hfound]
    rfl
  case h_10 =>
    obtain ⟨set, hset, heq⟩ := Option.map_eq_some_iff.mp h
    cases heq
    left
    intro after
    rw [hset]
    rfl
  all_goals
    cases h
    exact Or.inl fun after ↦ rfl

/-! ### Whole readings -/

namespace Reading

variable {reading last : Reading} {text rest : List Char}

theorem run_of_skip_nil (hskip : reading.flags.skip text = []) :
    reading.run text = some reading := by
  rw [run]
  split
  · rfl
  · next hcons =>
    rw [hskip] at hcons
    cases hcons

/-- A reading goes on with the first piece that is not skipped. -/
theorem run_of_skip {char : Char} (hskip : reading.flags.skip text = char :: rest) :
    reading.run text =
      (readPiece? reading.flags char rest).bind fun piece ↦
        (piece.1.advance? reading).bind fun next ↦ next.run piece.2 := by
  have hbind : (readPiece? reading.flags char rest).bind (fun piece ↦
        (piece.1.advance? reading).bind fun next ↦ next.run piece.2) =
      (readStep reading char rest).bind fun next ↦ next.1.run next.2 := by
    rw [readStep_eq]
    rcases readPiece? reading.flags char rest with _ | ⟨piece, after⟩
    · rfl
    · simp only [Option.bind_some]
      rcases piece.advance? reading with _ | next <;> rfl
  rw [hbind, run]
  split
  · next hnil =>
    rw [hskip] at hnil
    cases hnil
  · next hcons =>
    rw [hskip] at hcons
    obtain ⟨rfl, rfl⟩ := List.cons.inj hcons
    split
    · next hstep =>
      rw [hstep]
      rfl
    · next next' rest' hstep =>
      change next'.run rest' = _
      rw [hstep]
      rfl

/-- What every piece keeps is kept by a whole reading. -/
theorem run_induction {motive : Reading → Prop}
    (hpiece : ∀ (piece : Piece) (reading next : Reading), piece.advance? reading = some next →
      motive reading → motive next)
    (h : reading.run text = some last) (hreading : motive reading) : motive last := by
  fun_induction Reading.run reading text with
  | case1 reading text hskip =>
    obtain rfl := Option.some.inj h
    exact hreading
  | case2 => cases h
  | case3 reading text char after hskip next rest hstep _ ih =>
    rw [readStep_eq] at hstep
    obtain ⟨piece, -, hnext⟩ := Option.bind_eq_some_iff.mp hstep
    obtain ⟨_, hadvance, heq⟩ := Option.map_eq_some_iff.mp hnext
    obtain ⟨rfl, -⟩ := Prod.mk.inj heq
    exact ih h (hpiece _ _ _ hadvance hreading)

/-- The names of groups that a piece adds are new. -/
theorem nodup_of_advance? {piece : Piece} {next : Reading} (h : piece.advance? reading = some next)
    (hnames : reading.names.Nodup) : next.names.Nodup := by
  cases piece with
  | opening introduced =>
    cases introduced with
    | group flags =>
      obtain rfl := Option.some.inj h
      exact hnames
    | named name =>
      simp only [Piece.advance?, opened?] at h
      split_ifs at h with hname
      obtain rfl := Option.some.inj h
      refine List.nodup_cons.mpr ⟨?_, hnames⟩
      simpa using hname
    | directive flags =>
      obtain rfl := Option.some.inj h
      exact hnames
  | closing =>
    simp only [Piece.advance?, leave?] at h
    split at h
    · cases h
    · obtain rfl := Option.some.inj h
      exact hnames
  | bar | one set | look condition =>
    obtain rfl := Option.some.inj h
    exact hnames
  | repetition sign =>
    simp only [Piece.advance?, modifyLast?] at h
    split at h
    · obtain ⟨_, _, rfl⟩ := Option.map_eq_some_iff.mp h
      exact hnames
    · cases h

/-- A reading uses every group name once. -/
theorem nodup_of_run (h : reading.run text = some last) (hnames : reading.names.Nodup) :
    last.names.Nodup := by
  refine run_induction (motive := fun reading ↦ reading.names.Nodup) ?_ h hnames
  intro piece reading next hadvance
  exact nodup_of_advance? hadvance

end Reading

end RoutePatterns.Regex
