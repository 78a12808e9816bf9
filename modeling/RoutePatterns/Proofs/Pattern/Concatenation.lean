import RoutePatterns.Proofs.Pattern.Canonical
import RoutePatterns.Proofs.Pattern.Grammar
import RoutePatterns.Proofs.Pattern.Segments

/-!
# Patterns one after the other

A pattern that begins with the delimiter can be put behind another one. It is read as on its own
(`Derives.append`), with one exception: the name of a parameter takes in all name characters after
it, and one of them, the underscore, can be a delimiter. Its tokens are those it has on its own
(`ofItemsFrom_append`), with the unnamed parameters counted on (`Token.shift`), and its segments do
not touch the segments before them (`segments_append`). The main statement is
`tokenize_append`.
-/

set_option autoImplicit false
set_option relaxedAutoImplicit false

namespace RoutePatterns

open Text

/-! ### Items -/

/-- The pattern ends in the name of a parameter. -/
def EndsInName (pattern : String) : Prop :=
  ∃ items, Item.scan pattern = .ok items ∧ ∃ item ∈ items.getLast?, item.EndsInName

/-- Texts spell their items one after the other, unless the second goes on with a group or a name of
the first. -/
theorem Derives.append {text more : List Char} {items others : List Item} (h : Derives text items)
    (h' : Derives more others) (hgroup : more.head? ≠ some '(')
    (hname : ∀ item ∈ items.getLast?, item.EndsInName →
      ∀ char ∈ more.head?, Item.isNameChar char = false) :
    Derives (text ++ more) (items ++ others) := by
  induction h with
  | nil => exact h'
  | @cons item spelled rest items hitem hrest ih =>
    rw [List.append_assoc]
    refine .cons (hitem.append ?_) (ih ?_)
    · intro hnil hends
      subst hnil
      obtain rfl := hrest.unique .nil
      exact ⟨hgroup, hname item rfl hends⟩
    · intro last hlast
      refine hname last ?_
      rw [List.getLast?_cons, Option.mem_def.mp hlast]
      rfl

/-- A name takes in all name characters that follow. -/
theorem Derives.exists_eq_longer {name more : List Char} {items : List Item} {char : Char}
    (h : Derives (':' :: name ++ char :: more) items) (hchar : Item.isNameChar char = true) :
    ∃ longer group modifier rest, items = .param (some longer) group modifier :: rest ∧
      longer ≠ String.ofList name := by
  generalize htext : ':' :: name ++ char :: more = text at h
  cases h with
  | nil => cases htext
  | @cons _ spelled rest items hitem hrest =>
    cases hitem with
    | raw hcolon =>
      cases htext
      exact absurd (by decide) hcolon
    | escaped => cases htext
    | unnamed hgroup =>
      cases hgroup
      cases htext
    | @named longer groupText modifierText _ group modifier _ hlonger hend =>
      refine ⟨_, _, _, _, rfl, fun heq ↦ ?_⟩
      obtain rfl := String.ofList_injective heq
      have hafter : char :: more = groupText ++ (modifierText ++ rest) := by
        simpa [List.append_assoc] using htext
      rw [← hafter] at hend
      rw [hend char rfl] at hchar
      cases hchar

/-- A text that ends in a name spells a longer name where name characters follow. -/
theorem Derives.exists_longer_of_append {text more : List Char} {items others : List Item}
    {char : Char} (h : Derives text items) (hends : ∃ item ∈ items.getLast?, item.EndsInName)
    (hchar : Item.isNameChar char = true) (h' : Derives (text ++ char :: more) others) :
    ∃ init name longer group modifier rest, items = init ++ [.param (some name) none none] ∧
      others = init ++ .param (some longer) group modifier :: rest ∧ longer ≠ name := by
  induction h generalizing others with
  | nil =>
    obtain ⟨_, ⟨⟩, -⟩ := hends
  | @cons item spelled rest items hitem hrest ih =>
    cases items with
    | nil =>
      obtain rfl : rest = [] := by cases hrest; rfl
      obtain ⟨_, ⟨⟩, hends⟩ := hends
      cases hitem with
      | raw => cases hends
      | escaped => cases hends
      | unnamed => cases hends
      | @named name groupText modifierText _ group modifier _ _ _ hgroup hmodifier =>
        cases hgroup with
        | present => cases hends
        | absent =>
          cases hmodifier with
          | present => cases hends
          | absent =>
            rw [List.append_nil, List.append_nil, List.append_nil] at h'
            obtain ⟨longer, group, modifier, rest, rfl, hne⟩ := h'.exists_eq_longer hchar
            exact ⟨[], _, longer, group, modifier, rest, rfl, rfl, hne⟩
    | cons next items =>
      have hne : rest ≠ [] := by
        rintro rfl
        cases hrest.unique .nil
      have hmodifier : Item.NoModifierAhead (rest ++ char :: more) := by
        obtain ⟨head, tail, rfl⟩ := List.exists_cons_of_ne_nil hne
        exact hrest.noModifierAhead
      rw [List.append_assoc] at h'
      obtain ⟨others, rfl, hothers⟩ := h'.exists_eq_cons
        (hitem.append fun hnil ↦ absurd hnil hne) fun _ ↦ hmodifier
      obtain ⟨init, name, longer, group, modifier, rest', hitems, rfl, hlonger⟩ := ih hends hothers
      exact ⟨item :: init, name, longer, group, modifier, rest', by rw [hitems]; rfl, rfl, hlonger⟩

/-- A text that begins with a raw character spells that character first. -/
theorem Derives.exists_eq_literal {text : List Char} {items : List Item} {char : Char}
    (h : Derives text items) (hhead : text.head? = some char) (hchar : char ∉ Item.reserved) :
    ∃ others, items = .literal char false :: others := by
  cases h with
  | nil => cases hhead
  | cons hitem hrest =>
    cases hitem with
    | raw =>
      obtain rfl := Option.some.inj hhead
      exact ⟨_, rfl⟩
    | escaped =>
      obtain rfl := Option.some.inj hhead
      exact absurd (by decide) hchar
    | named =>
      obtain rfl := Option.some.inj hhead
      exact absurd (by decide) hchar
    | unnamed hgroup =>
      cases hgroup
      obtain rfl := Option.some.inj hhead
      exact absurd (by decide) hchar

/-! ### Tokens -/

/-- The name of a parameter that has `count` more unnamed ones before it. -/
def ParamName.shift (count : ℕ) : ParamName → ParamName
  | .named name => .named name
  | .index position => .index (position + count)

theorem ParamName.isIndex_shift (count : ℕ) (name : ParamName) :
    (name.shift count).isIndex = name.isIndex := by
  cases name <;> rfl

/-- The parameter with `count` more unnamed ones before it. -/
def Param.shift (count : ℕ) (parameter : Param) : Param :=
  { parameter with name := parameter.name.shift count }

/-- The token with `count` more unnamed parameters before it. -/
def Token.shift (count : ℕ) : Token → Token
  | .literal text => .literal text
  | .param parameter => .param (parameter.shift count)

/-- The piece with `count` more unnamed parameters before it. -/
def Piece.shift (count : ℕ) : Piece → Piece
  | .literal text => .literal text
  | .param parameter => .param (parameter.shift count)

section Tokens

variable {delimiter : Char} {unnamed : ℕ} {run later : List (Char × Bool)} {items : List Item}

theorem Token.map_shift_ofRun (count : ℕ) (run : List (Char × Bool)) :
    (ofRun delimiter run).map (shift count) = ofRun delimiter run := by
  rw [ofRun, List.map_map]
  rfl

/-- Unnamed parameters are counted on from those before them. -/
theorem Token.ofItemsFrom_add (count : ℕ) (items : List Item) :
    ofItemsFrom delimiter (unnamed + count) run items =
      (ofItemsFrom delimiter unnamed run items).map (shift count) := by
  induction items generalizing unnamed run with
  | nil => exact (map_shift_ofRun count run).symm
  | cons item items ih =>
    cases item with
    | literal char escaped => exact ih
    | param name group modifier =>
      have hafter : unnamedAfter (unnamed + count) name = unnamedAfter unnamed name + count := by
        unfold unnamedAfter
        split_ifs
        · rfl
        · exact Nat.add_right_comm unnamed count 1
      rw [ofItemsFrom_param, ofItemsFrom_param, hafter, ih, List.map_append, List.map_cons,
        map_shift_ofRun]
      cases name <;> rfl

/-- A delimiter in a run cuts off what was before it. -/
theorem Token.ofRun_append (hlater : ∀ entry ∈ later.getLast?, entry.1 = delimiter) :
    ofRun delimiter (later ++ run) = ofRun delimiter run ++ ofRun delimiter later := by
  have hopens : (later.reverse.map Prod.fst).head?.all (· == delimiter) = true := by
    rw [List.head?_map, List.head?_reverse, Option.all_eq_true]
    intro char hchar
    obtain ⟨entry, hentry, rfl⟩ := Option.map_eq_some_iff.mp hchar
    exact beq_iff_eq.mpr (hlater entry hentry)
  rw [ofRun, List.reverse_append, List.map_append, splitBefore, cutBefore_append hopens,
    List.map_append]
  rfl

theorem Token.takeLead_append (hlater : later ≠ []) :
    takeLead delimiter (later ++ run) =
      ((takeLead delimiter later).1, (takeLead delimiter later).2 ++ run) := by
  obtain ⟨⟨char, escaped⟩, rest, rfl⟩ := List.exists_cons_of_ne_nil hlater
  rw [List.cons_append, takeLead, takeLead]
  split_ifs <;> rfl

theorem Token.getLast?_takeLead {entry : Char × Bool}
    (h : entry ∈ (takeLead delimiter later).2.getLast?) : entry ∈ later.getLast? := by
  cases later with
  | nil => exact h
  | cons last rest =>
    obtain ⟨char, escaped⟩ := last
    rw [takeLead] at h
    split_ifs at h
    · rw [List.getLast?_cons, Option.mem_def.mp h]
      rfl
    · exact h

/-- A pending run is complete where a delimiter follows it. -/
theorem Token.ofItemsFrom_append_run (hne : later ≠ [])
    (hlater : ∀ entry ∈ later.getLast?, entry.1 = delimiter) :
    ofItemsFrom delimiter unnamed (later ++ run) items =
      ofRun delimiter run ++ ofItemsFrom delimiter unnamed later items := by
  induction items generalizing unnamed later with
  | nil => exact ofRun_append hlater
  | cons item items ih =>
    cases item with
    | literal char escaped =>
      refine ih (List.cons_ne_nil _ _) ?_
      rwa [List.getLast?_cons_of_ne_nil hne]
    | param name group modifier =>
      rw [ofItemsFrom_param, ofItemsFrom_param, takeLead_append hne,
        ofRun_append fun entry hentry ↦ hlater entry (getLast?_takeLead hentry), List.append_assoc]

/-- The tokens of items that go on with a raw delimiter are those of the items before it and those
of the items from there on. -/
theorem Token.ofItemsFrom_append (others : List Item) :
    ofItemsFrom delimiter unnamed run (items ++ .literal delimiter false :: others) =
      ofItemsFrom delimiter unnamed run items ++
        ofItemsFrom delimiter (unnamed + unnamedCount (ofItemsFrom delimiter unnamed run items)) []
          (.literal delimiter false :: others) := by
  have hrun (run : List (Char × Bool)) : unnamedCount (ofRun delimiter run) = 0 :=
    unnamedCount_statics _
  induction items generalizing unnamed run with
  | nil =>
    change ofItemsFrom delimiter unnamed ([(delimiter, false)] ++ run) others =
      ofRun delimiter run ++ ofItemsFrom delimiter (unnamed + unnamedCount (ofRun delimiter run))
        [(delimiter, false)] others
    rw [hrun, Nat.add_zero]
    exact ofItemsFrom_append_run (List.cons_ne_nil _ _) (by simp)
  | cons item items ih =>
    cases item with
    | literal char escaped => exact ih
    | param name group modifier =>
      have hcount (lead : Option Char) (tokens : List Token) :
          unnamed + unnamedCount (ofRun delimiter (takeLead delimiter run).2 ++
            .param (.ofWritten delimiter unnamed lead name group modifier) :: tokens) =
          unnamedAfter unnamed name + unnamedCount tokens := by
        rw [← List.singleton_append, unnamedCount_append, unnamedCount_append, hrun,
          unnamedCount_param, Nat.zero_add, ← Nat.add_assoc]
        cases name <;> rfl
      rw [List.cons_append, ofItemsFrom_param, ofItemsFrom_param, ih, hcount, List.append_assoc,
        List.cons_append]

/-- What is before a parameter does not depend on it. -/
theorem Token.exists_ofItemsFrom_append_named (items : List Item) :
    ∃ front lead count, ∀ name group modifier rest,
      ofItemsFrom delimiter unnamed run (items ++ .param (some name) group modifier :: rest) =
        front ++ .param (.ofWritten delimiter count lead (some name) group modifier) ::
          ofItemsFrom delimiter count [] rest := by
  induction items generalizing unnamed run with
  | nil => exact ⟨_, _, unnamed, fun name group modifier rest ↦ ofItemsFrom_param run ..⟩
  | cons item items ih =>
    cases item with
    | literal char escaped => exact ih
    | param name group modifier =>
      obtain ⟨front, lead, count, hfront⟩ := @ih (unnamedAfter unnamed name) []
      refine ⟨ofRun delimiter (takeLead delimiter run).2 ++
        .param (.ofWritten delimiter unnamed (takeLead delimiter run).1 name group modifier) ::
          front, lead, count, fun name' group' modifier' rest ↦ ?_⟩
      rw [List.cons_append, ofItemsFrom_param, hfront, List.append_assoc, List.cons_append]

end Tokens

/-! ### Segments -/

section Segments

variable {delimiter : Char} {tokens others : List Token}

theorem Token.pieces_shift (count : ℕ) (token : Token) :
    (token.shift count).pieces delimiter = (token.pieces delimiter).map (Piece.shift count) := by
  cases token with
  | literal text =>
    change _ = ((splitText delimiter text).map Piece.literal).map (Piece.shift count)
    rw [List.map_map]
    rfl
  | param parameter => rfl

theorem Piece.startsSegment_shift (count : ℕ) (piece : Piece) :
    (piece.shift count).startsSegment delimiter = piece.startsSegment delimiter := by
  cases piece with
  | literal text => rfl
  | param parameter => rfl

/-- The segments do not depend on how the unnamed parameters are counted. -/
theorem segments_map_shift (count : ℕ) (tokens : List Token) :
    segments delimiter (tokens.map (Token.shift count)) =
      (segments delimiter tokens).map (List.map (Piece.shift count)) := by
  have hpieces : (tokens.map (Token.shift count)).flatMap (Token.pieces delimiter) =
      (tokens.flatMap (Token.pieces delimiter)).map (Piece.shift count) := by
    rw [List.flatMap_map, List.map_flatMap]
    exact List.flatMap_congr fun token _ ↦ token.pieces_shift count
  rw [segments, hpieces, cutBefore_map]
  simp only [Piece.startsSegment_shift]
  rfl

/-- Where the unnamed parameters of two token lists stand alone, so do those of both together. -/
theorem UnnamedStandAlone.append_shift (h : UnnamedStandAlone delimiter tokens)
    (h' : UnnamedStandAlone delimiter others) (count : ℕ)
    (hsegments : segments delimiter (tokens ++ others.map (Token.shift count)) =
      segments delimiter tokens ++ segments delimiter (others.map (Token.shift count))) :
    UnnamedStandAlone delimiter (tokens ++ others.map (Token.shift count)) := by
  intro segment hsegment hlength parameter hmem
  rw [hsegments, segments_map_shift] at hsegment
  rcases List.mem_append.mp hsegment with hfront | hback
  · exact h segment hfront hlength parameter hmem
  · obtain ⟨original, horiginal, rfl⟩ := List.mem_map.mp hback
    rw [List.length_map] at hlength
    obtain ⟨piece, hpiece, heq⟩ := List.mem_map.mp hmem
    cases piece with
    | literal text => cases heq
    | param other =>
      obtain rfl := Piece.param.inj heq
      exact (other.name.isIndex_shift count).trans (h' original horiginal hlength other hpiece)

/-- The token begins with the delimiter. -/
def Token.BeginsWith (delimiter : Char) : Token → Prop
  | .literal text => text.toList.head? = some delimiter
  | .param parameter => parameter.lead = some delimiter

theorem Token.startsSegment_of_beginsWith {token : Token} (h : token.BeginsWith delimiter) :
    (token.pieces delimiter).head?.any (Piece.startsSegment delimiter) = true := by
  cases token with
  | literal text =>
    obtain ⟨rest, hrest⟩ := List.head?_eq_some_iff.mp h
    obtain ⟨others, pieces, hcut⟩ := exists_cutBefore_cons (· == delimiter) delimiter rest
    rw [Token.pieces, splitText, hrest, splitBefore, hcut]
    simp [Piece.startsSegment]
  | param parameter => exact beq_iff_eq.mpr h

theorem Token.beginsWith_ofRun {run : List (Char × Bool)} {escaped : Bool}
    (h : run.getLast? = some (delimiter, escaped)) :
    ∃ token tokens, ofRun delimiter run = token :: tokens ∧ token.BeginsWith delimiter := by
  rw [← List.head?_reverse] at h
  obtain ⟨rest, hrest⟩ := List.head?_eq_some_iff.mp h
  obtain ⟨others, pieces, hcut⟩ :=
    exists_cutBefore_cons (· == delimiter) delimiter (rest.map Prod.fst)
  refine ⟨.literal (String.ofList (delimiter :: others)), statics pieces, ?_, ?_⟩
  · rw [ofRun, hrest, List.map_cons, splitBefore, hcut]
    rfl
  · rw [BeginsWith, String.toList_ofList]
    rfl

/-- A raw delimiter at the beginning of a run is the beginning of the first token. -/
theorem Token.beginsWith_ofItemsFrom {unnamed : ℕ} {run : List (Char × Bool)} {items : List Item}
    (h : run.getLast? = some (delimiter, false)) :
    ∃ token tokens, ofItemsFrom delimiter unnamed run items = token :: tokens ∧
      token.BeginsWith delimiter := by
  induction items generalizing run with
  | nil => exact beginsWith_ofRun h
  | cons item items ih =>
    cases item with
    | literal char escaped =>
      refine @ih ((char, escaped) :: run) ?_
      rw [List.getLast?_cons, h]
      rfl
    | param name group modifier =>
      rw [ofItemsFrom_param]
      rcases run with _ | ⟨last, _ | ⟨entry, run⟩⟩
      · cases h
      · -- The delimiter is all there is, and the parameter takes it.
        obtain rfl := Option.some.inj h
        have hlead : takeLead delimiter [(delimiter, false)] = (some delimiter, []) := by
          simp [takeLead]
        rw [hlead]
        exact ⟨_, _, rfl, rfl⟩
      · have hrest : (takeLead delimiter (last :: entry :: run)).2.getLast? =
            some (delimiter, false) := by
          obtain ⟨char, escaped⟩ := last
          rw [takeLead]
          split_ifs
          · rwa [List.getLast?_cons_cons] at h
          · exact h
        obtain ⟨token, tokens, hrun, htoken⟩ := beginsWith_ofRun hrest
        rw [hrun]
        exact ⟨token, _, rfl, htoken⟩

end Segments

/-! ### Patterns -/

section Patterns

variable {delimiter : Char} {front back : String} {tokens others : List Token}

theorem PatternOptions.notMem_reserved_of_isDelimiter (h : isDelimiter delimiter = true) :
    delimiter ∉ Item.reserved := by
  intro hmem
  have hreserved : reservedCharacters.contains delimiter = true :=
    List.contains_iff_mem.mpr ((by decide : Item.reserved ⊆ reservedCharacters) hmem)
  rw [isDelimiter, hreserved, Bool.not_true, Bool.and_false] at h
  cases h

/-- The underscore is the one delimiter that can occur in names. -/
theorem PatternOptions.eq_underscore_of_isNameChar (h : isDelimiter delimiter = true)
    (hname : Item.isNameChar delimiter = true) : delimiter = '_' := by
  have hpunctuation := isAsciiPunctuation_of_isDelimiter h
  simp only [isAsciiPunctuation, Item.isNameChar, Bool.or_eq_true, Bool.and_eq_true,
    decide_eq_true_eq, beq_iff_eq] at hpunctuation hname
  have hcode : delimiter.toNat = '_'.toNat := by
    change delimiter.toNat = 0x5F
    omega
  exact Char.toNat_inj.mp hcode

/-- The tokens of a pattern that begins with a raw delimiter, and those of what is before it. -/
theorem exists_items_of_tokenize (hreserved : delimiter ∉ Item.reserved)
    (hhead : back.toList.head? = some delimiter) (h : tokenize delimiter back = .ok others) :
    ∃ items, Derives back.toList (.literal delimiter false :: items) ∧
      others = Token.ofItems delimiter (.literal delimiter false :: items) ∧
      ∃ token tokens, others = token :: tokens ∧ token.BeginsWith delimiter := by
  obtain ⟨items, hscan, rfl, -⟩ := tokenize_eq_ok_iff.mp h
  have hderives := Item.scan_eq_ok_iff.mp hscan
  obtain ⟨items, rfl⟩ := hderives.exists_eq_literal hhead hreserved
  exact ⟨items, hderives, rfl, @Token.beginsWith_ofItemsFrom _ _ [(delimiter, false)] items rfl⟩

/-- The segments of a pattern that begins with the delimiter come after those before it. -/
theorem segments_append_shift (hreserved : delimiter ∉ Item.reserved)
    (hhead : back.toList.head? = some delimiter) (h : tokenize delimiter back = .ok others)
    (count : ℕ) (tokens : List Token) :
    segments delimiter (tokens ++ others.map (Token.shift count)) =
      segments delimiter tokens ++ segments delimiter (others.map (Token.shift count)) := by
  obtain ⟨-, -, -, token, rest, rfl, htoken⟩ := exists_items_of_tokenize hreserved hhead h
  refine segments_append ?_
  have hopens := Token.startsSegment_of_beginsWith htoken
  rw [List.map_cons, List.flatMap_cons, Token.pieces_shift, List.head?_append]
  cases hpieces : token.pieces delimiter with
  | nil => simp [hpieces] at hopens
  | cons first pieces =>
    rw [hpieces] at hopens
    simpa [Piece.startsSegment_shift] using hopens

theorem derives_append_of_tokenize (hdelimiter : PatternOptions.isDelimiter delimiter = true)
    (hhead : back.toList.head? = some delimiter) (hfront : tokenize delimiter front = .ok tokens)
    (hback : tokenize delimiter back = .ok others) (hname : ¬(delimiter = '_' ∧ EndsInName front)) :
    ∃ items, Derives (front ++ back).toList items ∧
      Means delimiter 0 items (tokens ++ others.map (Token.shift (Token.unnamedCount tokens))) := by
  have hreserved := PatternOptions.notMem_reserved_of_isDelimiter hdelimiter
  obtain ⟨items, hscan, rfl, -⟩ := tokenize_eq_ok_iff.mp hfront
  obtain ⟨items', hderives', rfl, -⟩ := exists_items_of_tokenize hreserved hhead hback
  refine ⟨items ++ .literal delimiter false :: items', ?_, means_iff.mpr ?_⟩
  · rw [String.toList_append]
    refine (Item.scan_eq_ok_iff.mp hscan).append hderives' ?_ fun item hlast hends char hchar ↦ ?_
    · rw [hhead]
      rintro ⟨⟩
      exact hreserved (by decide)
    · rw [hhead] at hchar
      obtain rfl := Option.some.inj hchar
      by_contra hnameChar
      exact hname ⟨PatternOptions.eq_underscore_of_isNameChar hdelimiter (by simpa using hnameChar),
        items, hscan, item, hlast, hends⟩
  · rw [Token.ofItemsFrom_append]
    exact congrArg _ (Token.ofItemsFrom_add _ _).symm

/-- Where its last name goes on, a pattern does not keep its tokens. -/
theorem tokenize_append_ne_of_endsInName {char : Char} (hends : EndsInName front)
    (hhead : back.toList.head? = some char) (hchar : Item.isNameChar char = true)
    (hfront : tokenize delimiter front = .ok tokens) :
    tokenize delimiter (front ++ back) ≠ .ok (tokens ++ others) := by
  intro h
  obtain ⟨items, hscan, hlast⟩ := hends
  obtain ⟨items', hscan', rfl, -⟩ := tokenize_eq_ok_iff.mp hfront
  obtain rfl := Except.ok.inj (hscan.symm.trans hscan')
  obtain ⟨both, hboth, htokens, -⟩ := tokenize_eq_ok_iff.mp h
  obtain ⟨more, hmore⟩ := List.head?_eq_some_iff.mp hhead
  rw [Item.scan_eq_ok_iff] at hscan hboth
  rw [String.toList_append, hmore] at hboth
  obtain ⟨init, name, longer, group, modifier, rest, rfl, rfl, hne⟩ :=
    hscan.exists_longer_of_append hlast hchar hboth
  obtain ⟨before, lead, count, hbefore⟩ :=
    @Token.exists_ofItemsFrom_append_named delimiter 0 [] init
  rw [Token.ofItems, Token.ofItems, hbefore, hbefore, List.append_assoc, List.cons_append,
    List.append_cancel_left_eq, List.cons.injEq] at htokens
  have hname := congrArg Param.name (Token.param.inj htokens.1)
  exact hne (ParamName.named.inj hname).symm

/-- Assumes: the delimiter is usable, the second pattern begins with it, and both patterns have
tokens. The segments of both token lists together are those of the first and those of the second.
If no name is repeated, these are the tokens of the patterns one after the other; otherwise those
are refused for a repeated name. The exception is the underscore: as a delimiter it goes on with the
name that the first pattern ends in, and then the tokens always differ. -/
theorem tokenize_append {options : PatternOptions} (hoptions : options.validate = .ok ())
    (hhead : back.toList.head? = some options.delimiter)
    (hfront : tokenize options.delimiter front = .ok tokens)
    (hback : tokenize options.delimiter back = .ok others) :
    let shifted := others.map (Token.shift (Token.unnamedCount tokens))
    segments options.delimiter (tokens ++ shifted) =
        segments options.delimiter tokens ++ segments options.delimiter shifted ∧
      ((Token.paramNames (tokens ++ shifted)).Nodup →
        (tokenize options.delimiter (front ++ back) = .ok (tokens ++ shifted) ↔
          ¬(options.delimiter = '_' ∧ EndsInName front))) ∧
      (¬(Token.paramNames (tokens ++ shifted)).Nodup →
        ¬(options.delimiter = '_' ∧ EndsInName front) →
          ∃ name, tokenize options.delimiter (front ++ back) =
            .error (.duplicateName (front ++ back) name)) := by
  intro shifted
  have hdelimiter := validate_eq_ok_iff.mp hoptions
  have hsegments : segments options.delimiter (tokens ++ shifted) =
      segments options.delimiter tokens ++ segments options.delimiter shifted :=
    segments_append_shift (PatternOptions.notMem_reserved_of_isDelimiter hdelimiter) hhead hback ..
  refine ⟨hsegments, fun hnames ↦ ⟨?_, fun hname ↦ ?_⟩, fun hnames hname ↦ ?_⟩
  · rintro h ⟨hunderscore, hends⟩
    refine tokenize_append_ne_of_endsInName hends hhead ?_ hfront h
    rw [hunderscore]
    decide
  · obtain ⟨items, hderives, hmeans⟩ :=
      derives_append_of_tokenize hdelimiter hhead hfront hback hname
    refine ((tokenize_cases_of_derives hderives hmeans).1 _).mpr ⟨rfl, hnames, ?_⟩
    exact (wellFormed_of_tokenize hfront).alone.append_shift (wellFormed_of_tokenize hback).alone _
      hsegments
  · obtain ⟨items, hderives, hmeans⟩ :=
      derives_append_of_tokenize hdelimiter hhead hfront hback hname
    exact (tokenize_cases_of_derives hderives hmeans).2.1.mpr hnames

/-- The unnamed parameter behind another one is counted on, and a parameter behind one of its name
is refused. -/
theorem tokenize_append_unnamed :
    tokenize '/' ("/(a)" ++ "/:x/(b)") = .ok
        [.param ⟨.index 0, "a", some '/', .one⟩, .param ⟨.named "x", "[^/]+?", some '/', .one⟩,
          .param ⟨.index 1, "b", some '/', .one⟩] ∧
      ∃ name, tokenize '/' ("/:x" ++ "/:x") = .error (.duplicateName "/:x/:x" name) := by
  have hoptions : (default : PatternOptions).validate = .ok () := by decide
  have hunnamed : tokenize '/' "/(a)" = .ok [.param ⟨.index 0, "a", some '/', .one⟩] := by
    with_unfolding_all rfl
  have hmixed : tokenize '/' "/:x/(b)" = .ok [.param ⟨.named "x", "[^/]+?", some '/', .one⟩,
      .param ⟨.index 0, "b", some '/', .one⟩] := by with_unfolding_all rfl
  have hnamed : tokenize '/' "/:x" = .ok [.param ⟨.named "x", "[^/]+?", some '/', .one⟩] := by
    with_unfolding_all rfl
  have hslash (pattern : String) : ¬((default : PatternOptions).delimiter = '_' ∧
      EndsInName pattern) := fun h ↦ absurd h.1 (by decide)
  constructor
  · obtain ⟨-, hok, -⟩ := tokenize_append hoptions rfl hunnamed hmixed
    exact (hok (by decide +kernel)).mpr (hslash _)
  · obtain ⟨-, -, herror⟩ := tokenize_append hoptions rfl hnamed hnamed
    exact herror (by decide +kernel) (hslash _)

/-- The underscore between the names begins a segment of the second pattern, but it is part of the
first name in the patterns one after the other. -/
theorem tokenize_append_ne_underscore :
    let front : Token := .param ⟨.named "a", "[^_]+?", some '_', .one⟩
    let back : Token := .param ⟨.named "b", "[^_]+?", some '_', .one⟩
    let shifted := [back].map (Token.shift (Token.unnamedCount [front]))
    (⟨false, false, '_'⟩ : PatternOptions).validate = .ok () ∧
      "_:b".toList.head? = some '_' ∧
      tokenize '_' "_:a" = .ok [front] ∧ tokenize '_' "_:b" = .ok [back] ∧
      (Token.paramNames ([front] ++ shifted)).Nodup ∧
      tokenize '_' ("_:a" ++ "_:b") ≠ .ok ([front] ++ shifted) ∧
      tokenize '_' ("_:a" ++ "_:b") = .ok [.param ⟨.named "a_", "[^_]+?", some '_', .one⟩,
        .param ⟨.named "b", "[^_]+?", none, .one⟩] := by
  have htogether : tokenize '_' ("_:a" ++ "_:b") =
      .ok [.param ⟨.named "a_", "[^_]+?", some '_', .one⟩,
        .param ⟨.named "b", "[^_]+?", none, .one⟩] := by with_unfolding_all rfl
  refine ⟨by decide, by decide, by with_unfolding_all rfl, by with_unfolding_all rfl, by decide,
    fun h ↦ ?_, htogether⟩
  rw [htogether, Except.ok.injEq] at h
  exact absurd h (by decide)

end Patterns

end RoutePatterns
