import RoutePatterns.Proofs.Pattern.Meaning

/-!
# The token lists of patterns, and a spelling for each

A token list is well-formed if each token fits after those before it and the two checks of the
tokenizer pass (`WellFormed`). What a pattern means is well-formed (`fitAfter_of_means`).

Conversely a well-formed list has a canonical spelling, with all static text escaped and every group
written out (`canonicalPattern`). It derives items (`derives_spelling`) that mean the list
(`means_items`). So the token lists of patterns are the well-formed ones (`exists_tokenize_iff`).
-/

set_option autoImplicit false
set_option relaxedAutoImplicit false

namespace RoutePatterns

open Text

/-! ### Well-formed token lists -/

/-- The name is written in name characters, or it is the number of unnamed parameters before it. -/
def ParamName.FitsAfter (unnamed : ℕ) : ParamName → Prop
  | .named name => name.toList ≠ [] ∧ ∀ char ∈ name.toList, Item.isNameChar char
  | .index position => position = unnamed

/-- The parameter can follow `unnamed` unnamed ones. -/
structure Param.FitsAfter (delimiter : Char) (unnamed : ℕ) (parameter : Param) : Prop where
  lead : ∀ char ∈ parameter.lead, char = delimiter ∨ char = Token.extensionMark
  name : parameter.name.FitsAfter unnamed
  group_ne : parameter.group.toList ≠ []
  group_balanced : Balanced parameter.group.toList

namespace Token

/-- The number of unnamed parameters among tokens. -/
def unnamedCount (tokens : List Token) : ℕ :=
  tokens.countP fun token ↦ token.param?.any (·.name.isIndex)

/-- The last token is static text. -/
def EndsInText (tokens : List Token) : Prop :=
  ∃ text, tokens.getLast? = some (.literal text)

/-- The token can follow the tokens before it: static text has the delimiter at its beginning at
most, and there if it follows static text. -/
def FitsAfter (delimiter : Char) (before : List Token) : Token → Prop
  | .literal text => text.toList ≠ [] ∧ delimiter ∉ text.toList.tail ∧
      (EndsInText before → text.toList.head? = some delimiter)
  | .param parameter => parameter.FitsAfter delimiter (unnamedCount before)

/-- Each of the tokens can follow those before it. -/
def FitAfter (delimiter : Char) : List Token → List Token → Prop
  | _, [] => True
  | before, token :: tokens =>
    token.FitsAfter delimiter before ∧ FitAfter delimiter (before ++ [token]) tokens

end Token

/-- The token list is one that the tokenizer can give. -/
structure WellFormed (delimiter : Char) (tokens : List Token) : Prop where
  fit : Token.FitAfter delimiter [] tokens
  names : (Token.paramNames tokens).Nodup
  alone : UnnamedStandAlone delimiter tokens

namespace Token

variable {delimiter : Char} {before : List Token}

theorem fitAfter_append {front back : List Token} :
    FitAfter delimiter before (front ++ back) ↔
      FitAfter delimiter before front ∧ FitAfter delimiter (before ++ front) back := by
  induction front generalizing before with
  | nil => simp [FitAfter]
  | cons token front ih => simp [FitAfter, ih, and_assoc]

theorem endsInText_append_literal (text : String) : EndsInText (before ++ [.literal text]) :=
  ⟨text, List.getLast?_concat⟩

theorem not_endsInText_append_param (parameter : Param) :
    ¬EndsInText (before ++ [.param parameter]) := by
  rintro ⟨text, htext⟩
  rw [List.getLast?_concat] at htext
  cases htext

theorem not_endsInText_nil : ¬EndsInText [] := by
  rintro ⟨text, ⟨⟩⟩

@[simp]
theorem unnamedCount_append (front back : List Token) :
    unnamedCount (front ++ back) = unnamedCount front + unnamedCount back :=
  List.countP_append

@[simp]
theorem unnamedCount_statics (pieces : List (List Char)) : unnamedCount (statics pieces) = 0 := by
  rw [unnamedCount, List.countP_eq_zero]
  intro token htoken
  obtain ⟨piece, -, rfl⟩ := List.mem_map.mp htoken
  exact Bool.false_ne_true

theorem unnamedCount_param (parameter : Param) :
    unnamedCount [.param parameter] = if parameter.name.isIndex then 1 else 0 :=
  List.countP_singleton

/-- Static tokens fit if none is empty, each has the delimiter at its beginning at most, and each
that follows static text has it there. -/
theorem fitAfter_statics {pieces : List (List Char)} :
    FitAfter delimiter before (statics pieces) ↔
      (∀ piece ∈ pieces, piece ≠ [] ∧ delimiter ∉ piece.tail) ∧
        (EndsInText before → ∀ piece ∈ pieces.head?, piece.head? = some delimiter) ∧
        ∀ piece ∈ pieces.tail, piece.head? = some delimiter := by
  -- Behind the first piece static text is before every piece, whatever stands before them all.
  induction pieces generalizing before with
  | nil => simp [statics, FitAfter]
  | cons piece pieces ih =>
    have hrest := @ih (before ++ [.literal (String.ofList piece)])
    simp only [endsInText_append_literal, forall_const] at hrest
    have htail : (∀ other ∈ pieces, other.head? = some delimiter) ↔
        (∀ other ∈ pieces.head?, other.head? = some delimiter) ∧
          ∀ other ∈ pieces.tail, other.head? = some delimiter := by
      cases pieces <;> simp
    change FitsAfter delimiter before (.literal (String.ofList piece)) ∧
      FitAfter delimiter (before ++ [.literal (String.ofList piece)]) (statics pieces) ↔ _
    rw [hrest, ← htail]
    simp only [FitsAfter, String.toList_ofList, List.forall_mem_cons, List.head?_cons,
      Option.mem_some_iff, forall_eq', List.tail_cons]
    tauto

/-- Where no static text is before them, static tokens fit exactly if they are the pieces of a text
that is cut before each delimiter. -/
theorem fitAfter_statics_iff_isCut {pieces : List (List Char)} (hbefore : ¬EndsInText before) :
    FitAfter delimiter before (statics pieces) ↔
      IsCut (· == delimiter) pieces.flatten pieces := by
  have hinside (piece : List Char) : (∀ char ∈ piece.tail, (char == delimiter) = false) ↔
      delimiter ∉ piece.tail := by
    simp only [beq_eq_false_iff_ne]
    exact ⟨fun h hmem ↦ h delimiter hmem rfl, fun h char hchar heq ↦ h (heq ▸ hchar)⟩
  have hopens (piece : List Char) : piece.head?.any (· == delimiter) = true ↔
      piece.head? = some delimiter := by
    cases piece <;> simp
  rw [fitAfter_statics]
  constructor
  · rintro ⟨hpieces, -, htail⟩
    exact
      { flatten := rfl
        ne_nil := fun piece hpiece ↦ (hpieces piece hpiece).1
        inside := fun piece hpiece ↦ (hinside piece).mpr (hpieces piece hpiece).2
        opens_head := fun piece hpiece ↦ (hopens piece).mpr (htail piece hpiece) }
  · intro h
    refine ⟨fun piece hpiece ↦ ?_, fun hends ↦ absurd hends hbefore, fun piece hpiece ↦ ?_⟩
    · exact ⟨h.ne_nil piece hpiece, (hinside piece).mp (h.inside piece hpiece)⟩
    · exact (hopens piece).mp (h.opens_head piece hpiece)

end Token

/-! ### What patterns mean is well-formed -/

theorem balanced_escapeChar_append {text : List Char} (char : Char) (h : Balanced text) :
    Balanced (Regex.escapeChar char ++ text) := by
  rw [Regex.escapeChar]
  by_cases hmeta : Regex.isMeta char = true
  · rw [if_pos hmeta]
    exact .escaped h
  · rw [if_neg hmeta]
    refine .char (fun hchar ↦ hmeta ?_) h
    simp only [List.mem_cons, List.not_mem_nil, or_false] at hchar
    rcases hchar with rfl | rfl | rfl <;> rfl

/-- A default group is not empty, and its parentheses are escaped. -/
theorem balanced_defaultGroup (lead : Option Char) (delimiter : Char) :
    (Param.defaultGroup lead delimiter).toList ≠ [] ∧
      Balanced (Param.defaultGroup lead delimiter).toList := by
  have hend : Balanced (Regex.escapeChar delimiter ++ [']', '+', '?']) :=
    balanced_escapeChar_append delimiter
      (.char (by decide) (.char (by decide) (.char (by decide) .nil)))
  unfold Param.defaultGroup
  simp only [String.toList_ofList, List.append_assoc]
  refine ⟨List.cons_ne_nil _ _, .char (by decide) (.char (by decide) ?_)⟩
  cases lead with
  | none => exact hend
  | some char =>
    by_cases hchar : char = delimiter
    · simpa only [if_pos hchar, List.nil_append] using hend
    · simpa only [if_neg hchar] using balanced_escapeChar_append char hend

namespace Item

/-- The name and the group of a parameter are such as can be written. -/
def IsSound : Item → Prop
  | .literal _ _ => True
  | .param name group _ =>
    (∀ text ∈ name, text.toList ≠ [] ∧ ∀ char ∈ text.toList, isNameChar char) ∧
      ∀ text ∈ group, text.toList ≠ [] ∧ Balanced text.toList

theorem GroupIsWritten.balanced {group : Option String} {groupText rest : List Char}
    (h : GroupIsWritten group groupText rest) :
    ∀ text ∈ group, text.toList ≠ [] ∧ Balanced text.toList := by
  cases h with
  | absent =>
    rintro _ ⟨⟩
  | @present body _ hbody hbalanced =>
    rintro _ ⟨⟩
    rw [String.toList_ofList]
    exact ⟨hbody, hbalanced⟩

theorem IsWritten.isSound {item : Item} {spelled rest : List Char}
    (h : item.IsWritten spelled rest) : item.IsSound := by
  cases h with
  | raw => trivial
  | escaped => trivial
  | named hne hname _ hgroup =>
    refine ⟨?_, hgroup.balanced⟩
    rintro _ ⟨⟩
    rw [String.toList_ofList]
    exact ⟨hne, hname⟩
  | unnamed hgroup =>
    refine ⟨?_, hgroup.balanced⟩
    rintro _ ⟨⟩

end Item

theorem Derives.isSound {text : List Char} {items : List Item} (h : Derives text items) :
    ∀ item ∈ items, item.IsSound := by
  induction h with
  | nil => exact List.forall_mem_nil _
  | cons hitem _ ih => exact List.forall_mem_cons.mpr ⟨hitem.isSound, ih⟩

section Fits

variable {delimiter : Char} {unnamed : ℕ} {before tokens : List Token} {items : List Item}

theorem Param.fitsAfter_ofWritten {run front : List (Char × Bool)} {lead : Option Char}
    {name group : Option String} {modifier : Option Quantifier}
    (hlead : GivesLead delimiter run lead front)
    (hitem : (Item.param name group modifier).IsSound) :
    (ofWritten delimiter unnamed lead name group modifier).FitsAfter delimiter unnamed := by
  have hgroup : (group.getD (defaultGroup lead delimiter)).toList ≠ [] ∧
      Balanced (group.getD (defaultGroup lead delimiter)).toList := by
    cases group with
    | none => exact balanced_defaultGroup lead delimiter
    | some text => exact hitem.2 text rfl
  refine ⟨?_, ?_, hgroup.1, hgroup.2⟩
  · cases hlead with
    | given hchar =>
      rintro _ ⟨⟩
      exact hchar
    | kept =>
      rintro _ ⟨⟩
  · cases name with
    | none => exact rfl
    | some text => exact hitem.1 text rfl

theorem unnamedCount_ofWritten (lead : Option Char) (name group : Option String)
    (modifier : Option Quantifier) :
    unnamed + Token.unnamedCount [.param (.ofWritten delimiter unnamed lead name group modifier)] =
      unnamedAfter unnamed name := by
  rw [Token.unnamedCount_param]
  cases name <;> rfl

/-- Assumes: the items are sound, as many unnamed parameters are before them as `unnamed` says, and
no static text is. The tokens that the items mean fit. -/
theorem fitAfter_of_means (h : Means delimiter unnamed items tokens)
    (hitems : ∀ item ∈ items, item.IsSound) (hunnamed : Token.unnamedCount before = unnamed)
    (hbefore : ¬Token.EndsInText before) : Token.FitAfter delimiter before tokens := by
  have hfit {text : List Char} {pieces : List (List Char)} {before : List Token}
      (hbefore : ¬Token.EndsInText before) (hpieces : IsCut (· == delimiter) text pieces) :
      Token.FitAfter delimiter before (Token.statics pieces) :=
    (Token.fitAfter_statics_iff_isCut hbefore).mpr (hpieces.flatten ▸ hpieces)
  induction h generalizing before with
  | run hpieces => exact hfit hbefore hpieces
  | @param unnamed run front lead pieces name group modifier items tokens hlead hpieces _ ih =>
    obtain ⟨hparam, hrest⟩ := List.forall_mem_cons.mp (List.forall_mem_append.mp hitems).2
    have hcount : Token.unnamedCount (before ++ Token.statics pieces) = unnamed := by
      simpa using hunnamed
    refine Token.fitAfter_append.mpr ⟨hfit hbefore hpieces, ?_, ih hrest ?_ ?_⟩
    · change Param.FitsAfter delimiter (Token.unnamedCount (before ++ Token.statics pieces)) _
      rw [hcount]
      exact Param.fitsAfter_ofWritten hlead hparam
    · rw [Token.unnamedCount_append, hcount, unnamedCount_ofWritten]
    · exact Token.not_endsInText_append_param _

end Fits

theorem wellFormed_of_tokenize {delimiter : Char} {pattern : String} {tokens : List Token}
    (h : tokenize delimiter pattern = .ok tokens) : WellFormed delimiter tokens := by
  obtain ⟨items, hscan, htokens, hnames, hcrowded⟩ := tokenize_eq_ok_iff.mp h
  have hsound := (Item.scan_eq_ok_iff.mp hscan).isSound
  exact ⟨fitAfter_of_means (means_iff.mpr htokens) hsound rfl Token.not_endsInText_nil, hnames,
    firstCrowded?_eq_none_iff.mp hcrowded⟩

/-! ### The canonical spelling -/

/-- The modifier that a quantifier is written with. -/
def Quantifier.written? : Quantifier → Option Quantifier
  | .one => none
  | quantifier => some quantifier

/-- The modifier character of a quantifier, if it has one. -/
def Quantifier.spelling : Quantifier → List Char
  | .one => []
  | .zeroOrOne => ['?']
  | .zeroOrMore => ['*']
  | .oneOrMore => ['+']

/-- The name that is written for a parameter, if it is not unnamed. -/
def ParamName.written? : ParamName → Option String
  | .named name => some name
  | .index _ => none

/-- The spelling of a name: nothing for an unnamed parameter. -/
def ParamName.spelling : ParamName → List Char
  | .named name => ':' :: name.toList
  | .index _ => []

namespace Token

/-- The spelling of a token: static text is escaped, and the group of a parameter is written out
between its name and its modifier. -/
def spelling : Token → List Char
  | .literal text => text.toList.flatMap fun char ↦ ['\\', char]
  | .param parameter => parameter.lead.toList ++ (parameter.name.spelling ++
      ('(' :: parameter.group.toList ++ [')'] ++ parameter.quantifier.spelling))

/-- The items that the spelling of a token derives. -/
def items : Token → List Item
  | .literal text => Item.literals (text.toList.map (·, true))
  | .param parameter => Item.literals (parameter.lead.toList.map (·, false)) ++
      [.param parameter.name.written? (some parameter.group) parameter.quantifier.written?]

end Token

/-- The canonical spelling of tokens. -/
def canonicalPattern (tokens : List Token) : String :=
  String.ofList (tokens.flatMap Token.spelling)

theorem Derives.escaped_append {rest : List Char} {items : List Item} (text : List Char)
    (hrest : Derives rest items) :
    Derives (text.flatMap (fun char ↦ ['\\', char]) ++ rest)
      (Item.literals (text.map (·, true)) ++ items) := by
  induction text with
  | nil => exact hrest
  | cons char text ih =>
    have hitem (after : List Char) : (Item.literal char true).IsWritten ['\\', char] after :=
      .escaped
    have hcons := Derives.cons (hitem _) ih
    exact hcons

theorem Derives.lead_append {lead : Option Char} {rest : List Char} {items : List Item}
    (hlead : ∀ char ∈ lead, char ∉ Item.reserved) (hrest : Derives rest items) :
    Derives (lead.toList ++ rest) (Item.literals (lead.toList.map (·, false)) ++ items) := by
  cases lead with
  | none => exact hrest
  | some char => exact .cons (.raw (hlead char rfl)) hrest

theorem Quantifier.isWritten_spelling (quantifier : Quantifier) :
    Item.ModifierIsWritten quantifier.written? quantifier.spelling := by
  cases quantifier with
  | one => exact .absent
  | zeroOrOne => exact .present rfl
  | zeroOrMore => exact .present rfl
  | oneOrMore => exact .present rfl

theorem Param.isWritten_spelling {delimiter : Char} {unnamed : ℕ} {parameter : Param}
    (h : parameter.FitsAfter delimiter unnamed) (rest : List Char) :
    (Item.param parameter.name.written? (some parameter.group)
      parameter.quantifier.written?).IsWritten (parameter.name.spelling ++
        ('(' :: parameter.group.toList ++ [')'] ++ parameter.quantifier.spelling)) rest := by
  have hgroup : Item.GroupIsWritten (some parameter.group) ('(' :: parameter.group.toList ++ [')'])
      (parameter.quantifier.spelling ++ rest) := by
    have hpresent := @Item.GroupIsWritten.present _ (parameter.quantifier.spelling ++ rest)
      h.group_ne h.group_balanced
    rwa [String.ofList_toList] at hpresent
  have hname := h.name
  cases hcase : parameter.name with
  | named name =>
    rw [hcase] at hname
    have hnamed := Item.IsWritten.named hname.1 hname.2 (by rintro _ ⟨⟩; decide) hgroup
      parameter.quantifier.isWritten_spelling
    rwa [String.ofList_toList] at hnamed
  | index position =>
    rw [ParamName.spelling, List.nil_append]
    exact .unnamed hgroup parameter.quantifier.isWritten_spelling

section Canonical

variable {delimiter : Char} {before tokens : List Token}

/-- Assumes: the delimiter has no meaning in patterns, and the tokens fit. Their spelling derives
their items. -/
theorem derives_spelling (hdelimiter : delimiter ∉ Item.reserved)
    (h : Token.FitAfter delimiter before tokens) :
    Derives (tokens.flatMap Token.spelling) (tokens.flatMap Token.items) := by
  induction tokens generalizing before with
  | nil => exact .nil
  | cons token tokens ih =>
    obtain ⟨htoken, htokens⟩ := h
    have hrest := ih htokens
    cases token with
    | literal text => exact hrest.escaped_append text.toList
    | param parameter =>
      have hlead : ∀ char ∈ parameter.lead, char ∉ Item.reserved := by
        intro char hchar
        rcases htoken.lead char hchar with rfl | rfl
        · exact hdelimiter
        · decide
      have hparam := Derives.cons (Param.isWritten_spelling htoken _) hrest
      rw [List.flatMap_cons, List.flatMap_cons, Token.spelling, Token.items,
        List.append_assoc parameter.lead.toList, List.append_assoc (Item.literals _)]
      exact hparam.lead_append hlead

theorem givesLead_escaped {lead : Option Char}
    (hlead : ∀ char ∈ lead, char = delimiter ∨ char = Token.extensionMark) (text : List Char) :
    GivesLead delimiter (text.map (·, true) ++ lead.toList.map (·, false)) lead
      (text.map (·, true)) := by
  cases lead with
  | none =>
    refine (List.append_nil _).symm ▸ .kept fun char hlast ↦ ?_
    obtain ⟨last, -, hpair⟩ := List.mem_map.mp (List.mem_of_getLast? hlast)
    cases hpair
  | some char => exact .given (hlead char rfl)

theorem Param.ofWritten_written {unnamed : ℕ} {parameter : Param}
    (h : parameter.name.FitsAfter unnamed) :
    ofWritten delimiter unnamed parameter.lead parameter.name.written? (some parameter.group)
      parameter.quantifier.written? = parameter := by
  obtain ⟨name, group, lead, quantifier⟩ := parameter
  have hname : ParamName.ofWritten unnamed name.written? = name := by
    cases name with
    | named name => rfl
    | index position => exact congrArg ParamName.index h.symm
  have hquantifier : quantifier.written?.getD .one = quantifier := by cases quantifier <;> rfl
  simp only [ofWritten, hname, hquantifier, Option.getD_some]

/-- The items of tokens mean the tokens. Static tokens wait in `pieces` for what follows them.
Assumes: the tokens fit, and no static text is before them. -/
theorem means_items {pieces : List (List Char)} (hbefore : ¬Token.EndsInText before)
    (h : Token.FitAfter delimiter before (Token.statics pieces ++ tokens)) :
    Means delimiter (Token.unnamedCount before)
      (Item.literals (pieces.flatten.map (·, true)) ++ tokens.flatMap Token.items)
      (Token.statics pieces ++ tokens) := by
  have hchars (text : List Char) : (text.map (·, true)).map Prod.fst = text := by
    rw [List.map_map]
    exact List.map_id text
  -- Static text joins the pieces that wait; a parameter takes them and leaves none.
  induction tokens generalizing before pieces with
  | nil =>
    rw [List.flatMap_nil, List.append_nil, List.append_nil]
    rw [List.append_nil, Token.fitAfter_statics_iff_isCut hbefore] at h
    exact .run ((hchars _).symm ▸ h)
  | cons token tokens ih =>
    cases token with
    | literal text =>
      have hstatics : Token.statics pieces ++ .literal text :: tokens =
          Token.statics (pieces ++ [text.toList]) ++ tokens := by
        simp [Token.statics]
      rw [hstatics] at h ⊢
      have hmeans := ih hbefore h
      simpa [Item.literals, Token.items] using hmeans
    | param parameter =>
      obtain ⟨hpieces, hparam, hrest⟩ := Token.fitAfter_append.mp h
      rw [Token.fitAfter_statics_iff_isCut hbefore, ← hchars pieces.flatten] at hpieces
      have hfits : parameter.FitsAfter delimiter (Token.unnamedCount before) := by
        simpa [Token.FitsAfter] using hparam
      have hwritten := @Param.ofWritten_written delimiter _ _ hfits.name
      have hmeans : Means delimiter _ (tokens.flatMap Token.items) tokens :=
        @ih _ [] (Token.not_endsInText_append_param parameter) hrest
      rw [Token.unnamedCount_append, Token.unnamedCount_append, Token.unnamedCount_statics,
        Nat.add_zero, ← hwritten, unnamedCount_ofWritten] at hmeans
      have hparam : Means delimiter (Token.unnamedCount before)
          (Item.literals (pieces.flatten.map (·, true) ++ parameter.lead.toList.map (·, false)) ++
            .param parameter.name.written? (some parameter.group) parameter.quantifier.written? ::
              tokens.flatMap Token.items) _ :=
        .param (givesLead_escaped hfits.lead pieces.flatten) hpieces hmeans
      rw [hwritten] at hparam
      simpa [Item.literals, Token.items] using hparam

/-- Well-formed tokens are those of their canonical spelling. -/
theorem tokenize_canonicalPattern (hdelimiter : delimiter ∉ Item.reserved)
    (h : WellFormed delimiter tokens) :
    tokenize delimiter (canonicalPattern tokens) = .ok tokens := by
  have hderives : Derives (canonicalPattern tokens).toList (tokens.flatMap Token.items) := by
    rw [canonicalPattern, String.toList_ofList]
    exact derives_spelling hdelimiter h.fit
  have hmeans := @means_items delimiter [] tokens [] Token.not_endsInText_nil h.fit
  exact ((tokenize_cases_of_derives hderives hmeans).1 _).mpr ⟨rfl, h.names, h.alone⟩

/-- Assumes: the delimiter has no meaning in patterns. The token lists that patterns have are the
well-formed ones, and each of them is the token list of its canonical spelling. -/
theorem exists_tokenize_iff (hdelimiter : delimiter ∉ Item.reserved) (tokens : List Token) :
    ((∃ pattern, tokenize delimiter pattern = .ok tokens) ↔ WellFormed delimiter tokens) ∧
      (WellFormed delimiter tokens →
        tokenize delimiter (canonicalPattern tokens) = .ok tokens) := by
  have hcanonical (h : WellFormed delimiter tokens) := tokenize_canonicalPattern hdelimiter h
  refine ⟨⟨?_, fun h ↦ ⟨_, hcanonical h⟩⟩, hcanonical⟩
  rintro ⟨pattern, h⟩
  exact wellFormed_of_tokenize h

/-- A group in parentheses, a lead and a modifier are spelled as they stand. Static text with a
delimiter inside is the text of no token. -/
theorem exists_tokenize_iff_group :
    '/' ∉ Item.reserved ∧
      tokenize '/' "\\/\\a/((b))\\/\\c.:d(e)+" = .ok
        [.literal "/a", .param ⟨.index 0, "(b)", some '/', .one⟩, .literal "/c",
          .param ⟨.named "d", "e", some '.', .oneOrMore⟩] ∧
      ¬∃ pattern, tokenize '/' pattern = .ok [.literal "a/b"] := by
  have hdelimiter : '/' ∉ Item.reserved := by decide
  have hbalanced : Balanced "e".toList := .char (by decide) .nil
  have hgroup : Balanced "(b)".toList := .group (.char (by decide) .nil) .nil
  have hwell : WellFormed '/' [.literal "/a", .param ⟨.index 0, "(b)", some '/', .one⟩,
      .literal "/c", .param ⟨.named "d", "e", some '.', .oneOrMore⟩] := by
    refine
      { fit := ⟨?_, ?_, ?_, ?_, trivial⟩
        names := by decide
        alone := by decide +kernel }
    · exact ⟨by decide, by decide, fun _ ↦ rfl⟩
    · exact ⟨by rintro _ ⟨⟩; exact .inl rfl, rfl, by decide, hgroup⟩
    · exact ⟨by decide, by decide, fun _ ↦ rfl⟩
    · have hname : ∀ char ∈ "d".toList, Item.isNameChar char := List.all_eq_true.mp (by decide)
      exact ⟨by rintro _ ⟨⟩; exact .inr rfl, ⟨by decide, hname⟩, by decide, hbalanced⟩
  refine ⟨hdelimiter, ?_, fun hpattern ↦ ?_⟩
  · have hcanonical := (exists_tokenize_iff hdelimiter _).2 hwell
    exact (congrArg (tokenize '/') (by decide +kernel)).trans hcanonical
  · obtain ⟨-, htail, -⟩ := ((exists_tokenize_iff hdelimiter _).1.mp hpattern).fit.1
    exact htail (by decide)

end Canonical

end RoutePatterns
