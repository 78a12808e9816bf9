import RoutePatterns.Matcher.Extract
import RoutePatterns.Proofs.Matcher.Readings

/-!
# What the matcher of plain tokens matches

The slots of a matcher have different names, so that each of them finds what it recorded itself
(`RecordsAll.captured?_eq`). From slot to slot, what plain tokens read are texts that fill them
(`exists_fills_of_readsAll`, `exists_readsAll_of_fills`), and a path is matched exactly if it is
such texts and a tail (`Matcher.accepts_iff`). The values of the parameters in a path are those of
one way to divide it (`Matcher.exists_fills_of_params?`), which `Token.Give` relates to what the
parameters take. A path has values exactly if it is matched (`Matcher.isSome_params?`).
-/

set_option autoImplicit false
set_option relaxedAutoImplicit false

namespace RoutePatterns

open Text
open Regex (Covers Match ReadsAll Recorded)

variable {options : PatternOptions} {text : List Char}

/-! ### Captures -/

namespace Regex.Match

theorem captured?_append (later here : List Recorded) (name : String) :
    (Match.mk text (later ++ here)).captured? name =
      ((Match.mk text later).captured? name).or ((Match.mk text here).captured? name) := by
  simp only [captured?, List.find?_append, Option.map_or]

theorem captured?_eq_none {recorded : List Recorded} {name : String}
    (h : ∀ entry ∈ recorded, entry.1 ≠ name) : (Match.mk text recorded).captured? name = none := by
  rw [captured?, List.find?_eq_none.mpr fun entry hentry ↦ by simpa using h entry hentry]
  rfl

end Regex.Match

theorem RecordsText.captured?_eq {name : String} {part : Option (List Char)}
    {recorded : List Recorded} (h : RecordsText text name part recorded) :
    (Match.mk text recorded).captured? name = part := by
  cases h with
  | absent => rfl
  | present hcovers => simp [Match.captured?, hcovers.eq_take]

theorem RecordsText.name_eq {name : String} {part : Option (List Char)}
    {recorded : List Recorded} (h : RecordsText text name part recorded) :
    ∀ entry ∈ recorded, entry.1 = name := by
  cases h with
  | absent => simp
  | present hcovers => simp

/-- What is recorded for slots whose parameters take values: for each slot the text of its values,
joined by the separator. -/
inductive RecordsAll (text : List Char) : List Slot → List Taken → List Recorded → Prop
  | nil : RecordsAll text [] [] []
  | cons {slot : Slot} {slots : List Slot} {taken : Taken} {takens : List Taken}
      {here later : List Recorded}
      (hhere : RecordsText text slot.capture (taken.map (joinWith slot.separator)) here)
      (hlater : RecordsAll text slots takens later) :
      RecordsAll text (slot :: slots) (taken :: takens) (later ++ here)

theorem RecordsAll.name_mem {slots : List Slot} {takens : List Taken} {recorded : List Recorded}
    (h : RecordsAll text slots takens recorded) :
    ∀ entry ∈ recorded, entry.1 ∈ slots.map (·.capture) := by
  induction h with
  | nil => simp
  | cons hhere _ ih =>
    intro entry hentry
    rcases List.mem_append.mp hentry with hlater | hentry
    · exact List.mem_cons_of_mem _ (ih entry hlater)
    · exact hhere.name_eq entry hentry ▸ List.mem_cons_self

theorem RecordsAll.captured?_append {slots : List Slot} {takens : List Taken}
    {recorded : List Recorded} (h : RecordsAll text slots takens recorded)
    (hnodup : (slots.map (·.capture)).Nodup) (extra : List Recorded)
    (hextra : ∀ entry ∈ extra, entry.1 ∉ slots.map (·.capture)) :
    List.Forall₂ (fun slot taken ↦ (Match.mk text (recorded ++ extra)).captured? slot.capture =
      taken.map (joinWith slot.separator)) slots takens := by
  induction h generalizing extra with
  | nil => exact .nil
  | @cons slot slots taken takens here later hhere hlater ih =>
    rw [List.map_cons, List.nodup_cons] at hnodup
    obtain ⟨hslot, hslots⟩ := hnodup
    rw [List.append_assoc]
    refine .cons ?_ (ih hslots _ fun entry hentry ↦ ?_)
    · have hlaterNone : (Match.mk text later).captured? slot.capture = none := by
        refine Match.captured?_eq_none fun entry hentry heq ↦ hslot ?_
        exact heq ▸ hlater.name_mem entry hentry
      have hextraNone : (Match.mk text extra).captured? slot.capture = none := by
        refine Match.captured?_eq_none fun entry hentry heq ↦ hextra entry hentry ?_
        exact heq ▸ List.mem_cons_self
      rw [Match.captured?_append, hlaterNone, Option.none_or, Match.captured?_append, hextraNone,
        Option.or_none, hhere.captured?_eq]
    · rcases List.mem_append.mp hentry with hentry | hentry
      · rwa [hhere.name_eq entry hentry]
      · exact fun hmem ↦ hextra entry hentry (List.mem_cons_of_mem _ hmem)

/-- Under different names, every slot captures the text of the values of its parameter. -/
theorem RecordsAll.captured?_eq {slots : List Slot} {takens : List Taken}
    {recorded : List Recorded} (h : RecordsAll text slots takens recorded)
    (hnodup : (slots.map (·.capture)).Nodup) :
    List.Forall₂ (fun slot taken ↦ (Match.mk text recorded).captured? slot.capture =
      taken.map (joinWith slot.separator)) slots takens := by
  simpa using h.captured?_append hnodup [] (by simp)

/-! ### Token lists -/

/-- Plain tokens whose delimiter and leads are punctuation and whose parameters have different
names, as those of a pattern are under options that are in order. -/
structure Token.ArePlain (options : PatternOptions) (tokens : List Token) : Prop where
  /-- No parameter has a group of its own. -/
  plain : ∀ token ∈ tokens, token.IsPlain options.delimiter
  /-- The delimiter is punctuation. -/
  delimiter : isAsciiPunctuation options.delimiter = true
  /-- The leads are punctuation. -/
  punctuated : ∀ parameter, .param parameter ∈ tokens → parameter.IsPunctuated options.delimiter
  /-- The parameters have different names. -/
  nodup : (Token.paramNames tokens).Nodup

theorem Token.arePlain_of_tokenize {pattern : String} {tokens : List Token}
    (hoptions : options.validate = .ok ())
    (htokens : tokenize options.delimiter pattern = .ok tokens)
    (hplain : ∀ token ∈ tokens, token.IsPlain options.delimiter) :
    Token.ArePlain options tokens where
  plain := hplain
  delimiter := isAsciiPunctuation_of_isDelimiter (validate_eq_ok_iff.mp hoptions)
  punctuated _ hmem := Param.isPunctuated_of_lead (validate_eq_ok_iff.mp hoptions)
    (lead_of_mem_tokenize htokens hmem)
  nodup := nodup_paramNames_of_tokenize htokens

/-- What is read for tokens is texts of them, and the values taken are recorded. -/
theorem exists_fills_of_readsAll {tokens : List Token} {index start stop : Nat}
    {recorded : List Recorded}
    (hpunctuated : ∀ parameter, .param parameter ∈ tokens →
      parameter.IsPunctuated options.delimiter)
    (h : ReadsAll text (Token.nodesFrom options index tokens) start stop recorded) :
    ∃ parts takens, Fills options tokens parts takens ∧ Covers text start stop parts.flatten ∧
      RecordsAll text (Token.slotsFrom options index tokens) takens recorded := by
  induction tokens generalizing index start recorded with
  | nil =>
    obtain ⟨rfl, rfl⟩ := Regex.readsAll_nil_iff.mp h
    exact ⟨[], [], .nil, .nil _, .nil⟩
  | cons token tokens ih =>
    have hrest parameter hmem := hpunctuated parameter (List.mem_cons_of_mem _ hmem)
    cases token with
    | literal chars =>
      obtain ⟨middle, earlier, later, hfront, hback, rfl⟩ := Regex.readsAll_append_iff.mp h
      obtain ⟨rfl, part, hpart, hcovers⟩ := (hasLanguage_text chars.toList _ _ _).mp hfront
      obtain ⟨parts, takens, hfills, hcovers', hrecords⟩ := ih hrest hback
      refine ⟨part :: parts, takens, .literal hpart hfills, hcovers.append hcovers', ?_⟩
      rwa [List.append_nil]
    | param parameter =>
      obtain ⟨middle, earlier, later, hfront, hback, rfl⟩ := Regex.readsAll_append_iff.mp h
      obtain ⟨taken, htaken, hcovers, hhere⟩ :=
        Param.exists_takes_of_readsAll (hpunctuated parameter List.mem_cons_self) hfront
      obtain ⟨parts, takens, hfills, hcovers', hrecords⟩ := ih hrest hback
      exact ⟨_ :: parts, taken :: takens, .param htaken hfills, hcovers.append hcovers',
        .cons hhere hrecords⟩

/-- Texts of tokens can be read for them. -/
theorem exists_readsAll_of_fills {tokens : List Token} {parts : List (List Char)}
    {takens : List Taken} (h : Fills options tokens parts takens)
    (hpunctuated : ∀ parameter, .param parameter ∈ tokens →
      parameter.IsPunctuated options.delimiter)
    {index start stop : Nat} (hcovers : Covers text start stop parts.flatten) :
    ∃ recorded, ReadsAll text (Token.nodesFrom options index tokens) start stop recorded := by
  induction h generalizing index start with
  | nil =>
    obtain rfl := Regex.covers_nil_iff.mp hcovers
    exact ⟨[], .nil _⟩
  | literal hpart _ ih =>
    obtain ⟨middle, hfront, hback⟩ := Regex.covers_append_iff.mp hcovers
    obtain ⟨later, hlater⟩ := @ih
      (fun parameter hmem ↦ hpunctuated parameter (List.mem_cons_of_mem _ hmem)) index middle hback
    exact ⟨_, Regex.readsAll_append_iff.mpr ⟨middle, [], later,
      (hasLanguage_text _ _ _ _).mpr ⟨rfl, _, hpart, hfront⟩, hlater, rfl⟩⟩
  | param htaken _ ih =>
    obtain ⟨middle, hfront, hback⟩ := Regex.covers_append_iff.mp hcovers
    obtain ⟨later, hlater⟩ := @ih
      (fun parameter hmem ↦ hpunctuated parameter (List.mem_cons_of_mem _ hmem)) (index + 1) middle
      hback
    obtain ⟨here, hhere⟩ :=
      Param.exists_readsAll_of_takes (hpunctuated _ List.mem_cons_self) htaken hfront
    exact ⟨_, Regex.readsAll_append_iff.mpr ⟨middle, here, later, hhere, hlater, rfl⟩⟩

/-! ### Values -/

/-- The value that a parameter has by the values it takes. -/
def Param.valueOf (parameter : Param) (values : List (List Char)) : ParamValue :=
  if parameter.isRepeating then .list (values.map String.ofList)
  else .single (String.ofList values.flatten)

/-- The parameters of the tokens have the values they take. -/
def Token.HaveValues (params : Params) (tokens : List Token) (takens : List Taken) : Prop :=
  List.Forall₂ (fun parameter taken ↦
    params.get? parameter.name.display = taken.map parameter.valueOf)
    (tokens.filterMap Token.param?) takens

/-- The parameters have the values they take, and no other name has a value. -/
def Token.Give (params : Params) (tokens : List Token) (takens : List Taken) : Prop :=
  HaveValues params tokens takens ∧ ∀ name ∉ Token.paramNames tokens, params.get? name = none

/-- The values are those that were joined. -/
theorem Param.valueOf_joinWith {parameter : Param} {index : Nat} {values : List (List Char)}
    (hvalues : parameter.Takes options.delimiter (some values)) :
    (parameter.plainSlot options index).valueOf
      (joinWith (parameter.separator options.delimiter) values) = parameter.valueOf values := by
  obtain ⟨hne, hlength, hvalues⟩ := hvalues
  unfold Slot.valueOf Param.valueOf
  rw [plainSlot_isRepeating]
  by_cases hrepeating : parameter.isRepeating = true
  · rw [if_pos hrepeating, if_pos hrepeating]
    congr 2
    exact fields_joinWith hne fun value hvalue ↦ (hvalues value hvalue).separator_notMem
  · rw [if_neg hrepeating, if_neg hrepeating]
    obtain ⟨value, rfl⟩ := List.length_eq_one_iff.mp (hlength (Bool.not_eq_true _ ▸ hrepeating))
    simp [joinWith]

theorem map_name_slotsFrom (index : Nat) (tokens : List Token) :
    (Token.slotsFrom options index tokens).map (·.name) = Token.paramNames tokens := by
  induction tokens generalizing index with
  | nil => rfl
  | cons token tokens ih =>
    cases token with
    | literal chars => exact ih index
    | param parameter => exact congrArg (_ :: ·) (ih (index + 1))

theorem get?_foldl_record_of_notMem {found : Match} {slots : List Slot} {name : String}
    (hname : name ∉ slots.map (·.name)) (params : Params) :
    (slots.foldl (Slot.record found) params).get? name = params.get? name := by
  induction slots generalizing params with
  | nil => rfl
  | cons slot slots ih =>
    rw [List.map_cons, List.mem_cons, not_or] at hname
    rw [List.foldl_cons, ih hname.2]
    unfold Slot.record
    split
    · rfl
    · rw [Params.get?_insert, if_neg (Ne.symm hname.1)]

theorem get?_record_plainSlot {found : Match} {parameter : Param} {index : Nat} {taken : Taken}
    (htaken : parameter.Takes options.delimiter taken)
    (hcaptured : found.captured? (captureName index) =
      taken.map (joinWith (parameter.separator options.delimiter)))
    (params : Params) (name : String) :
    (Slot.record found params (parameter.plainSlot options index)).get? name =
      if parameter.name.display = name then (taken.map parameter.valueOf).or (params.get? name)
      else params.get? name := by
  have hcapture : (parameter.plainSlot options index).capture = captureName index := rfl
  unfold Slot.record
  rw [hcapture, hcaptured]
  cases taken with
  | none => simp
  | some values =>
    change (params.insert _ _).get? name = _
    rw [Params.get?_insert, Param.valueOf_joinWith htaken]
    rfl

/-- Recording the captures of all slots gives the parameters the values they take. -/
theorem haveValues_foldl_record {found : Match} {tokens : List Token}
    {parts : List (List Char)} {takens : List Taken} (hfills : Fills options tokens parts takens)
    (hnodup : (Token.paramNames tokens).Nodup) {index : Nat} {params : Params}
    (hcaptured : List.Forall₂ (fun slot taken ↦ found.captured? slot.capture =
      taken.map (joinWith slot.separator)) (Token.slotsFrom options index tokens) takens)
    (hparams : ∀ name ∈ Token.paramNames tokens, params.get? name = none) :
    Token.HaveValues ((Token.slotsFrom options index tokens).foldl (Slot.record found) params)
      tokens takens := by
  induction hfills generalizing index params with
  | nil => exact .nil
  | literal _ _ ih => exact ih hnodup hcaptured hparams
  | @param parameter taken tokens _ takens htaken _ ih =>
    rw [Token.paramNames_param, List.nodup_cons] at hnodup
    rw [Token.paramNames_param, List.forall_mem_cons] at hparams
    obtain ⟨hname, hnames⟩ := hnodup
    obtain ⟨hfresh, hparams⟩ := hparams
    obtain ⟨hhead, htail⟩ := List.forall₂_cons.mp hcaptured
    have hrecord := get?_record_plainSlot htaken hhead params
    rw [Token.slotsFrom, List.foldl_cons]
    refine .cons ?_ (ih hnames htail fun name hmem ↦ ?_)
    · rw [get?_foldl_record_of_notMem (by rwa [map_name_slotsFrom]), hrecord, if_pos rfl, hfresh,
        Option.or_none]
    · have hne : parameter.name.display ≠ name := fun heq ↦ hname (heq ▸ hmem)
      rw [hrecord, if_neg hne, hparams name hmem]

/-! ### Matches -/

theorem hasLanguage_tail (hdelimiter : isAsciiPunctuation options.delimiter = true) :
    Regex.HasLanguage text (Token.tailNodes options) (Regex.textsWith (IsTail options)) := by
  unfold Token.tailNodes IsTail
  cases options.strict with
  | true => exact Regex.HasLanguage.nil.congr fun part ↦ by simp [Language.mem_one]
  | false =>
    refine ((hasLanguage_charNode_of_punctuation hdelimiter).optional true).congr fun part ↦ ?_
    simp [Language.mem_add, Language.mem_one]

variable {tokens : List Token} {matcher : Matcher}

/-- A reading of a whole path is a division of it into texts of the tokens and a tail. -/
theorem exists_fills_of_readsAll_path {path : List Char} {recorded : List Recorded}
    (hplain : Token.ArePlain options tokens)
    (h : ReadsAll path (Token.nodesFrom options 0 tokens ++ Token.tailNodes options) 0 path.length
      recorded) :
    ∃ parts takens tail, Fills options tokens parts takens ∧ IsTail options tail ∧
      path = parts.flatten ++ tail ∧
      RecordsAll path (Token.slotsFrom options 0 tokens) takens recorded := by
  obtain ⟨middle, earlier, later, hfront, hback, rfl⟩ := Regex.readsAll_append_iff.mp h
  obtain ⟨parts, takens, hfills, hparts, hrecords⟩ :=
    exists_fills_of_readsAll hplain.punctuated hfront
  obtain ⟨rfl, tail, htail, hcovers⟩ := (hasLanguage_tail hplain.delimiter _ _ _).mp hback
  exact ⟨parts, takens, tail, hfills, htail, Regex.covers_text_iff.mp (hparts.append hcovers),
    by simpa using hrecords⟩

theorem Matcher.ofTokens_eq_ok (hplain : Token.ArePlain options tokens)
    (hmatcher : Matcher.ofTokens options tokens = .ok matcher) :
    matcher.regex.root = .ofItems (Token.wholeNodes options tokens) ∧
      matcher.slots = Token.slotsFrom options 0 tokens ∧
      ∀ params, matcher.build params =
        (Part.buildAll params (Token.partsFrom options 0 tokens)).map String.ofList := by
  obtain ⟨matcher', hmatcher', hrest⟩ := Matcher.ofTokens_of_isPlain hplain.plain
  obtain rfl := Except.ok.inj (hmatcher.symm.trans hmatcher')
  exact hrest

/-- The paths of a matcher are texts of its tokens and a tail. -/
theorem Matcher.accepts_iff (hplain : Token.ArePlain options tokens)
    (hmatcher : Matcher.ofTokens options tokens = .ok matcher) {path : String} :
    matcher.accepts path = true ↔
      ∃ parts takens tail, Fills options tokens parts takens ∧ IsTail options tail ∧
        path.toList = parts.flatten ++ tail := by
  obtain ⟨hroot, -, -⟩ := Matcher.ofTokens_eq_ok hplain hmatcher
  rw [Matcher.accepts, Regex.isMatch_iff_of_anchored hroot]
  constructor
  · rintro ⟨recorded, hreads⟩
    obtain ⟨parts, takens, tail, hfills, htail, hpath, -⟩ :=
      exists_fills_of_readsAll_path hplain hreads
    exact ⟨parts, takens, tail, hfills, htail, hpath⟩
  · rintro ⟨parts, takens, tail, hfills, htail, hpath⟩
    obtain ⟨middle, hfront, hback⟩ :=
      Regex.covers_append_iff.mp (Regex.covers_text_iff.mpr hpath)
    obtain ⟨recorded, hreads⟩ := exists_readsAll_of_fills hfills hplain.punctuated hfront
    exact ⟨_, Regex.readsAll_append_iff.mpr ⟨middle, recorded, [], hreads,
      (hasLanguage_tail hplain.delimiter _ _ _).mpr ⟨rfl, tail, htail, hback⟩, rfl⟩⟩

/-- The values that a matcher takes from a path are those of a division of it into texts of the
tokens and a tail. -/
theorem Matcher.exists_fills_of_params? (hplain : Token.ArePlain options tokens)
    (hmatcher : Matcher.ofTokens options tokens = .ok matcher) {path : String} {params : Params}
    (h : matcher.params? path = some params) :
    ∃ parts takens tail, Fills options tokens parts takens ∧ IsTail options tail ∧
      path.toList = parts.flatten ++ tail ∧ Token.Give params tokens takens := by
  obtain ⟨hroot, hslots, -⟩ := Matcher.ofTokens_eq_ok hplain hmatcher
  obtain ⟨found, hfound, rfl⟩ := Option.map_eq_some_iff.mp h
  obtain ⟨htext, hreads⟩ := Regex.readsAll_of_find? hroot hfound
  obtain ⟨parts, takens, tail, hfills, htail, hpath, hrecords⟩ :=
    exists_fills_of_readsAll_path hplain hreads
  have hcaptured := hrecords.captured?_eq (Token.nodup_captures 0 tokens)
  rw [← htext] at hcaptured
  rw [hslots]
  refine ⟨parts, takens, tail, hfills, htail, hpath,
    haveValues_foldl_record hfills hplain.nodup hcaptured (by simp), fun name hname ↦ ?_⟩
  rw [get?_foldl_record_of_notMem (by rwa [map_name_slotsFrom]), Params.get?_nil]

theorem Matcher.isSome_params? (matcher : Matcher) (path : String) :
    (matcher.params? path).isSome = matcher.accepts path := by
  rw [Matcher.params?, Option.isSome_map]
  rfl

end RoutePatterns
