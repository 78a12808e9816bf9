import RoutePatterns.Proofs.Matcher.Parts
import RoutePatterns.Proofs.Pattern.Meaning
import RoutePatterns.Proofs.Table.Clients

/-!
# Routers and their tables

A router answers as its table does, but for options that come with a pattern: those it checks itself
(`Router.Refines`). Several entries that come together are added as they would be one by one
(`Router.addEntries_eq_ok_iff`, `Router.addEntries_eq_error_iff`).

The shared options of a router that can be reached are in order
(`Router.Reachable.validate_shared`), and a table refuses options only if they are not
(`Route.create_eq_error_options_iff`). So the table of a router never does. The main statement is
`Router.Reachable.refines_table`.
-/

set_option autoImplicit false
set_option relaxedAutoImplicit false

namespace RoutePatterns

/-! ### Options that are refused -/

section Options

variable {pattern : String} {options : PatternOptions}

theorem compileRegex_ne_error_options (source : List Char) (refusal : OptionsError) :
    compileRegex options source ≠ .error (.options refusal) := by
  unfold compileRegex
  dsimp only
  split <;> simp

theorem Slot.ofParam_ne_error_options (index : ℕ) (parameter : Param) (refusal : OptionsError) :
    ofParam options index parameter ≠ .error (.options refusal) := by
  rw [ofParam, Ne, map_eq_error_iff]
  exact compileRegex_ne_error_options _ refusal

theorem Part.ofTokens_ne_error_options (index : ℕ) (tokens : List Token) (refusal : OptionsError) :
    ofTokens options index tokens ≠ .error (.options refusal) := by
  induction tokens generalizing index with
  | nil => exact fun h ↦ by cases h
  | cons token tokens ih =>
    cases token with
    | literal text =>
      rw [ofTokens, Ne, map_eq_error_iff]
      exact ih index
    | param parameter =>
      have hslot := @Slot.ofParam_ne_error_options options index parameter refusal
      rw [ofTokens]
      rcases hcase : Slot.ofParam options index parameter with fault | slot
      · simpa [hcase] using hslot
      · rw [Ne, map_eq_error_iff]
        exact ih (index + 1)

theorem Matcher.ofTokens_ne_error_options (tokens : List Token) (refusal : OptionsError) :
    ofTokens options tokens ≠ .error (.options refusal) := by
  have hparts := @Part.ofTokens_ne_error_options options 0 tokens refusal
  rw [ofTokens]
  rcases hcase : Part.ofTokens options 0 tokens with fault | parts
  · simpa [hcase] using hparts
  · rw [Ne, map_eq_error_iff]
    exact compileRegex_ne_error_options _ refusal

theorem tokenize_ne_error_options (delimiter : Char) (pattern : String) (refusal : OptionsError) :
    tokenize delimiter pattern ≠ .error (.options refusal) := by
  rw [tokenize]
  rcases Item.scan pattern with fault | items
  · exact fun h ↦ by cases h
  · rw [Ne, map_eq_error_iff]
    rcases checkTokens_cases pattern delimiter (Token.ofItems delimiter items) with
      ⟨-, -, hcheck⟩ | ⟨-, name, hcheck⟩ | ⟨-, -, position, hcheck⟩
    all_goals simp [hcheck]

/-- A route is refused for its options exactly if they are refused on their own. -/
theorem Route.create_eq_error_options_iff {weights : Weights Float} {refusal : OptionsError} :
    Route.create pattern options weights = .error (.options refusal) ↔
      options.validate = .error refusal := by
  have htokenize := tokenize_ne_error_options options.delimiter pattern refusal
  rw [Route.create]
  rcases options.validate with fault | _
  · simp
  · rcases hcase : tokenize options.delimiter pattern with fault | tokens
    · simpa [hcase] using htokenize
    · simpa [map_eq_error_iff] using Matcher.ofTokens_ne_error_options tokens refusal

end Options

/-- Options that are in order are no reason for a table to refuse a pattern. -/
theorem RouteTable.add_ne_error_options {table : RouteTable} {pattern : String}
    {options : Option PatternOptions} (h : (options.getD table.shared).validate = .ok ())
    (refusal : OptionsError) :
    (table.add pattern options).1 ≠ .error (.pattern (.options refusal)) := by
  rcases table.add_cases pattern options with ⟨route, -, hadd⟩ | ⟨-, error, hcreate, hadd⟩
  · rw [hadd]
    rintro ⟨⟩
  · rw [hadd]
    rintro ⟨⟩
    rw [Route.create_eq_error_options_iff, h] at hcreate
    cases hcreate

theorem RouteEntry.getD_explicit? (entry : RouteEntry) (shared : PatternOptions) :
    entry.explicit?.getD shared = entry.optionsInForce shared := by
  rw [explicit?, optionsInForce]
  split_ifs <;> rfl

namespace Router

variable {router last middle : Router} {entry : RouteEntry} {entries : List RouteEntry}
  {index : ℕ} {indices : List ℕ} {error : RouterError}

/-! ### Several entries -/

/-- Entries are added one by one, each of them with success: the router before them, the indices
that they are answered with, and the router after them. -/
inductive AddsEach : Router → List RouteEntry → List ℕ → Router → Prop
  | nil {router : Router} : AddsEach router [] [] router
  | cons {router middle last : Router} {entry : RouteEntry} {entries : List RouteEntry} {index : ℕ}
      {indices : List ℕ} (hentry : router.addEntry entry = (.ok index, middle))
      (hentries : AddsEach middle entries indices last) :
      AddsEach router (entry :: entries) (index :: indices) last

/-- Entries are all added together exactly if each of them is one by one. -/
theorem addEntries_eq_ok_iff :
    router.addEntries entries = (.ok indices, last) ↔ AddsEach router entries indices last := by
  constructor
  · intro h
    induction entries generalizing router indices with
    | nil =>
      cases h
      exact .nil
    | cons entry entries ih =>
      rw [addEntries_cons] at h
      rcases hentry : router.addEntry entry with ⟨fault | index, middle⟩
      · simp [hentry] at h
      · simp only [hentry] at h
        obtain ⟨hindices, hlast⟩ := Prod.mk.inj h
        rcases hrest : middle.addEntries entries with ⟨fault | others, last'⟩
        · simp [hrest, Except.map] at hindices
        · rw [hrest] at hindices hlast
          obtain rfl := Except.ok.inj hindices
          obtain rfl := hlast
          exact .cons hentry (ih hrest)
  · intro h
    induction h with
    | nil => rfl
    | cons hentry _ ih =>
      rw [addEntries_cons, hentry]
      simp only [ih]
      rfl

/-- Together entries are refused exactly if one by one an entry is refused after others have been
added: with its refusal, and with the router that is left by it. -/
theorem addEntries_eq_error_iff :
    router.addEntries entries = (.error error, last) ↔
      ∃ front entry back indices middle, entries = front ++ entry :: back ∧
        AddsEach router front indices middle ∧ middle.addEntry entry = (.error error, last) := by
  constructor
  · intro h
    induction entries generalizing router with
    | nil => cases h
    | cons entry entries ih =>
      rw [addEntries_cons] at h
      rcases hentry : router.addEntry entry with ⟨fault | index, middle⟩
      · simp only [hentry] at h
        obtain ⟨hfault, rfl⟩ := Prod.mk.inj h
        obtain rfl := Except.error.inj hfault
        exact ⟨[], entry, entries, [], router, rfl, .nil, hentry⟩
      · simp only [hentry] at h
        obtain ⟨hresult, hlast⟩ := Prod.mk.inj h
        rw [map_eq_error_iff] at hresult
        obtain ⟨front, refused, back, indices, before, rfl, hfront, hrefused⟩ :=
          ih (Prod.ext hresult hlast)
        exact ⟨entry :: front, refused, back, index :: indices, before, rfl, .cons hentry hfront,
          hrefused⟩
  · rintro ⟨front, entry, back, indices, middle, rfl, hfront, hentry⟩
    induction hfront with
    | nil => rw [List.nil_append, addEntries_cons, hentry]
    | cons hfirst _ ih =>
      rw [List.cons_append, addEntries_cons, hfirst]
      simp only [ih hentry]
      rfl

theorem shared_call (router : Router) (call : Call) :
    (router.call call).2.table.shared = router.table.shared := by
  rw [(router.call_eq call).1, RouteTable.shared_serveAll]

theorem shared_addEntry (router : Router) (entry : RouteEntry) :
    (router.addEntry entry).2.table.shared = router.table.shared :=
  router.shared_call (.addEntry entry)

/-- An entry adds its route, or it is refused and the routes stay. -/
theorem addEntry_cases (router : Router) (entry : RouteEntry) :
    (∃ route, router.table.route? (.addEntry entry) = some route ∧
        router.addEntry entry =
          (.ok (router.table.insert route).1, ⟨(router.table.insert route).2⟩)) ∨
      ∃ error last, router.addEntry entry = (.error error, last) ∧
        last.table.routes = router.table.routes := by
  rw [addEntry]
  rcases (if entry.applyOptions then entry.options.validate else .ok ()) with error | _
  · exact .inr ⟨_, router, rfl, rfl⟩
  · dsimp only
    rw [RouteTable.addEntry]
    rcases router.table.add_cases entry.pattern
      (some (entry.optionsInForce router.table.shared)) with
      ⟨route, hroute, hadd⟩ | ⟨-, error, -, hadd⟩
    · rw [hadd]
      exact .inl ⟨route, hroute, rfl⟩
    · rw [hadd]
      exact .inr ⟨_, _, rfl, rfl⟩

theorem routes_of_addEntry_eq_error (h : router.addEntry entry = (.error error, last)) :
    last.table.routes = router.table.routes := by
  rcases router.addEntry_cases entry with ⟨route, -, hadd⟩ | ⟨error', last', hadd, hroutes⟩
  · cases hadd.symm.trans h
  · obtain ⟨-, rfl⟩ := Prod.mk.inj (hadd.symm.trans h)
    exact hroutes

namespace AddsEach

theorem shared_eq (h : AddsEach router entries indices last) :
    last.table.shared = router.table.shared := by
  induction h with
  | nil => rfl
  | @cons router middle last entry entries index indices hentry _ ih =>
    have hmiddle := router.shared_addEntry entry
    rw [hentry] at hmiddle
    exact ih.trans hmiddle

/-- Each of the entries has added its route, and the routes before them are still there. -/
theorem perm_routes (h : AddsEach router entries indices last) :
    (router.table.added (entries.map .addEntry)).length = entries.length ∧
      last.table.routes.toList.Perm
        (router.table.routes.toList ++ router.table.added (entries.map .addEntry)) := by
  induction h with
  | nil => exact ⟨rfl, by simp [RouteTable.added]⟩
  | @cons router middle last entry entries index indices hentry _ ih =>
    rcases router.addEntry_cases entry with ⟨route, hroute, hadd⟩ | ⟨error, last', hadd, -⟩
    · obtain ⟨-, rfl⟩ := Prod.mk.inj (hadd.symm.trans hentry)
      have hadded : (router.table.insert route).2.added = router.table.added :=
        router.table.added_serveAll [.insert route]
      obtain ⟨hlength, hperm⟩ := ih
      rw [hadded] at hlength hperm
      rw [List.map_cons, RouteTable.added, List.filterMap_cons_some hroute]
      refine ⟨congrArg Nat.succ hlength, hperm.trans ?_⟩
      exact ((router.table.perm_insert route).append_right _).trans List.perm_middle.symm
    · cases hadd.symm.trans hentry

end AddsEach

/-! ### Routers that can be reached -/

/-- A router that is made and then used in any way. -/
inductive Reachable : Router → Prop
  | made {origin : RouterOrigin} {router : Router} (h : origin.router = .ok router) :
      Reachable router
  | call {router : Router} (h : Reachable router) (call : Call) : Reachable (router.call call).2
  | lookup {router : Router} (h : Reachable router) (path : String) :
      Reachable (router.lookup path).2

theorem validate_shared_of_config {config : RouterConfig} (h : config.validate = .ok ()) :
    config.shared.validate = .ok () := by
  rw [RouterConfig.validate] at h
  rcases hshared : config.shared.validate with error | _
  · rw [hshared] at h
    cases h
  · rfl

/-- The shared options are in order, since they are checked first and never change. -/
theorem Reachable.validate_shared (h : Reachable router) :
    router.table.shared.validate = .ok () := by
  induction h with
  | @made origin router hmade =>
    cases origin with
    | standard =>
      obtain rfl := Except.ok.inj hmade
      rfl
    | create config =>
      obtain ⟨hconfig, rfl⟩ := create_eq_ok_iff.mp hmade
      exact validate_shared_of_config hconfig
    | ofEntries entries config =>
      obtain ⟨hconfig, indices, hadd⟩ := ofEntries_eq_ok_iff.mp hmade
      have hshared := (addEntries_eq_ok_iff.mp hadd).shared_eq
      rw [hshared]
      exact validate_shared_of_config hconfig
  | @call router _ call ih => rwa [shared_call]
  | @lookup router _ path ih =>
    have hshared : (router.lookup path).2.table.shared = router.table.shared :=
      router.table.shared_serve (.lookup path)
    rwa [hshared]

theorem validate_getD {explicit : Option PatternOptions} {shared : PatternOptions}
    (hshared : shared.validate = .ok ()) (h : ∀ options ∈ explicit, options.validate = .ok ()) :
    (explicit.getD shared).validate = .ok () := by
  cases explicit with
  | none => exact hshared
  | some options => exact h options rfl

/-- A router forestalls that its table refuses explicit options. -/
theorem Refines.ne_table_options {explicit : Option PatternOptions}
    {answer : Except RouterError ℕ × Router} {plain : Except RouteTableError ℕ × RouteTable}
    {refusal : OptionsError} (h : Refines router explicit answer plain)
    (hplain : (∀ options ∈ explicit, options.validate = .ok ()) →
      plain.1 ≠ .error (.pattern (.options refusal))) :
    answer.1 ≠ .error (.table (.pattern (.options refusal))) := by
  by_cases hoptions : ∀ options ∈ explicit, options.validate = .ok ()
  · rw [h.passed hoptions]
    have hne := hplain hoptions
    rcases hcase : plain.1 with error | index
    · simpa [hcase, Except.mapError] using hne
    · rintro ⟨⟩
  · push Not at hoptions
    obtain ⟨options, hmem, hrefused⟩ := hoptions
    rcases hvalidate : options.validate with error | _
    · rw [h.refused options hmem error hvalidate]
      rintro ⟨⟩
    · exact absurd hvalidate hrefused

section Unrefused

variable (hshared : router.table.shared.validate = .ok ()) (refusal : OptionsError)

include hshared

theorem add_ne_table_options (pattern : String) (options : Option PatternOptions) :
    (router.add pattern options).1 ≠ .error (.table (.pattern (.options refusal))) :=
  (router.refines_add pattern options).ne_table_options fun hoptions ↦
    RouteTable.add_ne_error_options (validate_getD hshared hoptions) refusal

theorem addEntry_ne_table_options (entry : RouteEntry) :
    (router.addEntry entry).1 ≠ .error (.table (.pattern (.options refusal))) := by
  refine (router.refines_addEntry entry).ne_table_options fun hoptions ↦
    RouteTable.add_ne_error_options ?_ refusal
  rw [Option.getD_some, ← entry.getD_explicit?]
  exact validate_getD hshared hoptions

theorem addEntries_ne_table_options (entries : List RouteEntry) :
    (router.addEntries entries).1 ≠ .error (.table (.pattern (.options refusal))) := by
  intro h
  obtain ⟨front, entry, back, indices, middle, -, hfront, hentry⟩ :=
    addEntries_eq_error_iff.mp (Prod.ext h rfl)
  have hmiddle : middle.table.shared.validate = .ok () := by rwa [hfront.shared_eq]
  exact addEntry_ne_table_options hmiddle refusal entry (congrArg Prod.fst hentry)

theorem call_ne_table_options (call : Call) :
    (router.call call).1 ≠ .error (.table (.pattern (.options refusal))) := by
  cases call with
  | add pattern options =>
    rw [Router.call, Ne, map_eq_error_iff]
    exact add_ne_table_options hshared refusal pattern options
  | addEntry entry =>
    rw [Router.call, Ne, map_eq_error_iff]
    exact addEntry_ne_table_options hshared refusal entry
  | addEntries entries => exact addEntries_ne_table_options hshared refusal entries

end Unrefused

theorem lookup_ne_table_options (path : String) (refusal : OptionsError) :
    (router.lookup path).1 ≠ .error (.table (.pattern (.options refusal))) := by
  simp only [lookup, RouteTable.lookup]
  rcases router.table.find? path with _ | ⟨route, params⟩
  · rintro ⟨⟩
  · rintro ⟨⟩

theorem build_ne_table_options (pattern : String) (params : Params) (refusal : OptionsError) :
    router.build pattern params ≠ .error (.table (.pattern (.options refusal))) := by
  rw [build]
  split
  · rintro ⟨⟩
  · next route _ =>
    rcases route.build params with error | path
    · rintro ⟨⟩
    · rintro ⟨⟩

theorem made_ne_table_options (origin : RouterOrigin) (refusal : OptionsError) :
    origin.router ≠ .error (.table (.pattern (.options refusal))) := by
  cases origin with
  | standard => rintro ⟨⟩
  | create config =>
    rw [RouterOrigin.router, create]
    rcases config.validate with error | _
    · rintro ⟨⟩
    · rintro ⟨⟩
  | ofEntries entries config =>
    rw [RouterOrigin.router, ofEntries, create]
    rcases hconfig : config.validate with error | _
    · rintro ⟨⟩
    · change (addEntries ⟨RouteTable.ofConfig config⟩ entries).1.map _ ≠ _
      rw [Ne, map_eq_error_iff]
      exact @addEntries_ne_table_options ⟨RouteTable.ofConfig config⟩
        (validate_shared_of_config hconfig) refusal entries

/-- A router in use refines its table. Patterns with options that it refuses itself leave it as it
is; all others are answered, and change it, as the table alone would be. Several entries together
are added as they would be one by one, up to the first refusal, and the routes before it stay. The
table never gets to refuse options, neither in a call nor when a router is made. -/
theorem Reachable.refines_table (h : Reachable router) :
    (∀ pattern options, Refines router options (router.add pattern options)
        (router.table.add pattern options)) ∧
      (∀ entry, Refines router entry.explicit? (router.addEntry entry)
        (router.table.addEntry entry)) ∧
      (∀ entries,
        (∀ indices last, router.addEntries entries = (.ok indices, last) ↔
          AddsEach router entries indices last) ∧
        ∀ error last, router.addEntries entries = (.error error, last) ↔
          ∃ front entry back indices middle, entries = front ++ entry :: back ∧
            AddsEach router front indices middle ∧ middle.addEntry entry = (.error error, last) ∧
            (router.table.added (front.map .addEntry)).length = front.length ∧
            last.table.routes.toList.Perm
              (router.table.routes.toList ++ router.table.added (front.map .addEntry))) ∧
      ∀ refusal : OptionsError,
        (∀ call, (router.call call).1 ≠ .error (.table (.pattern (.options refusal)))) ∧
          (∀ path, (router.lookup path).1 ≠ .error (.table (.pattern (.options refusal)))) ∧
          (∀ pattern params,
            router.build pattern params ≠ .error (.table (.pattern (.options refusal)))) ∧
          ∀ origin : RouterOrigin,
            origin.router ≠ .error (.table (.pattern (.options refusal))) := by
  refine ⟨router.refines_add, router.refines_addEntry, fun entries ↦
    ⟨fun indices last ↦ addEntries_eq_ok_iff, fun error last ↦ ?_⟩, fun refusal ↦
    ⟨call_ne_table_options h.validate_shared refusal, fun path ↦ lookup_ne_table_options path refusal,
      fun pattern params ↦ build_ne_table_options pattern params refusal,
      fun origin ↦ made_ne_table_options origin refusal⟩⟩
  rw [addEntries_eq_error_iff]
  constructor
  · rintro ⟨front, entry, back, indices, middle, hentries, hfront, hentry⟩
    obtain ⟨hlength, hperm⟩ := hfront.perm_routes
    rw [← routes_of_addEntry_eq_error hentry] at hperm
    exact ⟨front, entry, back, indices, middle, hentries, hfront, hentry, hlength, hperm⟩
  · rintro ⟨front, entry, back, indices, middle, hentries, hfront, hentry, -⟩
    exact ⟨front, entry, back, indices, middle, hentries, hfront, hentry⟩

/-- The full stop is refused by the router, a missing name by its table. -/
theorem refines_table_users :
    let router := (standard.call (.add "/users/:id" none)).2
    let entries : List RouteEntry := [.ofPattern "/a", .ofPattern "/:", .ofPattern "/b"]
    let error : RouterError := .table (.pattern (.spelling "/:" (.missingName 1)))
    Reachable router ∧
      router.addEntry ((RouteEntry.ofPattern "/x").withOptions ⟨false, false, '.'⟩) =
        (.error (.options (.invalidDelimiter '.')), router) ∧
      (router.addEntries entries).1 = .error error ∧
      ∃ front entry back indices middle, entries = front ++ entry :: back ∧
        AddsEach router front indices middle ∧ (middle.addEntry entry).1 = .error error := by
  intro router entries error
  have hreachable : Reachable router := .call (@Reachable.made .standard _ rfl) _
  have herror : (router.addEntries entries).1 = .error error := by decide +kernel
  obtain ⟨-, hentry, hentries, -⟩ := hreachable.refines_table
  refine ⟨hreachable, (hentry _).refused _ rfl _ rfl, herror, ?_⟩
  obtain ⟨front, entry, back, indices, middle, hsplit, hfront, hrefused, -⟩ :=
    ((hentries entries).2 _ _).mp (Prod.ext herror rfl)
  exact ⟨front, entry, back, indices, middle, hsplit, hfront, congrArg Prod.fst hrefused⟩

end Router

end RoutePatterns
