/-
DirectoryGroups/Proofs/Lookup/Agreement.lean

Lookups on directories that a session cannot tell apart.

If the calls of a session agree from related states on, so does all that lookups are made
of: the search for a user, the collecting of group names, and a lookup as a whole, also on
behalf of a service.  A supplied resolver may look at the directory itself; that is why it
has to agree with itself, too (`Resolver.Impartial`).

Main results: `agree_groups`, and for reports `agree_report`.
-/
import DirectoryGroups.Lookup.Service
import DirectoryGroups.Proofs.Session.Agreement

namespace DirectoryGroups

/-- A resolver that gives agreeing answers from related states of the directory on. -/
def Resolver.Impartial {σ : Type} (akin : LookupError → LookupError → Prop)
    (states : σ → σ → Prop) : Resolver σ → Prop
  | search => True
  | supplied answer => ∀ username config,
    Step.Agree akin states Eq (answer username config) (answer username config)

/-- A resolver that leaves the directory alone is impartial. -/
theorem Resolver.impartial_of_aloof {σ : Type} {akin : LookupError → LookupError → Prop}
    {states : σ → σ → Prop}
    {answer : String → Config → Step σ SessionEvent (Option DistinguishedName)}
    (h : ∀ username config, ∃ result trace, ∀ s, answer username config s = ⟨result, s, trace⟩) :
    (Resolver.supplied answer).Impartial akin states := by
  intro username config s s' hs
  obtain ⟨result, trace, hanswer⟩ := h username config
  rw [hanswer, hanswer]
  exact ⟨.refl result, hs, rfl⟩

namespace Session

variable {σ κ : Type} {session : Session σ κ} {akin : LookupError → LookupError → Prop}
  {states : σ → σ → Prop}

/-! ### Users -/

theorem agree_findUser (h : session.Respects akin states) (username filter : String)
    (bases : List String) :
    Step.Agree akin states Eq (session.findUser username filter bases)
      (session.findUser username filter bases) := by
  induction bases with
  | nil => exact .pure rfl
  | cons base bases ih =>
    refine .bind (agree_first h _) ?_
    rintro found - rfl
    -- Both have found the same entry, or both go on to the next base.
    cases found with
    | none => exact ih
    | some entry =>
      refine .bind (.ofExcept (.refl _)) ?_
      rintro dn - rfl
      exact .bind (.log _ _) fun _ _ _ => .pure rfl

theorem agree_resolve (h : session.Respects akin states) (config : Config) (username : String) :
    Step.Agree akin states Eq (session.resolve config username)
      (session.resolve config username) := by
  unfold resolve
  split
  · exact .pure rfl
  · refine .bind (agree_findUser h _ _ _) ?_
    rintro found - rfl
    cases found with
    | none => exact .bind (.log _ _) fun _ _ _ => .pure rfl
    | some dn => exact .pure rfl

theorem agree_resolver (h : session.Respects akin states) (config : Config) (username : String)
    {resolver : Resolver σ} (hresolver : resolver.Impartial akin states) :
    Step.Agree akin states Eq (resolver.resolve session config username)
      (resolver.resolve session config username) := by
  cases resolver with
  | search => exact agree_resolve h config username
  | supplied answer => exact .bind (.tell rfl) fun _ _ _ => agree_relay (hresolver username config)

/-! ### Groups -/

theorem agree_valuesBelow (h : session.Respects akin states) (filter attr base : String) :
    Step.Agree akin states Eq (session.valuesBelow filter attr base)
      (session.valuesBelow filter attr base) := by
  refine .bind (agree_all h _ _ _) ?_
  rintro values - rfl
  exact .pure rfl

theorem agree_valuesBelowAll (h : session.Respects akin states) (filter attr : String)
    (bases : List String) :
    Step.Agree akin states Eq (session.valuesBelowAll filter attr bases)
      (session.valuesBelowAll filter attr bases) := by
  induction bases with
  | nil => exact .pure rfl
  | cons base bases ih =>
    refine .bind (agree_valuesBelow h filter attr base) ?_
    rintro names - rfl
    refine .bind ih ?_
    rintro more - rfl
    exact .pure rfl

theorem agree_collect (h : session.Respects akin states) (bases : List String)
    (filter attr : String) :
    Step.Agree akin states Eq (session.collect bases filter attr)
      (session.collect bases filter attr) :=
  .bind (.log _ _) fun _ _ _ => agree_valuesBelowAll h filter attr bases

theorem agree_groupsOf (h : session.Respects akin states) (config : Config)
    (dn : DistinguishedName) :
    Step.Agree akin states Eq (session.groupsOf config dn) (session.groupsOf config dn) := by
  refine .bind (.ofExcept (.refl _)) ?_
  rintro filter - rfl
  have hrest := agree_collect h config.groupBases filter config.groupNameAttribute
  split
  · exact .bind (.log _ _) fun _ _ _ => .bind (.log _ _) fun _ _ _ => hrest
  · exact .bind (.log _ _) fun _ _ _ => hrest

/-- **A lookup** comes to the same on directories that cannot be told apart. -/
theorem agree_groups (h : session.Respects akin states) (config : Config) (username : String)
    {resolver : Resolver σ} (hresolver : resolver.Impartial akin states) :
    Step.Agree akin states Eq (session.groups config username resolver)
      (session.groups config username resolver) := by
  refine .bind (.ofExcept (.refl _)) fun _ _ _ =>
    .bind (agree_resolver h config username hresolver) ?_
  rintro found - rfl
  cases found with
  | none => exact .bind (.log _ _) fun _ _ _ => .pure rfl
  | some dn => exact agree_groupsOf h config dn

end Session

/-! ### Reports -/

/-- Reports that are the same but for errors that are akin. -/
inductive Report.Akin (akin : LookupError → LookupError → Prop) : Report → Report → Prop
  | same (report : Report) : Report.Akin akin report report
  | error {error error' : LookupError} :
      akin error error' → Report.Akin akin (.error error) (.error error')

instance : Requesting Event := ⟨fun event => event.what.request?⟩

/-- Worlds with the same service. -/
def World.Related {σ : Type} (states : σ → σ → Prop) (world world' : World σ) : Prop :=
  world.service = world'.service ∧ states world.directory world'.directory

section Reports

variable {σ κ α : Type} {akin : LookupError → LookupError → Prop} {states : σ → σ → Prop}
  {values : α → α → Prop}

/-- What results that agree are reported as. -/
theorem agree_reportLookup (username : String) {result result' : Except Failure (List String)}
    (h : ResultsAgree akin Eq result result') :
    Step.Agree akin states (Report.Akin akin) (reportLookup username result)
      (reportLookup username result') := by
  cases h with
  | ok hnames =>
    -- The same names are reported on both sides.
    cases hnames
    exact .bind (.log _ _) fun _ _ _ => .pure (.same _)
  | @error failure _ hfailure =>
    -- Lookup errors are reported, on both sides; any other failure is the same and gets out.
    cases hfailure with
    | same =>
      cases failure with
      | lookup error => exact .bind (.log _ _) fun _ _ _ => .pure (.same _)
      | _ => exact .ofExcept (.error (.same _))
    | lookup herror => exact .bind (.log _ _) fun _ _ _ => .pure (.error herror)

theorem requestsIn_event (service : Option String) (trace : List Happening) :
    requestsIn (trace.map (Event.mk service)) = requestsIn trace :=
  requestsIn_map (Event.mk service) (fun _ => rfl) trace

theorem agree_perform {x x' : Step σ Happening α} (hx : Step.Agree akin states values x x') :
    Step.Agree akin (World.Related states) values (World.perform x) (World.perform x') := by
  rintro world world' ⟨hservice, hdirectory⟩
  obtain ⟨hresult, hstate, hrequests⟩ := hx _ _ hdirectory
  refine ⟨hresult, ⟨hservice, hstate⟩, ?_⟩
  simp only [World.perform, requestsIn_event, hrequests]

theorem agree_under (service : String) {x x' : Step (World σ) Event α}
    (hx : Step.Agree akin (World.Related states) values x x') :
    Step.Agree akin (World.Related states) values (World.under service x)
      (World.under service x') := by
  rintro world world' ⟨hservice, hdirectory⟩
  obtain ⟨hresult, hstate, hrequests⟩ := hx { world with service := some service }
    { world' with service := some service } ⟨rfl, hdirectory⟩
  exact ⟨hresult, ⟨hservice, hstate.2⟩, hrequests⟩

/-- **A lookup on behalf of a service** is reported alike on directories that cannot be
told apart. -/
theorem agree_report (endpoint : Endpoint σ κ) (h : endpoint.session.Respects akin states)
    (username : String) {resolver : Resolver σ} (hresolver : resolver.Impartial akin states) :
    Step.Agree akin (World.Related states) (Report.Akin akin) (endpoint.groups username resolver)
      (endpoint.groups username resolver) :=
  agree_under endpoint.service <| agree_perform <|
    .bind (.attempt (Session.agree_groups h endpoint.config username hresolver)) fun _ _ hresult =>
      agree_reportLookup username hresult

end Reports

end DirectoryGroups
