/-
DirectoryGroups/Proofs/Session/Agreement.lean

Runs that come to the same.

Two steps agree if, from related states, they leave related states, send the same requests
and end alike: either both with values, related ones, or both with failures, and then the
failures are the same or two lookup errors that are akin (`Step.Agree`).  What is related and
what is akin is up to the use; with equality for the latter, they fail with the same error.

Agreement goes through everything that steps are put together with (`Step.Agree.bind`,
`Step.Agree.ensuring`, `Step.Agree.holding`).  So if two states of a directory cannot be told
apart by the single calls of a session (`Session.Respects`), they cannot be told apart by
looking at the first entry of a search (`agree_first`) or reading it to its end
(`agree_all`).
-/
import DirectoryGroups.Proofs.Paging.Reading

namespace DirectoryGroups

/-! ### Requests -/

/-- Happenings some of which tell of a request. -/
class Requesting (τ : Type) where
  request? : τ → Option Request

instance : Requesting SessionEvent := ⟨SessionEvent.request?⟩

instance : Requesting Happening := ⟨Happening.request?⟩

/-- The requests that a trace tells of. -/
def requestsIn {τ : Type} [Requesting τ] (trace : List τ) : List Request :=
  trace.filterMap Requesting.request?

theorem requestsIn_append {τ : Type} [Requesting τ] (trace more : List τ) :
    requestsIn (trace ++ more) = requestsIn trace ++ requestsIn more :=
  List.filterMap_append

/-- Telling the same in other terms keeps the requests. -/
theorem requestsIn_map {τ υ : Type} [Requesting τ] [Requesting υ] (f : τ → υ)
    (hf : ∀ t, Requesting.request? (f t) = Requesting.request? t) (trace : List τ) :
    requestsIn (trace.map f) = requestsIn trace := by
  rw [requestsIn, List.filterMap_map]
  exact congrArg (fun g => List.filterMap g trace) (funext hf)

theorem requestsIn_session (trace : List SessionEvent) :
    requestsIn (trace.map Happening.session) = requestsIn trace :=
  requestsIn_map Happening.session (fun _ => rfl) trace

/-! ### Results -/

section Results

variable {α β : Type}

/-- Failures that are the same but for lookup errors that are akin. -/
inductive Failure.Akin (akin : LookupError → LookupError → Prop) : Failure → Failure → Prop
  | same (failure : Failure) : Failure.Akin akin failure failure
  | lookup {error error' : LookupError} :
      akin error error' → Failure.Akin akin (.lookup error) (.lookup error')

/-- Results that are both values, related ones, or both failures, akin ones. -/
inductive ResultsAgree (akin : LookupError → LookupError → Prop) (values : α → β → Prop) :
    Except Failure α → Except Failure β → Prop
  | ok {a : α} {b : β} : values a b → ResultsAgree akin values (.ok a) (.ok b)
  | error {failure failure' : Failure} :
      failure.Akin akin failure' → ResultsAgree akin values (.error failure) (.error failure')

theorem ResultsAgree.of_forall {akin : LookupError → LookupError → Prop} {values : α → α → Prop}
    (hvalues : ∀ a, values a a) (result : Except Failure α) :
    ResultsAgree akin values result result := by
  cases result with
  | ok a => exact .ok (hvalues a)
  | error failure => exact .error (.same failure)

theorem ResultsAgree.refl {akin : LookupError → LookupError → Prop} (result : Except Failure α) :
    ResultsAgree akin Eq result result :=
  .of_forall (fun _ => rfl) result

theorem ResultsAgree.imp {akin : LookupError → LookupError → Prop} {values values' : α → β → Prop}
    {result : Except Failure α} {result' : Except Failure β}
    (h : ResultsAgree akin values result result') (hvalues : ∀ a b, values a b → values' a b) :
    ResultsAgree akin values' result result' := by
  cases h with
  | ok hab => exact .ok (hvalues _ _ hab)
  | error hfailure => exact .error hfailure

theorem ResultsAgree.map {akin : LookupError → LookupError → Prop}
    {result result' : Except Failure α} (h : ResultsAgree akin Eq result result') (f : α → β) :
    ResultsAgree akin Eq (result.map f) (result'.map f) := by
  cases h with
  | ok hab => exact .ok (congrArg f hab)
  | error hfailure => exact .error hfailure

/-- If only equal errors are akin, then so are only equal failures. -/
theorem Failure.Akin.eq {failure failure' : Failure} (h : failure.Akin Eq failure') :
    failure = failure' := by
  cases h with
  | same => rfl
  | lookup herror => rw [herror]

/-- If moreover only equal values are related, results that agree are equal. -/
theorem ResultsAgree.eq {values : α → α → Prop} {result result' : Except Failure α}
    (h : ResultsAgree Eq values result result') (hvalues : ∀ a b, values a b → a = b) :
    result = result' := by
  cases h with
  | ok hab => rw [hvalues _ _ hab]
  | error hfailure => rw [hfailure.eq]

end Results

/-! ### Steps -/

section Steps

variable {σ κ τ υ α β : Type} [Requesting τ] [Requesting υ]

/-- Outcomes that agree. -/
structure Outcome.Agrees (akin : LookupError → LookupError → Prop) (states : σ → σ → Prop)
    (values : α → α → Prop) (done done' : Outcome σ τ α) : Prop where
  result : ResultsAgree akin values done.result done'.result
  state : states done.state done'.state
  requests : requestsIn done.trace = requestsIn done'.trace

/-- Outcomes that agree still do so if happenings with the same requests came before. -/
theorem Outcome.Agrees.after {akin : LookupError → LookupError → Prop} {states : σ → σ → Prop}
    {values : α → α → Prop} {done done' : Outcome σ τ α}
    (h : done.Agrees akin states values done') {trace trace' : List τ}
    (htrace : requestsIn trace = requestsIn trace') :
    Outcome.Agrees akin states values ⟨done.result, done.state, trace ++ done.trace⟩
      ⟨done'.result, done'.state, trace' ++ done'.trace⟩ where
  result := h.result
  state := h.state
  requests := by rw [requestsIn_append, requestsIn_append, htrace, h.requests]

/-- Steps whose outcomes agree, from related states on. -/
def Step.Agree (akin : LookupError → LookupError → Prop) (states : σ → σ → Prop)
    (values : α → α → Prop) (x x' : Step σ τ α) : Prop :=
  ∀ s s', states s s' → (x s).Agrees akin states values (x' s')

/-- States with the same cursor. -/
def Held (states : σ → σ → Prop) (w w' : κ × σ) : Prop :=
  w.1 = w'.1 ∧ states w.2 w'.2

namespace Step.Agree

variable {akin : LookupError → LookupError → Prop} {states : σ → σ → Prop}
  {values : α → α → Prop} {values' : β → β → Prop}

theorem pure {a a' : α} (h : values a a') :
    Step.Agree akin states values (pure a : Step σ τ α) (pure a') :=
  fun _ _ hs => ⟨.ok h, hs, rfl⟩

theorem ofExcept {result result' : Except Failure α} (h : ResultsAgree akin values result result') :
    Step.Agree akin states values (Step.ofExcept result : Step σ τ α) (Step.ofExcept result') :=
  fun _ _ hs => ⟨h, hs, rfl⟩

/-- Telling of the same request, or of none. -/
theorem tell {t t' : τ} (h : Requesting.request? t = Requesting.request? t') :
    Step.Agree akin states Eq (Step.tell t) (Step.tell t') :=
  fun _ _ hs => ⟨.ok rfl, hs, by simp only [Step.tell, requestsIn, List.filterMap_cons, h]⟩

theorem log (event event' : LookupLog) :
    Step.Agree akin states Eq (Step.log event) (Step.log event') :=
  tell rfl

theorem exists_outcome {x x' : Step σ τ α} (hx : Step.Agree akin states values x x') {s s' t : σ}
    (hs : states s s') {result : Except Failure α} {trace : List τ}
    (hdone : x s = ⟨result, t, trace⟩) :
    ∃ result' t' trace', x' s' = ⟨result', t', trace'⟩ ∧ ResultsAgree akin values result result'
      ∧ states t t' ∧ requestsIn trace = requestsIn trace' := by
  obtain ⟨hresult, hstate, hrequests⟩ := hx s s' hs
  rw [hdone] at hresult hstate hrequests
  exact ⟨_, _, _, rfl, hresult, hstate, hrequests⟩

theorem bind {x x' : Step σ τ α} {f f' : α → Step σ τ β} (hx : Step.Agree akin states values x x')
    (hf : ∀ a a', values a a' → Step.Agree akin states values' (f a) (f' a')) :
    Step.Agree akin states values' (x >>= f) (x' >>= f') := by
  intro s s' hs
  rcases hdone : x s with ⟨result, t, trace⟩
  obtain ⟨result', t', trace', hdone', hresult, hstate, hrequests⟩ := hx.exists_outcome hs hdone
  -- Both go on, from values and states that are related, or both have failed.
  cases hresult with
  | ok ha =>
    rw [Step.bind_of_ok hdone, Step.bind_of_ok hdone']
    exact (hf _ _ ha t t' hstate).after hrequests
  | error hfailure =>
    rw [Step.bind_of_error hdone, Step.bind_of_error hdone']
    exact ⟨.error hfailure, hstate, hrequests⟩

theorem attempt {x x' : Step σ τ α} (hx : Step.Agree akin states values x x') :
    Step.Agree akin states (ResultsAgree akin values) x.attempt x'.attempt := by
  intro s s' hs
  obtain ⟨hresult, hstate, hrequests⟩ := hx s s' hs
  exact ⟨.ok hresult, hstate, hrequests⟩

/-- A last step is run on both exits. -/
theorem ensuring {x x' : Step σ τ α} {last last' : Step σ τ Unit}
    (hx : Step.Agree akin states values x x') (hlast : Step.Agree akin states Eq last last') :
    Step.Agree akin states values (x.ensuring last) (x'.ensuring last') :=
  .bind hx.attempt fun _ _ hresult => .bind hlast fun _ _ _ => .ofExcept hresult

/-- A step that is told in other terms. -/
theorem relay (f : τ → υ) (hf : ∀ t, Requesting.request? (f t) = Requesting.request? t)
    {x x' : Step σ τ α} (hx : Step.Agree akin states values x x') :
    Step.Agree akin states values (x.relay f) (x'.relay f) := by
  intro s s' hs
  obtain ⟨hresult, hstate, hrequests⟩ := hx s s' hs
  refine ⟨hresult, hstate, ?_⟩
  simp only [Step.relay, requestsIn_map f hf, hrequests]

theorem holding {x x' : Step (κ × σ) τ α} (hx : Step.Agree akin (Held states) values x x')
    (cursor : κ) :
    Step.Agree akin states values (Step.holding cursor x) (Step.holding cursor x') := by
  intro s s' hs
  obtain ⟨hresult, hstate, hrequests⟩ := hx (cursor, s) (cursor, s') ⟨rfl, hs⟩
  exact ⟨hresult, hstate.2, hrequests⟩

end Step.Agree

end Steps

/-! ### Sessions -/

namespace Session

variable {σ κ α : Type}

/-- A session whose calls agree from related states of the directory on. -/
structure Respects (session : Session σ κ) (akin : LookupError → LookupError → Prop)
    (states : σ → σ → Prop) : Prop where
  search : ∀ query, Step.Agree akin states Eq (session.search query) (session.search query)
  next : Step.Agree akin (Held states) Eq session.next session.next
  close : Step.Agree akin (Held states) Eq session.close session.close
  release : Step.Agree akin (Held states) Eq session.release session.release

variable {session : Session σ κ} {akin : LookupError → LookupError → Prop} {states : σ → σ → Prop}

theorem agree_relay {ρ : Type} {related : ρ → ρ → Prop} {x x' : Step ρ SessionEvent α}
    (h : Step.Agree akin related Eq x x') :
    Step.Agree akin related Eq (x.relay Happening.session) (x'.relay Happening.session) :=
  h.relay Happening.session fun _ => rfl

theorem agree_ask (h : session.Respects akin states) (query : Query) :
    Step.Agree akin states Eq (session.ask query) (session.ask query) :=
  .bind (.tell rfl) fun _ _ _ => agree_relay (h.search query)

theorem agree_withCursor (h : session.Respects akin states) (query : Query)
    {x x' : Step (κ × σ) Happening α} (hx : Step.Agree akin (Held states) Eq x x') :
    Step.Agree akin states Eq (session.withCursor query x) (session.withCursor query x') := by
  refine .bind (agree_ask h query) fun cursor cursor' hcursor => ?_
  rw [hcursor]
  exact .holding (.ensuring hx (agree_relay h.close)) cursor'

theorem agree_first (h : session.Respects akin states) (query : Query) :
    Step.Agree akin states Eq (session.first query) (session.first query) :=
  agree_withCursor h query (agree_relay h.next)

theorem agree_forEach (h : session.Respects akin states) (read : Entry → Except Failure α)
    (report : α → List Happening) :
    Step.Agree akin (Held states) Eq (session.forEach read report)
      (session.forEach read report) := by
  -- The cases are those of the loop on the one side; the call on the other side ends alike.
  intro w
  induction w using Session.forEach.induct session read report with
  | case1 w failure v trace hnext =>
    intro w' hw
    obtain ⟨result', v', trace', hnext', hresult, hstate, hrequests⟩ :=
      h.next.exists_outcome hw hnext
    rcases hresult with - | hfailure
    rw [forEach_of_error hnext, forEach_of_error hnext']
    refine ⟨.error hfailure, hstate, ?_⟩
    rwa [requestsIn_session, requestsIn_session]
  | case2 w v trace hnext =>
    intro w' hw
    obtain ⟨result', v', trace', hnext', hresult, hstate, hrequests⟩ :=
      h.next.exists_outcome hw hnext
    rcases hresult with rfl | -
    rw [forEach_of_none hnext, forEach_of_none hnext']
    refine ⟨.ok rfl, hstate, ?_⟩
    rwa [requestsIn_session, requestsIn_session]
  | case3 w entry v trace hnext failure hread =>
    intro w' hw
    obtain ⟨result', v', trace', hnext', hresult, hstate, hrequests⟩ :=
      h.next.exists_outcome hw hnext
    rcases hresult with rfl | -
    rw [forEach_of_unreadable hnext hread, forEach_of_unreadable hnext' hread]
    -- The entry is the same on both sides, and so is the reason why it cannot be read.
    refine ⟨.error (.same failure), hstate, ?_⟩
    rwa [requestsIn_session, requestsIn_session]
  | case4 w entry v trace hnext a hread ih =>
    intro w' hw
    obtain ⟨result', v', trace', hnext', hresult, hstate, hrequests⟩ :=
      h.next.exists_outcome hw hnext
    rcases hresult with rfl | -
    obtain ⟨hrest, hstate', hrequests'⟩ := ih v' hstate
    rw [forEach_of_some hnext hread, forEach_of_some hnext' hread]
    refine ⟨hrest.map (a :: ·), hstate', ?_⟩
    simp only [requestsIn_append, requestsIn_session]
    rw [hrequests, hrequests']

theorem agree_all (h : session.Respects akin states) (query : Query)
    (read : Entry → Except Failure α) (report : α → List Happening) :
    Step.Agree akin states Eq (session.all query read report) (session.all query read report) :=
  agree_withCursor h query (agree_forEach h read report)

end Session

end DirectoryGroups
