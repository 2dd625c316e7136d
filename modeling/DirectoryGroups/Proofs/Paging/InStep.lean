/-
DirectoryGroups/Proofs/Paging/InStep.lean

Paged sessions that go in step.

Two paged sessions go in step if, from connections that correspond, they take pages that are
related: with the same cookie, and with items of which the ones are entries just if the others
are (`Paging.InStep`).  Their cursors then go in step as well, from page to page
(`InStep.resume`).  What corresponds and what is related is up to the use, and so is how the
requests of the one session are read off from those of the other.

Main result: the calls of cursors that stand at the same place end alike (`InStep.next`).
-/
import DirectoryGroups.Proofs.Results
import DirectoryGroups.Proofs.Session.Agreement

namespace DirectoryGroups

/-! ### Outcomes -/

section Outcomes

variable {σ σ' α α' : Type}

/-- The second outcome follows the first: results agree, states are related, and the requests
are those of the first, each sent in another way. -/
structure Outcome.Follows (akin : LookupError → LookupError → Prop) (states : σ → σ' → Prop)
    (values : α → α' → Prop) (sent : Request → Request) (done : Outcome σ SessionEvent α)
    (done' : Outcome σ' SessionEvent α') : Prop where
  result : ResultsAgree akin values done.result done'.result
  state : states done.state done'.state
  requests : requestsOf done'.trace = (requestsOf done.trace).map sent

namespace Outcome.Follows

variable {akin : LookupError → LookupError → Prop} {states : σ → σ' → Prop}
  {values : α → α' → Prop} {sent : Request → Request} {done : Outcome σ SessionEvent α}
  {done' : Outcome σ' SessionEvent α'}

/-- It still does so if requests that follow one another came before. -/
theorem after (h : done.Follows akin states values sent done') {trace trace' : List SessionEvent}
    (htrace : requestsOf trace' = (requestsOf trace).map sent) :
    Outcome.Follows akin states values sent ⟨done.result, done.state, trace ++ done.trace⟩
      ⟨done'.result, done'.state, trace' ++ done'.trace⟩ where
  result := h.result
  state := h.state
  requests := by rw [requestsOf_append, requestsOf_append, List.map_append, htrace, h.requests]

/-- The second outcome, if the first is known. -/
theorem exists_outcome (h : done.Follows akin states values sent done')
    {result : Except Failure α} {s : σ} {trace : List SessionEvent}
    (hdone : done = ⟨result, s, trace⟩) :
    ∃ result' s' trace', done' = ⟨result', s', trace'⟩ ∧ ResultsAgree akin values result result'
      ∧ states s s' ∧ requestsOf trace' = (requestsOf trace).map sent := by
  subst hdone
  exact ⟨_, _, _, rfl, h.result, h.state, h.requests⟩

end Outcome.Follows

end Outcomes

/-! ### Pages and cursors -/

/-- The answers have related items and the same cookie. -/
structure Answer.Related (items : Item → Item → Prop) (answer answer' : Answer) : Prop where
  items : List.Forall₂ items answer.itemList answer'.itemList
  cookie : answer'.cookie = answer.cookie

theorem Answer.Related.refl (answer : Answer) : answer.Related Eq answer :=
  ⟨List.forall₂_same.mpr fun _ _ => rfl, rfl⟩

/-- The cursors stand at the same place, with related items left. -/
inductive PagedCursor.Related (items : Item → Item → Prop) : PagedCursor → PagedCursor → Prop
  | fresh (query : Query) : PagedCursor.Related items (.fresh query) (.fresh query)
  | reading {query : Query} {left left' : List Item} {cookie : Option (List UInt8)} :
      List.Forall₂ items left left' →
      PagedCursor.Related items (.reading query left cookie) (.reading query left' cookie)
  | ended : PagedCursor.Related items .ended .ended

/-- With the same items left they are the same. -/
theorem PagedCursor.related_eq_iff {cursor cursor' : PagedCursor} :
    cursor.Related Eq cursor' ↔ cursor = cursor' := by
  constructor
  · rintro (_ | hleft | _)
    · rfl
    · rw [List.forall₂_eq_eq_eq] at hleft
      rw [hleft]
    · rfl
  · rintro rfl
    cases cursor with
    | fresh query => exact .fresh query
    | reading query left cookie => exact .reading (List.forall₂_same.mpr fun _ _ => rfl)
    | ended => exact .ended

/-- Cursors that stand at the same place, on connections that correspond. -/
def PagedCursor.RelatedOn (items : Item → Item → Prop)
    (connections : Connection → Connection → Prop) (w w' : PagedCursor × Connection) : Prop :=
  w.1.Related items w'.1 ∧ connections w.2 w'.2

namespace Paging

/-! ### Calls -/

section Calls

variable {paging : Paging} {query : Query} {items : List Item} {connection connection' : Connection}
  {trace : List SessionEvent}

theorem resume_of_entry {rest : List Item} {entry : Entry}
    (h : nextEntry items = some (entry, rest)) (cookie : Option (List UInt8)) :
    paging.resume query items cookie connection
      = ⟨.ok (some entry), (.reading query rest cookie, connection), []⟩ := by
  rw [resume.eq_def]
  split <;> simp_all

theorem resume_of_last (h : nextEntry items = none) :
    paging.resume query items none connection = ⟨.ok none, (.ended, connection), []⟩ := by
  rw [resume]
  split <;> simp_all

theorem resume_of_error (h : nextEntry items = none) {place : List UInt8} {failure : Failure}
    (htake : paging.take query (some place) connection = ⟨.error failure, connection', trace⟩) :
    paging.resume query items (some place) connection
      = ⟨.error failure, (.ended, connection'), .logged (.nextPage query.base) :: trace⟩ := by
  rw [resume]
  split <;> simp_all
  split <;> simp_all

theorem resume_of_answer (h : nextEntry items = none) {place : List UInt8} {answer : Answer}
    (htake : paging.take query (some place) connection = ⟨.ok answer, connection', trace⟩) :
    paging.resume query items (some place) connection
      = ⟨(paging.resume query answer.itemList answer.cookie connection').result,
          (paging.resume query answer.itemList answer.cookie connection').state,
          (.logged (.nextPage query.base) :: trace)
            ++ (paging.resume query answer.itemList answer.cookie connection').trace⟩ := by
  rw [resume]
  split <;> simp_all
  split <;> simp_all

/-- What is logged when a search begins. -/
def start (paging : Paging) (query : Query) : SessionEvent :=
  .logged (.searching query.base query.filter (requested query) paging.pageSize)

theorem next_of_error {failure : Failure}
    (htake : paging.take query none connection = ⟨.error failure, connection', trace⟩) :
    paging.next (.fresh query, connection)
      = ⟨.error failure, (.ended, connection'), paging.start query :: trace⟩ := by
  simp only [next, htake, start]

theorem next_of_answer {answer : Answer}
    (htake : paging.take query none connection = ⟨.ok answer, connection', trace⟩) :
    paging.next (.fresh query, connection)
      = ⟨(paging.resume query answer.itemList answer.cookie connection').result,
          (paging.resume query answer.itemList answer.cookie connection').state,
          (paging.start query :: trace)
            ++ (paging.resume query answer.itemList answer.cookie connection').trace⟩ := by
  simp only [next, htake, start, List.cons_append]

end Calls

/-! ### Sessions -/

/-- `paging.InStep paging' akin items entries connections sent`: the second session takes pages
from connections that correspond as the first one does. -/
structure InStep (paging paging' : Paging) (akin : LookupError → LookupError → Prop)
    (items : Item → Item → Prop) (entries : Entry → Entry → Prop)
    (connections : Connection → Connection → Prop) (sent : Request → Request) : Prop where
  take : ∀ (query : Query) (cookie : Option (List UInt8)) {connection connection'},
    connections connection connection' →
    (paging.take query cookie connection).Follows akin connections (Answer.Related items) sent
      (paging'.take query cookie connection')
  /-- Related items are entries alike. -/
  entry : ∀ {item item'}, items item item' → Option.Rel entries item.entry? item'.entry?

namespace InStep

variable {paging paging' : Paging} {akin : LookupError → LookupError → Prop}
  {items : Item → Item → Prop} {entries : Entry → Entry → Prop}
  {connections : Connection → Connection → Prop} {sent : Request → Request}

theorem nextEntry (h : InStep paging paging' akin items entries connections sent)
    {left left' : List Item} (hleft : List.Forall₂ items left left') :
    Option.Rel (fun found found' => entries found.1 found'.1 ∧ List.Forall₂ items found.2 found'.2)
      (Paging.nextEntry left) (Paging.nextEntry left') := by
  induction hleft with
  | nil => exact .none
  | cons hitem hrest ih =>
    have hentry := h.entry hitem
    unfold Paging.nextEntry
    generalize Item.entry? _ = found at *
    generalize Item.entry? _ = found' at *
    -- The first items are both entries, or both are passed over.
    cases hentry with
    | some hentry => exact .some ⟨hentry, hrest⟩
    | none => exact ih

theorem nextEntry_eq_none (h : InStep paging paging' akin items entries connections sent)
    {left left' : List Item} (hleft : List.Forall₂ items left left')
    (hnext : Paging.nextEntry left = none) : Paging.nextEntry left' = none := by
  have hfound := h.nextEntry hleft
  rw [hnext] at hfound
  generalize Paging.nextEntry left' = found' at *
  cases hfound
  rfl

/-- A cursor within a page goes on alike. -/
theorem resume (h : InStep paging paging' akin items entries connections sent) (query : Query)
    (left : List Item) (cookie : Option (List UInt8)) (connection : Connection)
    {left' : List Item} {connection' : Connection} (hleft : List.Forall₂ items left left')
    (hconnections : connections connection connection') :
    (paging.resume query left cookie connection).Follows akin
      (PagedCursor.RelatedOn items connections) (Option.Rel entries) sent
      (paging'.resume query left' cookie connection') := by
  -- By induction on the pages that the call takes on the one side.
  induction left, cookie, connection using resume.induct paging query
    generalizing left' connection' with
  | case1 left cookie connection entry rest hnext =>
    have hfound := h.nextEntry hleft
    rw [hnext] at hfound
    generalize hnext' : Paging.nextEntry left' = found' at hfound
    rcases hfound with ⟨hentry, hrest⟩ | -
    rw [resume_of_entry hnext, resume_of_entry hnext']
    exact ⟨.ok (.some hentry), ⟨.reading hrest, hconnections⟩, rfl⟩
  | case2 left connection hnext =>
    rw [resume_of_last hnext, resume_of_last (h.nextEntry_eq_none hleft hnext)]
    exact ⟨.ok .none, ⟨.ended, hconnections⟩, rfl⟩
  | case3 left connection hnext place failure after trace htake =>
    obtain ⟨result', after', trace', htake', hresult, hafter, hrequests⟩ :=
      (h.take query (some place) hconnections).exists_outcome htake
    -- A page that fails on the one side fails on the other, too.
    rcases hresult with - | hfailure
    rw [resume_of_error hnext htake, resume_of_error (h.nextEntry_eq_none hleft hnext) htake']
    exact ⟨.error hfailure, ⟨.ended, hafter⟩, hrequests⟩
  | case4 left connection hnext place answer after trace htake ih =>
    obtain ⟨result', after', trace', htake', hresult, hafter, hrequests⟩ :=
      (h.take query (some place) hconnections).exists_outcome htake
    rcases hresult with ⟨hitems, hcookie⟩ | -
    rw [resume_of_answer hnext htake, resume_of_answer (h.nextEntry_eq_none hleft hnext) htake',
      hcookie]
    exact (ih hitems hafter).after hrequests

/-- **A cursor goes on alike, wherever it stands.** -/
theorem next (h : InStep paging paging' akin items entries connections sent)
    {w w' : PagedCursor × Connection} (hw : PagedCursor.RelatedOn items connections w w') :
    (paging.next w).Follows akin (PagedCursor.RelatedOn items connections) (Option.Rel entries)
      sent (paging'.next w') := by
  obtain ⟨cursor, connection⟩ := w
  obtain ⟨cursor', connection'⟩ := w'
  obtain ⟨hcursor, hconnections⟩ := hw
  simp only at hcursor hconnections
  cases hcursor with
  | fresh query =>
    rcases htake : paging.take query none connection with ⟨failure | answer, after, trace⟩
    · obtain ⟨result', after', trace', htake', hresult, hafter, hrequests⟩ :=
        (h.take query none hconnections).exists_outcome htake
      rcases hresult with - | hfailure
      rw [next_of_error htake, next_of_error htake']
      exact ⟨.error hfailure, ⟨.ended, hafter⟩, hrequests⟩
    · obtain ⟨result', after', trace', htake', hresult, hafter, hrequests⟩ :=
        (h.take query none hconnections).exists_outcome htake
      rcases hresult with ⟨hitems, hcookie⟩ | -
      rw [next_of_answer htake, next_of_answer htake', hcookie]
      exact (h.resume query _ _ after hitems hafter).after hrequests
  | reading hleft => exact h.resume _ _ _ connection hleft hconnections
  | ended => exact ⟨.ok .none, ⟨.ended, hconnections⟩, rfl⟩

/-- If only the connections differ, then a cursor is left in the same place with the same answer. -/
theorem next_of_eq (h : InStep paging paging' akin Eq Eq connections sent)
    {w w' : PagedCursor × Connection} (hw : Held connections w w') :
    (paging.next w).Follows akin (Held connections) Eq sent (paging'.next w') := by
  have hcursor : w.1.Related Eq w'.1 := PagedCursor.related_eq_iff.mpr hw.1
  obtain ⟨hresult, ⟨hafter, hconnections⟩, hrequests⟩ := h.next ⟨hcursor, hw.2⟩
  refine ⟨hresult.imp ?_, ⟨PagedCursor.related_eq_iff.mp hafter, hconnections⟩, hrequests⟩
  rintro _ _ (⟨rfl⟩ | -) <;> rfl

end InStep

end Paging

end DirectoryGroups
