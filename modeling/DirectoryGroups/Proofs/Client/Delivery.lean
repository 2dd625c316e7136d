/-
DirectoryGroups/Proofs/Client/Delivery.lean

The way in which a connection delivers its pages does not matter.

An answer comes at once or has to be fetched; the connection calls it a success or not; an
error is raised by the request or by the fetching of its answer (`Page.Redelivered`).  And
a code other than success is either read off the result or raised as an operation error
(`Page.Restated`).  In each case the pages are alike, and a paged session cannot tell them
apart, nor can anything that uses the session.

Main result: `delivery_does_not_matter`.
-/
import DirectoryGroups.Proofs.Client.Agreement
import DirectoryGroups.Proofs.Lookup.Report
import DirectoryGroups.Proofs.Paging.Agreement

namespace DirectoryGroups

/-! ### Ways of delivery -/

/-- `page.Redelivered page'`: the page comes in another way, with the same outcome. -/
inductive Page.Redelivered : Page → Page → Prop
  | same (page : Page) : Page.Redelivered page page
  /-- The answer that comes at once is called a success, or no success. -/
  | called {page : Page} {success : Bool} (success' : Bool) :
      page.delivery = .immediate success →
      Page.Redelivered page { page with delivery := .immediate success' }
  /-- The answer has to be fetched. -/
  | fetched {page : Page} {success : Bool} (id : Int) :
      page.delivery = .immediate success →
      Page.Redelivered page { page with delivery := .deferred id, lateRefusal := none }
  /-- The error is raised only when the answer is fetched. -/
  | raisedLate {page : Page} {failure : Failure} (id : Int) :
      page.refusal = some failure →
      Page.Redelivered page
        { page with refusal := none, delivery := .deferred id, lateRefusal := some failure }

/-- `page.Restated page'`: the page has a result code other than success, and in its
place an operation error with this code is raised. -/
def Page.Restated (page page' : Page) : Prop :=
  ∃ (result : SearchResult) (error : OperationResult),
    page.raised? = none ∧ page.answer.result = some result ∧ result.code ≠ some 0
      ∧ page'.raised? = some (.protocol (.operation error)) ∧ error.code = result.code

/-- Errors of the same kind and with the same code. -/
def LookupError.SameCode (error error' : LookupError) : Prop :=
  error.kind = error'.kind ∧ error.code = error'.code

namespace Page

variable {page page' : Page}

theorem Redelivered.raised?_eq (h : page.Redelivered page') : page'.raised? = page.raised? := by
  rcases page with ⟨refusal, delivery, late, answer⟩
  cases h with
  | same => rfl
  | called success' hdelivery =>
    cases hdelivery
    cases refusal <;> rfl
  | fetched id hdelivery =>
    cases hdelivery
    cases refusal <;> rfl
  | raisedLate id hrefusal =>
    cases hrefusal
    rfl

theorem Redelivered.answer_eq (h : page.Redelivered page') : page'.answer = page.answer := by
  cases h <;> rfl

/-- A page that comes in another way is alike, whatever errors are akin. -/
theorem Redelivered.alike (h : page.Redelivered page') (akin : LookupError → LookupError → Prop) :
    page.Alike akin page' := by
  have hfault : page'.fault? = page.fault? := by
    rw [fault?, fault?, h.raised?_eq, h.answer_eq]
  rcases hpage : page.fault? with - | fault
  · exact .sound hpage (hfault.trans hpage) h.answer_eq.symm
  · exact .faulty hpage (hfault.trans hpage) fun _ => .same _

/-- A code that is raised instead is alike, but for the wording of the error. -/
theorem Restated.alike (h : page.Restated page') : page.Alike LookupError.SameCode page' := by
  obtain ⟨result, error, hsound, hresult, hcode, hraised, herror⟩ := h
  have hfault : page.fault? = some (.refused result.code result.description) := by
    simp [fault?, hsound, hresult, hcode]
  have hfault' : page'.fault? = some (.raised (.protocol (.operation error))) := by
    simp [fault?, hraised]
  exact .faulty hfault hfault' fun base => .lookup ⟨rfl, herror.symm⟩

end Page

theorem Reply.Akin.eq {reply reply' : Reply} (h : Reply.Akin Eq reply reply') : reply = reply' := by
  rcases h with - | ⟨- | herror⟩
  · rfl
  · rfl
  · rw [herror]

/-! ### Runs -/

namespace Paging

/-- **The way in which pages are delivered does not matter.**

Let two clients of a paged session begin with the same service and the same cursors, go
through the same commands, and differ in the scripts of their connections.  If the pages
come in other ways, with the same outcomes, every command has the same result, be it a
reply or an error, and sends the same requests.  If in addition some result codes other
than success are raised as operation errors instead, the requests are still the same, and
so are the results, but for lookup errors, which keep their kind and their code.

The commands must not tell the connections apart by other means than the session; those
that neither change the connection itself nor come with a resolver never do. -/
theorem delivery_does_not_matter (paging : Paging) (commands : List (Command Connection))
    (client client' : Client Connection PagedCursor)
    (hservice : client.world.service = client'.world.service)
    (hcursors : client.cursors = client'.cursors) :
    let pages := client.world.directory.script
    let pages' := client'.world.directory.script
    let runs := Client.runAll paging.session commands client
    let runs' := Client.runAll paging.session commands client'
    let restated : Page → Page → Prop := fun page page' =>
      page.Redelivered page' ∨ page.Restated page'
    ((∀ command ∈ commands, command.Impartial Eq (Connection.Related Page.Redelivered)) →
        List.Forall₂ Page.Redelivered pages pages' →
        List.Forall₂ (fun done done' => done.result = done'.result
          ∧ requestsTold done.trace = requestsTold done'.trace) runs runs')
      ∧ ((∀ command ∈ commands,
            command.Impartial LookupError.SameCode (Connection.Related restated)) →
          List.Forall₂ restated pages pages' →
          List.Forall₂ (fun done done' =>
            ResultsAgree LookupError.SameCode (Reply.Akin LookupError.SameCode)
                done.result done'.result
              ∧ requestsTold done.trace = requestsTold done'.trace) runs runs') := by
  intro pages pages' runs runs' restated
  constructor
  · -- The outcomes are the same, so all errors can be asked to be equal.
    intro himpartial hpages
    have hrespects : paging.session.Respects Eq (Connection.Related Page.Redelivered) :=
      respects_of_alike (.same {}) (fun _ _ h => h.alike Eq) paging
    refine (Client.agree_runAll hrespects himpartial ⟨⟨hservice, hpages⟩, hcursors⟩).imp ?_
    intro done done' hagrees
    exact ⟨hagrees.result.eq fun _ _ hakin => hakin.eq, hagrees.requests⟩
  · -- Where a code is raised, the error is worded differently; kind and code are kept.
    intro himpartial hpages
    have halike : ∀ page page', restated page page' → page.Alike LookupError.SameCode page' := by
      rintro page page' (h | h)
      · exact h.alike _
      · exact h.alike
    have hrespects :
        paging.session.Respects LookupError.SameCode (Connection.Related restated) :=
      respects_of_alike (.inl (.same {})) halike paging
    refine (Client.agree_runAll hrespects himpartial ⟨⟨hservice, hpages⟩, hcursors⟩).imp ?_
    intro done done' hagrees
    exact ⟨hagrees.result, hagrees.requests⟩

/-- A page that has to be fetched, an error that comes late, and a refusal that the
connection calls no success, or raises. -/
theorem delivery_does_not_matter_over_three_pages :
    let found : Page :=
      { answer :=
          { items := some [{ kind := some "searchResEntry", dn := some "cn=1" }]
            result := some { controls := [(SearchResult.pagedControl, some [1])] } } }
    let error : Failure := .protocol (.other "LDAPSocketReceiveError" "lost")
    let lost : Page := { refusal := some error }
    let lostLate : Page := { delivery := .deferred 8, lateRefusal := some error }
    let busy : Page := { answer := { result := some { code := some 51 } } }
    let raised : Page := { refusal := some (.protocol (.operation { code := some 51 })) }
    let pages := [found, lost, busy]
    let moved :=
      [{ found with delivery := .deferred 7 }, lostLate, { busy with delivery := .immediate false }]
    let restated := [found, lostLate, raised]
    let settings : Settings :=
      [("groupSearchBase", .text "ou=g"), ("userSearchBase", .text "ou=u")]
    let commands : List (Command Connection) :=
      [.search "a" { base := "ou=a", filter := "(cn=*)" }, .next "a", .next "a",
        .report settings "ada" (.supplied fun _ _ => pure (some ⟨[]⟩)) "wiki"]
    let clientOn (script : List Page) : Client Connection PagedCursor :=
      { world := { service := none, directory := { script } } }
    let runs := fun script => Client.runAll (Paging.session {}) commands (clientOn script)
    List.Forall₂ Page.Redelivered pages moved
      ∧ List.Forall₂ (fun page page' => page.Redelivered page' ∨ page.Restated page') pages restated
      ∧ List.Forall₂ (fun done done' => done.result = done'.result
          ∧ requestsTold done.trace = requestsTold done'.trace) (runs pages) (runs moved)
      ∧ List.Forall₂ (fun done done' =>
          ResultsAgree LookupError.SameCode (Reply.Akin LookupError.SameCode)
              done.result done'.result
            ∧ requestsTold done.trace = requestsTold done'.trace) (runs pages) (runs restated)
      ∧ ((runs restated).flatMap fun done => requestsTold done.trace).map Request.cookie
        = [none, some [1], none] := by
  intro found error lost lostLate busy raised pages moved restated settings commands clientOn runs
  have hmoved : List.Forall₂ Page.Redelivered pages moved :=
    .cons (.fetched 7 rfl) (.cons (.raisedLate 8 rfl) (.cons (.called false rfl) .nil))
  have hrestated : List.Forall₂ (fun page page' => page.Redelivered page' ∨ page.Restated page')
      pages restated := by
    refine .cons (.inl (.same found)) (.cons (.inl (.raisedLate 8 rfl)) (.cons (.inr ?_) .nil))
    -- The third page is the only one whose code is raised.
    exact ⟨{ code := some 51 }, { code := some 51 }, rfl, rfl, by decide, rfl, rfl⟩
  have himpartial : ∀ (akin : LookupError → LookupError → Prop) (related : Page → Page → Prop),
      ∀ command ∈ commands, command.Impartial akin (Connection.Related related) := by
    intro akin related
    simp only [commands, List.forall_mem_cons]
    exact ⟨trivial, trivial, trivial,
      Resolver.impartial_of_aloof fun _ _ => ⟨_, _, fun _ => rfl⟩, by simp⟩
  obtain ⟨hsame, -⟩ :=
    delivery_does_not_matter {} commands (clientOn pages) (clientOn moved) rfl rfl
  obtain ⟨-, hakin⟩ :=
    delivery_does_not_matter {} commands (clientOn pages) (clientOn restated) rfl rfl
  exact ⟨hmoved, hrestated, hsame (himpartial _ _) hmoved, hakin (himpartial _ _) hrestated,
    by decide +kernel⟩

end Paging

end DirectoryGroups
