/-
DirectoryGroups/Proofs/Paging/Agreement.lean

Scripts that a paged session cannot tell apart.

Two pages are alike if they bring the same answer, or if they fail with errors that are akin;
in which way they come is left open (`Page.Alike`).  A request that is answered by either of
them ends alike (`inStep_of_alike`), and so does the call of a cursor (`agree_next`).

Main result: `respects_of_alike`.
-/
import DirectoryGroups.Proofs.Paging.InStep

namespace DirectoryGroups

/-! ### Pages that are alike -/

/-- Pages that bring the same answer, or fail with errors that are akin. -/
inductive Page.Alike (akin : LookupError → LookupError → Prop) : Page → Page → Prop
  | sound {page page' : Page} : page.fault? = none → page'.fault? = none →
      page.answer = page'.answer → Page.Alike akin page page'
  | faulty {page page' : Page} {fault fault' : PageFault} :
      page.fault? = some fault → page'.fault? = some fault' →
      (∀ base, (fault.failure base).Akin akin (fault'.failure base)) → Page.Alike akin page page'

/-- Connections whose scripts are related page by page. -/
def Connection.Related (pages : Page → Page → Prop) (connection connection' : Connection) : Prop :=
  List.Forall₂ pages connection.script connection'.script

namespace Connection

variable {pages : Page → Page → Prop} {connection connection' : Connection}

/-- The pages that are up next are related; past the end of a script they are empty. -/
theorem Related.upcoming (h : Related pages connection connection') (hempty : pages {} {}) :
    pages connection.upcoming connection'.upcoming := by
  rcases connection with ⟨script, held, awaited⟩
  rcases connection' with ⟨script', held', awaited'⟩
  cases h with
  | nil => exact hempty
  | cons hpage hrest => exact hpage

theorem Related.tail (h : Related pages connection connection') :
    List.Forall₂ pages connection.script.tail connection'.script.tail := by
  rcases connection with ⟨script, held, awaited⟩
  rcases connection' with ⟨script', held', awaited'⟩
  cases h with
  | nil => exact .nil
  | cons hpage hrest => exact hrest

end Connection

namespace Paging

variable {akin : LookupError → LookupError → Prop} {pages : Page → Page → Prop}

/-- If a page is taken alike from related scripts, then it leaves related scripts, and there was
the same request. -/
theorem follows_take {paging : Paging} {query : Query} {cookie : Option (List UInt8)}
    {items : Item → Item → Prop} {connection connection' : Connection}
    (hscripts : Connection.Related pages connection connection')
    (hresult : ResultsAgree akin (Answer.Related items)
      (paging.take query cookie connection).result (paging.take query cookie connection').result) :
    (paging.take query cookie connection).Follows akin (Connection.Related pages)
      (Answer.Related items) id (paging.take query cookie connection') := by
  obtain ⟨-, hscript, hrequests⟩ := take_spec paging query cookie connection
  obtain ⟨-, hscript', hrequests'⟩ := take_spec paging query cookie connection'
  refine ⟨hresult, ?_, by rw [hrequests, hrequests', List.map_id]⟩
  rw [Connection.Related, hscript, hscript']
  exact hscripts.tail

/-- A paged session goes in step with itself on scripts whose pages are alike: how a page is taken
hangs on the pages that are up next. -/
theorem inStep_of_alike (hempty : pages {} {}) (halike : ∀ page page', pages page page' →
    page.Alike akin page') (paging : Paging) :
    InStep paging paging akin Eq Eq (Connection.Related pages) id where
  take query cookie connection connection' hscripts := by
    refine follows_take hscripts ?_
    rw [(take_spec ..).1, (take_spec ..).1]
    -- The pages that are up next are both sound, or they both fail.
    rcases halike _ _ (hscripts.upcoming hempty) with ⟨h, h', hanswer⟩ | ⟨h, h', hfailure⟩
    · rw [h, h', hanswer]
      exact .ok (.refl _)
    · rw [h, h']
      exact .error (hfailure query.base)
  entry hitem := optionRel_of_eq (congrArg _ hitem)

/-- A cursor gives its next entry alike on alike scripts, wherever it stands. -/
theorem agree_next (hempty : pages {} {}) (halike : ∀ page page', pages page page' →
    page.Alike akin page') (paging : Paging) :
    Step.Agree akin (Held (Connection.Related pages)) Eq paging.next paging.next := by
  intro w w' hw
  obtain ⟨hresult, hstate, hrequests⟩ := (inStep_of_alike hempty halike paging).next_of_eq hw
  exact ⟨hresult, hstate, (hrequests.trans (List.map_id _)).symm⟩

/-- **A paged session cannot tell scripts apart whose pages are alike.** -/
theorem respects_of_alike (hempty : pages {} {}) (halike : ∀ page page', pages page page' →
    page.Alike akin page') (paging : Paging) :
    paging.session.Respects akin (Connection.Related pages) where
  search _ := .pure rfl
  next := agree_next hempty halike paging
  close := fun _ _ hstates => ⟨.ok rfl, ⟨rfl, hstates.2⟩, rfl⟩
  release := .pure rfl

end Paging

end DirectoryGroups
