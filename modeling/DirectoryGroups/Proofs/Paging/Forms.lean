/-
DirectoryGroups/Proofs/Paging/Forms.lean

Pages whose entries are delivered in other forms.

Two pages are the same but for form if they come in the same way and with the same result, and if
their items differ in nothing but the form of their values (`Page.SameButForm`).  Such pages are
taken alike (`Paging.inStep_of_forms`).

Main result: a paged session on the one script mirrors itself on the other (`Paging.mirrors`).
-/
import DirectoryGroups.Proofs.Entry.Forms
import DirectoryGroups.Proofs.Paging.Agreement
import DirectoryGroups.Proofs.Session.Mirrors

namespace DirectoryGroups

/-! ### Items and pages -/

/-- The items are the same but for the form in which their values are delivered. -/
structure Item.SameButForm (item item' : Item) : Prop where
  kind : item'.kind = item.kind
  dn : item'.dn = item.dn
  attributes : Option.Rel Attributes.SameButForm item.attributes item'.attributes

theorem Item.SameButForm.entry? {item item' : Item} (h : item.SameButForm item') :
    Option.Rel Entry.SameButForm item.entry? item'.entry? := by
  unfold Item.entry?
  rw [h.kind]
  split
  · exact .some ⟨h.dn, h.attributes, rfl⟩
  · exact .none

/-- The pages are the same but for the form in which the values of their items are delivered. -/
structure Page.SameButForm (page page' : Page) : Prop where
  refusal : page'.refusal = page.refusal
  delivery : page'.delivery = page.delivery
  lateRefusal : page'.lateRefusal = page.lateRefusal
  result : page'.answer.result = page.answer.result
  items : List.Forall₂ Item.SameButForm page.answer.itemList page'.answer.itemList

namespace Page.SameButForm

variable {page page' : Page}

theorem empty : Page.SameButForm {} {} :=
  ⟨rfl, rfl, rfl, rfl, .nil⟩

/-- Whether a page fails does not hang on its items. -/
theorem fault?_eq (h : page.SameButForm page') : page'.fault? = page.fault? := by
  rw [Page.fault?, Page.fault?, Page.raised?, Page.raised?, h.refusal, h.delivery, h.lateRefusal,
    h.result]

/-- Nor does it hang on them where the next page begins. -/
theorem cookie_eq (h : page.SameButForm page') : page'.answer.cookie = page.answer.cookie := by
  rw [Answer.cookie, Answer.cookie, h.result]

end Page.SameButForm

/-! ### Sessions -/

namespace Paging

/-- A paged session goes in step with itself on scripts that are the same but for form. -/
theorem inStep_of_forms (paging : Paging) :
    InStep paging paging Eq Item.SameButForm Entry.SameButForm
      (Connection.Related Page.SameButForm) id where
  take query cookie connection connection' hscripts := by
    have hpage := hscripts.upcoming Page.SameButForm.empty
    refine follows_take hscripts ?_
    rw [(take_spec ..).1, (take_spec ..).1, hpage.fault?_eq]
    cases connection.upcoming.fault? with
    | some fault => exact .error (.same _)
    | none => exact .ok ⟨hpage.items, hpage.cookie_eq⟩
  entry := Item.SameButForm.entry?

/-- **A paged session does the same on scripts that are the same but for form.** -/
theorem mirrors (paging : Paging) :
    paging.session.Mirrors paging.session Entry.SameButForm (Connection.Related Page.SameButForm)
      (PagedCursor.RelatedOn Item.SameButForm (Connection.Related Page.SameButForm)) where
  search query _ _ hscripts := ⟨hscripts, .ok ⟨.fresh query, hscripts⟩⟩
  next hw := ⟨(paging.inStep_of_forms.next hw).state, (paging.inStep_of_forms.next hw).result⟩
  close hw := ⟨hw.2, .ok rfl⟩
  unreadable hentry := hentry.unreadable

end Paging

end DirectoryGroups
