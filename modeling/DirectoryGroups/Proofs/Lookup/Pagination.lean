/-
DirectoryGroups/Proofs/Lookup/Pagination.lean

Group names do not depend on pagination.

The directory has some items for each search and sends them in pages: it may cut them
wherever it likes, also into pages without an entry or without any item, and every page
but the last of a search says where the next one begins (`IsCut`).  Reading a search to
its end asks for the pages of its cut and for no others, and what it gives hangs on the
items alone.

Main result: `collect_of_cuts`.
-/
import DirectoryGroups.Proofs.Lookup.Paged

namespace DirectoryGroups

/-! ### Cuts -/

/-- The pages into which the items of one search are cut. -/
inductive IsCut : List Item → List Page → Prop
  | last {page} :
      page.fault? = none → page.cookie = none → IsCut page.answer.itemList [page]
  | cons {page items pages} :
      page.fault? = none → page.cookie ≠ none → IsCut items pages →
      IsCut (page.answer.itemList ++ items) (page :: pages)

namespace IsCut

variable {items : List Item} {pages : List Page}

theorem faultless (h : IsCut items pages) : Faultless pages := by
  induction h with
  | last hsound _ => exact .cons hsound .nil
  | cons hsound _ _ ih => exact .cons hsound ih

/-- The entries of the pages are those among the items. -/
theorem entriesOf_eq (h : IsCut items pages) : entriesOf pages = items.filterMap Item.entry? := by
  induction h with
  | last hsound _ =>
    rw [entriesOf_cons, Page.entries_of_sound hsound, entriesOf_nil, List.append_nil]
  | cons hsound _ _ ih =>
    rw [entriesOf_cons, Page.entries_of_sound hsound, ih, List.filterMap_append]

/-- A search ends with the last page of the cut, whatever comes after it. -/
theorem searchPages_append (h : IsCut items pages) (later : List Page) :
    searchPages (pages ++ later) = pages := by
  induction h with
  | last hsound hcookie => simp [searchPages, Page.isLast, hcookie]
  | @cons page items pages hsound hcookie _ ih =>
    have hmore : page.isLast = false := by
      simpa [Page.isLast, hsound] using Option.isSome_iff_ne_none.mpr hcookie
    rw [List.cons_append, searchPages, hmore, ih]
    rfl

end IsCut

/-! ### Names -/

/-- What a directory has below a base. -/
structure Holding where
  base : String
  items : List Item

/-- The values of an attribute that a directory has, in the order of the bases, their
items and the values of each. -/
def valuesHeld (attr : String) (holdings : List Holding) : List String :=
  holdings.flatMap fun holding =>
    (holding.items.filterMap Item.entry?).flatMap (Entry.valueList attr)

namespace Paging

/-- Collecting below several bases asks for the pages of their cuts one after another,
and gives the values of all items. -/
theorem reads_valuesBelowAll_of_cuts (paging : Paging) (filter attr : String)
    {holdings : List Holding} {cuts : List (List Page)}
    (h : List.Forall₂ (fun holding pages => IsCut holding.items pages) holdings cuts)
    {connection : Connection} {later : List Page}
    (hscript : connection.script = cuts.flatten ++ later) :
    ∃ after, (paging.session.valuesBelowAll filter attr (holdings.map Holding.base)).Reads
      connection cuts.flatten (.ok (valuesHeld attr holdings)) after := by
  induction h generalizing connection with
  | nil => exact ⟨connection, .pure []⟩
  | @cons holding pages holdings cuts hcut _ ih =>
    have hpages : searchPages connection.script = pages := by
      rw [hscript, List.flatten_cons, List.append_assoc, hcut.searchPages_append]
    obtain ⟨_, middle, hreads, hfirst⟩ :=
      paging.reads_valuesBelow filter attr holding.base connection
    rw [hpages] at hreads hfirst
    cases hfirst with
    | fault hfault =>
      -- None of the pages fails.
      obtain ⟨front, last, rfl, -, hlast⟩ := hfault
      rw [hcut.faultless last (List.mem_append_right _ List.mem_cons_self)] at hlast
      cases hlast
    | done _ =>
      -- The pages of this cut are used up, and those of the next base come now.
      have hmiddle : middle.script = cuts.flatten ++ later := by
        rw [hreads.script, hscript, List.flatten_cons, List.append_assoc, List.drop_left]
      obtain ⟨after, hreads'⟩ := ih hmiddle
      rw [hcut.entriesOf_eq] at hreads
      exact ⟨after, hreads.bind_ok (hreads'.bind_last (.pure _))⟩

theorem collect_of_cut (paging : Paging) (filter attr : String) {holdings : List Holding}
    {cuts : List (List Page)}
    (h : List.Forall₂ (fun holding pages => IsCut holding.items pages) holdings cuts)
    {connection : Connection} {later : List Page}
    (hscript : connection.script = cuts.flatten ++ later) :
    let done := paging.session.collect (holdings.map Holding.base) filter attr connection
    done.result = .ok (valuesHeld attr holdings)
      ∧ (requestsAmong done.trace).length = cuts.flatten.length ∧ done.state.script = later := by
  obtain ⟨after, hreads⟩ := paging.reads_valuesBelowAll_of_cuts filter attr h hscript
  have hcollect : (paging.session.collect (holdings.map Holding.base) filter attr).Reads
      connection cuts.flatten (.ok (valuesHeld attr holdings)) after :=
    Step.Reads.bind_silent (.log _) hreads
  refine ⟨hcollect.result, ?_, ?_⟩
  · -- There is one request for each page that was served.
    have hlength := congrArg List.length hcollect.served
    rw [length_firstPages] at hlength
    exact hlength.symm
  · rw [hcollect.state, hcollect.script, hscript, List.drop_left]

/-- **Group names do not depend on pagination.**

A directory has items below some bases, and sends them in pages that are cut in one way
or in another.  In both cases collecting the values of an attribute gives the same list:
the values of all entries among the items, in order and as often as they occur.  It asks
once for each of the pages and for nothing that comes after them. -/
theorem collect_of_cuts (paging paging' : Paging) (filter attr : String)
    (holdings : List Holding) (cuts cuts' : List (List Page)) (later later' : List Page)
    (h : List.Forall₂ (fun holding pages => IsCut holding.items pages) holdings cuts)
    (h' : List.Forall₂ (fun holding pages => IsCut holding.items pages) holdings cuts')
    (connection connection' : Connection) (hscript : connection.script = cuts.flatten ++ later)
    (hscript' : connection'.script = cuts'.flatten ++ later') :
    let bases := holdings.map Holding.base
    let done := paging.session.collect bases filter attr connection
    let done' := paging'.session.collect bases filter attr connection'
    done.result = done'.result
      ∧ done.result = .ok (valuesHeld attr holdings)
      ∧ (requestsAmong done.trace).length = cuts.flatten.length
      ∧ (requestsAmong done'.trace).length = cuts'.flatten.length
      ∧ done.state.script = later ∧ done'.state.script = later' := by
  intro bases done done'
  obtain ⟨hresult, hrequests, hstate⟩ := paging.collect_of_cut filter attr h hscript
  obtain ⟨hresult', hrequests', hstate'⟩ := paging'.collect_of_cut filter attr h' hscript'
  exact ⟨hresult.trans hresult'.symm, hresult, hrequests, hrequests', hstate, hstate'⟩

/-- The items of two bases, one page for each base or cut with an empty page and a page
that holds only a reference, and at the end of the script a page of another search. -/
theorem collect_of_cuts_with_gaps :
    let group (names : List String) : Item :=
      { kind := some "searchResEntry", dn := some "cn=g"
        attributes := some [("CN", .list (names.map .text))] }
    let staff := group ["staff", "team"]
    let reference : Item := { kind := some "searchResRef" }
    let wiki := group ["wiki"]
    let page (items : List Item) (cookie : List UInt8) : Page :=
      { answer :=
          { items := some items
            result := some { controls := [(SearchResult.pagedControl, some cookie)] } } }
    let holdings : List Holding := [⟨"ou=a", [staff, reference, wiki]⟩, ⟨"ou=b", [staff]⟩]
    let cuts := [[page [staff, reference, wiki] []], [page [staff] []]]
    let cuts' :=
      [[page [staff] [1], page [] [2], page [reference] [3], page [wiki] []],
        [page [] [4], page [staff] []]]
    let later : List Page := [{ refusal := some (.protocol (.operation { code := some 51 })) }]
    let connection : Connection := { script := cuts.flatten }
    let connection' : Connection := { script := cuts'.flatten ++ later }
    List.Forall₂ (fun holding pages => IsCut holding.items pages) holdings cuts
      ∧ List.Forall₂ (fun holding pages => IsCut holding.items pages) holdings cuts'
      ∧ valuesHeld "cn" holdings = ["staff", "team", "wiki", "staff", "team"]
      ∧ let bases := holdings.map Holding.base
        let done := Paging.session {} |>.collect bases "(member=x)" "cn" connection
        let done' := Paging.session { pageSize := 1 } |>.collect bases "(member=x)" "cn" connection'
        done.result = done'.result
          ∧ done.result = .ok (valuesHeld "cn" holdings)
          ∧ (requestsAmong done.trace).length = cuts.flatten.length
          ∧ (requestsAmong done'.trace).length = cuts'.flatten.length
          ∧ done.state.script = [] ∧ done'.state.script = later := by
  intro group staff reference wiki page holdings cuts cuts' later connection connection'
  have hlast : ∀ items, IsCut items [page items []] := fun items =>
    @IsCut.last (page items []) rfl rfl
  have hcons : ∀ (items more : List Item) (byte : UInt8) (pages : List Page), IsCut more pages →
      IsCut (items ++ more) (page items [byte] :: pages) := fun items more byte pages h =>
    @IsCut.cons (page items [byte]) more pages rfl (Option.some_ne_none [byte]) h
  have hcuts : List.Forall₂ (fun holding pages => IsCut holding.items pages) holdings cuts :=
    .cons (hlast _) (.cons (hlast _) .nil)
  have hcuts' : List.Forall₂ (fun holding pages => IsCut holding.items pages) holdings cuts' :=
    .cons (hcons [staff] _ _ _ (hcons [] _ _ _ (hcons [reference] _ _ _ (hlast [wiki]))))
      (.cons (hcons [] _ _ _ (hlast [staff])) .nil)
  refine ⟨hcuts, hcuts', by decide +kernel, ?_⟩
  exact collect_of_cuts {} { pageSize := 1 } "(member=x)" "cn" holdings cuts cuts' [] later hcuts
    hcuts' connection connection' (List.append_nil _).symm rfl

end Paging

end DirectoryGroups
