/-
DirectoryGroups/Proofs/Session/Mirrors.lean

Sessions that mirror one another.

A session mirrors another if each of its calls ends like that of the other: both fail, with the
same failure, or neither does; and where the one cursor gives an entry, so does the other, one
that is related to it (`Session.Mirrors`).  The states of the two may be of different kinds, as
they hold what is still to be given; that they correspond is kept from call to call.  How entries
are related is up to the use, as long as an entry can be read just when a related one can.

Main results: all that a cursor gives is then mirrored, too (`Mirrors.givesAll`), and so is what
searches bring, a single one (`Mirrors.brings`) or several of them (`Mirrors.bringsInTurn`).
A session is mirrored by the one that gives each of its entries in another form
(`mirrors_mapEntries`).
-/
import DirectoryGroups.Proofs.Session.Agreement
import DirectoryGroups.Proofs.Session.Results
import Mathlib.Data.List.Forall2

namespace DirectoryGroups.Session

variable {σ σ' κ κ' : Type}

/-- The calls of the second session mirror those of the first, from corresponding states and
cursors on, and the entries it gives are related to those of the first. -/
structure Mirrors (session : Session σ κ) (session' : Session σ' κ')
    (entries : Entry → Entry → Prop) (states : σ → σ' → Prop)
    (cursors : κ × σ → κ' × σ' → Prop) : Prop where
  search : ∀ (query : Query) {s s'}, states s s' →
    let done := session.search query s
    let done' := session'.search query s'
    states done.state done'.state
      ∧ ResultsAgree Eq
          (fun cursor cursor' => cursors (cursor, done.state) (cursor', done'.state))
          done.result done'.result
  next : ∀ {w w'}, cursors w w' →
    cursors (session.next w).state (session'.next w').state
      ∧ ResultsAgree Eq (Option.Rel entries) (session.next w).result (session'.next w').result
  close : ∀ {w w'}, cursors w w' →
    states (session.close w).state.2 (session'.close w').state.2
      ∧ ResultsAgree Eq Eq (session.close w).result (session'.close w').result
  /-- Related entries can be read alike. -/
  unreadable : ∀ {entry entry'}, entries entry entry' → entry'.unreadable = entry.unreadable

namespace Mirrors

variable {session : Session σ κ} {session' : Session σ' κ'} {entries : Entry → Entry → Prop}
  {states : σ → σ' → Prop} {cursors : κ × σ → κ' × σ' → Prop}

/-! ### Searches -/

theorem exists_next (h : session.Mirrors session' entries states cursors) {w v : κ × σ}
    {w' : κ' × σ'} (hw : cursors w w') {result : Except Failure (Option Entry)}
    {trace : List SessionEvent} (hnext : session.next w = ⟨result, v, trace⟩) :
    ∃ result' v' trace', session'.next w' = ⟨result', v', trace'⟩ ∧ cursors v v'
      ∧ ResultsAgree Eq (Option.Rel entries) result result' := by
  obtain ⟨hstate, hresult⟩ := h.next hw
  rw [hnext] at hstate hresult
  exact ⟨_, _, _, rfl, hstate, hresult⟩

/-- All that a cursor gives is mirrored.  The two cursors end at the same point, as neither call
gives an entry unless the other does. -/
theorem givesAll (h : session.Mirrors session' entries states cursors) {w v : κ × σ}
    {w' : κ' × σ'} {given : Except Failure (List Entry)} (hgives : session.GivesAll w given v)
    (hw : cursors w w') :
    ∃ given' v', session'.GivesAll w' given' v' ∧ cursors v v'
      ∧ ResultsAgree Eq (List.Forall₂ entries) given given' := by
  induction hgives generalizing w' with
  | ends hnext =>
    obtain ⟨result', v', trace', hnext', hv, hresult⟩ := h.exists_next hw hnext
    rcases hresult with ⟨⟨⟩⟩ | -
    exact ⟨_, _, .ends hnext', hv, .ok .nil⟩
  | fails hnext =>
    obtain ⟨result', v', trace', hnext', hv, hresult⟩ := h.exists_next hw hnext
    rcases hresult with - | hfailure
    exact ⟨_, _, .fails hnext', hv, .error hfailure⟩
  | unreadable hnext hread =>
    obtain ⟨result', v', trace', hnext', hv, hresult⟩ := h.exists_next hw hnext
    rcases hresult with ⟨⟨hentry⟩⟩ | -
    exact ⟨_, _, .unreadable hnext' ((h.unreadable hentry).trans hread), hv, .error (.same _)⟩
  | gives hnext hread _ ih =>
    obtain ⟨result', v', trace', hnext', hv, hresult⟩ := h.exists_next hw hnext
    rcases hresult with ⟨⟨hentry⟩⟩ | -
    obtain ⟨given', v'', hgives', hv', hgiven⟩ := ih hv
    refine ⟨_, _, .gives hnext' ((h.unreadable hentry).trans hread) hgives', hv', ?_⟩
    -- The entries come in front of what is given later, unless that is a failure.
    cases hgiven with
    | ok hlist => exact .ok (.cons hentry hlist)
    | error hfailure => exact .error hfailure

/-- **What a search brings is mirrored.** -/
theorem brings (h : session.Mirrors session' entries states cursors) {query : Query} {s t : σ}
    {s' : σ'} {given : Except Failure (List Entry)}
    (hbrings : session.Brings session.GivesAll query s given t) (hs : states s s') :
    ∃ given' t', session'.Brings session'.GivesAll query s' given' t' ∧ states t t'
      ∧ ResultsAgree Eq (List.Forall₂ entries) given given' := by
  obtain ⟨hstate, hresult⟩ := h.search query hs
  rcases hsearch' : session'.search query s' with ⟨result', s₁', trace'⟩
  rw [hsearch'] at hstate hresult
  cases hbrings with
  | refused hsearch =>
    rw [hsearch] at hstate hresult
    rcases hresult with - | hfailure
    exact ⟨_, _, .refused hsearch', hstate, .error hfailure⟩
  | read hsearch hgives hclose =>
    rw [hsearch] at hstate hresult
    rcases hresult with hcursor | -
    obtain ⟨given', w', hgives', hw, hgiven⟩ := h.givesAll hgives hcursor
    obtain ⟨hclosed, hdone⟩ := h.close hw
    rcases hclose' : session'.close w' with ⟨result', v', trace''⟩
    rw [hclose, hclose'] at hclosed hdone
    rcases hdone with rfl | -
    exact ⟨_, _, .read hsearch' hgives' hclose', hclosed, hgiven⟩
  | unclosed hsearch hgives hclose =>
    rw [hsearch] at hstate hresult
    rcases hresult with hcursor | -
    obtain ⟨given', w', hgives', hw, hgiven⟩ := h.givesAll hgives hcursor
    obtain ⟨hclosed, hdone⟩ := h.close hw
    rcases hclose' : session'.close w' with ⟨result', v', trace''⟩
    rw [hclose, hclose'] at hclosed hdone
    rcases hdone with - | hfailure
    -- Whatever was given, the failure of closing takes its place.
    exact ⟨_, _, .unclosed hsearch' hgives' hclose', hclosed, .error hfailure⟩

/-- So is what searches below some bases bring, one after another. -/
theorem bringsInTurn (h : session.Mirrors session' entries states cursors)
    {query : String → Query} {bases : List String} {lists : List (List Entry)} {s t : σ}
    {s' : σ'} (hbrings : session.BringsInTurn session.GivesAll query s bases lists t)
    (hs : states s s') :
    ∃ lists' t', session'.BringsInTurn session'.GivesAll query s' bases lists' t' ∧ states t t'
      ∧ List.Forall₂ (List.Forall₂ entries) lists lists' := by
  induction hbrings generalizing s' with
  | nil => exact ⟨_, _, .nil, hs, .nil⟩
  | cons hfirst _ ih =>
    obtain ⟨given', s₁', hfirst', hs₁, hgiven⟩ := h.brings hfirst hs
    -- Only searches that succeed are followed by others.
    rcases hgiven with hlist | -
    obtain ⟨lists', t', hrest', ht, hlists⟩ := ih hs₁
    exact ⟨_, _, .cons hfirst' hrest', ht, .cons hlist hlists⟩

end Mirrors

/-! ### Another form of the entries -/

/-- The session whose cursors give every entry in another form. -/
def mapEntries (session : Session σ κ) (f : Entry → Entry) : Session σ κ where
  search := session.search
  next w :=
    let done := session.next w
    ⟨done.result.map (Option.map f), done.state, done.trace⟩
  close := session.close
  release := session.release
  remaining := session.remaining
  remaining_next := by
    intro w entry h
    rcases hnext : session.next w with ⟨failure | - | given, w', trace⟩
    · simp [hnext, Except.map] at h
    · simp [hnext, Except.map] at h
    · have hfewer := session.remaining_next w given (by rw [hnext])
      rwa [hnext] at hfewer

theorem next_mapEntries {session : Session σ κ} {f : Entry → Entry} {w w' : κ × σ}
    {result : Except Failure (Option Entry)} {trace : List SessionEvent}
    (h : session.next w = ⟨result, w', trace⟩) :
    (session.mapEntries f).next w = ⟨result.map (Option.map f), w', trace⟩ := by
  simp only [mapEntries, h]

/-- It mirrors the session itself, provided that the other form of an entry can be read just when
the entry can. -/
theorem mirrors_mapEntries (session : Session σ κ) {entries : Entry → Entry → Prop}
    {f : Entry → Entry} (hf : ∀ entry, entries entry (f entry))
    (hread : ∀ {entry entry'}, entries entry entry' → entry'.unreadable = entry.unreadable) :
    session.Mirrors (session.mapEntries f) entries Eq Eq where
  search query s s' hs := by
    subst hs
    refine ⟨rfl, .of_forall ?_ _⟩
    intro cursor
    rfl
  next := by
    rintro w _ rfl
    rcases hnext : session.next w with ⟨failure | - | entry, w', trace⟩
    all_goals rw [next_mapEntries hnext]
    · exact ⟨rfl, .error (.same failure)⟩
    · exact ⟨rfl, .ok .none⟩
    · exact ⟨rfl, .ok (.some (hf entry))⟩
  close := by
    rintro w _ rfl
    exact ⟨rfl, .refl _⟩
  unreadable := hread

end DirectoryGroups.Session
