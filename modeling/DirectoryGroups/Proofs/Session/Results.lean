/-
DirectoryGroups/Proofs/Session/Results.lean

What searches bring.

A search is made, its cursor is read in some way, and then the cursor is closed.  What
this brings is what was read, or a failure: of the search, of the reading, or of the
closing, which takes the place of whatever came before.  We state this as a relation
between the calls of a session (`Session.Brings`), which makes sense for every session
and does not mention how a program puts the calls together.  The way of reading is a
parameter.  Either the cursor is advanced once (`Session.GivesFirst`), or all of its
entries are taken until it ends, fails, or gives one that cannot be read
(`Session.GivesAll`).  Searches below several bases are made one after another, each
from where the one before it left the directory (`Session.BringsInTurn`).

Main results: every search brings something (`exists_brings`), and it is that which a
program gets by using a cursor (`withCursor_of_brings`), by looking at the first entry
(`first_of_brings`), and by reading all entries (`all_of_brings`).
-/
import DirectoryGroups.Proofs.Session.Visits

namespace DirectoryGroups.Session

variable {σ κ α ρ : Type}

/-! ### Ways of reading a cursor -/

/-- The cursor is advanced once. -/
def GivesFirst (session : Session σ κ) (w : κ × σ) (found : Except Failure (Option Entry))
    (w' : κ × σ) : Prop :=
  ∃ trace, session.next w = ⟨found, w', trace⟩

/-- The cursor gives these entries, one by one, until it ends; or there is a failure, of
the cursor or of an entry that cannot be read. -/
inductive GivesAll (session : Session σ κ) :
    κ × σ → Except Failure (List Entry) → κ × σ → Prop
  | ends {w w' trace} :
      session.next w = ⟨.ok none, w', trace⟩ → GivesAll session w (.ok []) w'
  | fails {w failure w' trace} :
      session.next w = ⟨.error failure, w', trace⟩ → GivesAll session w (.error failure) w'
  | unreadable {w entry failure w' trace} :
      session.next w = ⟨.ok (some entry), w', trace⟩ → entry.unreadable = some failure →
      GivesAll session w (.error failure) w'
  | gives {w entry w' trace given w''} :
      session.next w = ⟨.ok (some entry), w', trace⟩ → entry.unreadable = none →
      GivesAll session w' given w'' → GivesAll session w (given.map (entry :: ·)) w''

theorem exists_givesFirst (session : Session σ κ) (w : κ × σ) :
    ∃ found w', session.GivesFirst w found w' :=
  ⟨_, _, _, rfl⟩

/-- A cursor gives all it has sooner or later, as the entries that remain grow fewer. -/
theorem exists_givesAll (session : Session σ κ) (w : κ × σ) :
    ∃ given w', session.GivesAll w given w' := by
  induction hn : session.remaining w using Nat.strongRecOn generalizing w with
  | ind n ih =>
    rcases hnext : session.next w with ⟨failure | - | entry, w', trace⟩
    · exact ⟨_, _, .fails hnext⟩
    · exact ⟨_, _, .ends hnext⟩
    · rcases hread : entry.unreadable with - | failure
      · -- The only case in which the cursor is asked again.
        have hfewer : session.remaining w' < n := by
          have h := session.remaining_next w entry (by rw [hnext])
          rwa [hnext, hn] at h
        obtain ⟨given, w'', hgiven⟩ := ih _ hfewer w' rfl
        exact ⟨_, _, .gives hnext hread hgiven⟩
      · exact ⟨_, _, .unreadable hnext hread⟩

/-! ### Searches -/

/-- `session.Brings reads query s found s'`: made in the state `s`, the search brings
`found` if its cursor is read in this way, and leaves the directory in `s'`. -/
inductive Brings (session : Session σ κ) (reads : κ × σ → Except Failure ρ → κ × σ → Prop)
    (query : Query) : σ → Except Failure ρ → σ → Prop
  | refused {s failure s' trace} :
      session.search query s = ⟨.error failure, s', trace⟩ →
      Brings session reads query s (.error failure) s'
  | read {s cursor s₁ trace found w w' trace'} :
      session.search query s = ⟨.ok cursor, s₁, trace⟩ → reads (cursor, s₁) found w →
      session.close w = ⟨.ok (), w', trace'⟩ → Brings session reads query s found w'.2
  | unclosed {s cursor s₁ trace found w failure w' trace'} :
      session.search query s = ⟨.ok cursor, s₁, trace⟩ → reads (cursor, s₁) found w →
      session.close w = ⟨.error failure, w', trace'⟩ →
      Brings session reads query s (.error failure) w'.2

/-- Searches below some bases, of which each brings one of the values. -/
inductive BringsInTurn (session : Session σ κ)
    (reads : κ × σ → Except Failure ρ → κ × σ → Prop) (query : String → Query) :
    σ → List String → List ρ → σ → Prop
  | nil {s} : BringsInTurn session reads query s [] [] s
  | cons {s base value s₁ bases values s'} :
      session.Brings reads (query base) s (.ok value) s₁ →
      BringsInTurn session reads query s₁ bases values s' →
      BringsInTurn session reads query s (base :: bases) (value :: values) s'

section Searches

variable {session : Session σ κ} {reads : κ × σ → Except Failure ρ → κ × σ → Prop}

/-- Every search brings something, if cursors can be read in this way. -/
theorem exists_brings (hreads : ∀ w, ∃ found w', reads w found w') (query : Query) (s : σ) :
    ∃ found s', session.Brings reads query s found s' := by
  rcases hsearch : session.search query s with ⟨failure | cursor, s₁, trace⟩
  · exact ⟨_, _, .refused hsearch⟩
  · obtain ⟨found, w, hfound⟩ := hreads (cursor, s₁)
    rcases hclose : session.close w with ⟨failure | _, w', trace'⟩
    · exact ⟨_, _, .unclosed hsearch hfound hclose⟩
    · exact ⟨_, _, .read hsearch hfound hclose⟩

/-- **What is done with a cursor comes to what the search brings**, if it does so on the
cursor alone. -/
theorem withCursor_of_brings {f : ρ → α} {x : Step (κ × σ) Happening α}
    (hx : ∀ w found w', reads w found w' → ∃ trace, x w = ⟨found.map f, w', trace⟩)
    {query : Query} {s s' : σ} {found : Except Failure ρ}
    (h : session.Brings reads query s found s') :
    ∃ trace, session.withCursor query x s = ⟨found.map f, s', trace⟩ := by
  cases h with
  | refused hsearch => exact ⟨_, withCursor_of_error hsearch x⟩
  | read hsearch hfound hclose =>
    obtain ⟨trace, hdone⟩ := hx _ _ _ hfound
    exact ⟨_, withCursor_of_ok hsearch hdone hclose⟩
  | unclosed hsearch hfound hclose =>
    obtain ⟨trace, hdone⟩ := hx _ _ _ hfound
    exact ⟨_, withCursor_of_ok hsearch hdone hclose⟩

end Searches

/-! ### What a program gets -/

/-- Entries are read as these values, except for those that cannot be read. -/
def ReadsAs (read : Entry → Except Failure α) (value : Entry → α) : Prop :=
  ∀ entry, read entry = match entry.unreadable with
    | some failure => .error failure
    | none => .ok (value entry)

section Programs

variable {session : Session σ κ} {query : Query} {s s' : σ}

/-- Looking at the first entry of a search. -/
theorem first_of_brings {found : Except Failure (Option Entry)}
    (h : session.Brings session.GivesFirst query s found s') :
    ∃ trace, session.first query s = ⟨found, s', trace⟩ := by
  have hnext : ∀ w found w', session.GivesFirst w found w' →
      ∃ trace, session.next.relay Happening.session w = ⟨found.map id, w', trace⟩ := by
    rintro w found w' ⟨trace, hgives⟩
    refine ⟨trace.map .session, ?_⟩
    rw [Step.relay, hgives]
    cases found <;> rfl
  obtain ⟨trace, hfirst⟩ := withCursor_of_brings hnext h
  refine ⟨trace, hfirst.trans ?_⟩
  cases found <;> rfl

/-- The loop over a cursor reads all that the cursor gives. -/
theorem forEach_of_givesAll {read : Entry → Except Failure α} {value : Entry → α}
    (hread : ReadsAs read value) (report : α → List Happening) {w w' : κ × σ}
    {given : Except Failure (List Entry)} (h : session.GivesAll w given w') :
    ∃ trace, session.forEach read report w = ⟨given.map (List.map value), w', trace⟩ := by
  induction h with
  | ends hnext => exact ⟨_, forEach_of_none hnext⟩
  | fails hnext => exact ⟨_, forEach_of_error hnext⟩
  | @unreadable _ entry failure _ _ hnext hfailure =>
    have hentry : read entry = .error failure := by rw [hread, hfailure]
    exact ⟨_, forEach_of_unreadable hnext hentry⟩
  | @gives _ entry _ _ given _ hnext hfine _ ih =>
    have hentry : read entry = .ok (value entry) := by rw [hread, hfine]
    obtain ⟨more, hrest⟩ := ih
    rw [forEach_of_some hnext hentry, hrest]
    cases given <;> exact ⟨_, rfl⟩

/-- Reading a search to its end. -/
theorem all_of_brings {read : Entry → Except Failure α} {value : Entry → α}
    (hread : ReadsAs read value) (report : α → List Happening)
    {given : Except Failure (List Entry)}
    (h : session.Brings session.GivesAll query s given s') :
    ∃ trace, session.all query read report s = ⟨given.map (List.map value), s', trace⟩ :=
  withCursor_of_brings (fun _ _ _ hgives => forEach_of_givesAll hread report hgives) h

end Programs

end DirectoryGroups.Session
