/-
DirectoryGroups/Proofs/Session/Visits.lean

The life of a cursor.

A search is made, some entries are taken from its cursor, and the cursor is closed.  We
call this a visit.  What happens on a visit is a relation between the calls of a session
and holds of every session whatever (`Session.Reading`, `Session.Visited`).  What is
observed of it hangs on how the session tells of its cursors (`Session.Tells`): a lazy
cursor closes itself at its end, a closable one leaves that to its reader, and of a
plain list nothing is observed.

A step is orderly if it consists of visits, one after another, each observed as a block
of its own: the search, the entries that were taken, and the closing.  If something is
raised on a visit, then it is the last one, and what was raised is what the step fails
with (`Session.Orderly`).

Main results: however a cursor is read, it is observed to be closed exactly once
(`Reading.life`); using a cursor is orderly (`orderly_withCursor`), and orderly steps can
be put one after another (`Orderly.bind`).
-/
import DirectoryGroups.Session.Table

namespace DirectoryGroups

/-! ### What is observed of cursors -/

/-- Whether a happening belongs to the life of a cursor. -/
def Happening.isOfCursor : Happening → Bool
  | searched _ => true
  | session (.gave _) => true
  | session (.closed _) => true
  | _ => false

/-- What happens to cursors, in order. -/
def cursorEvents (trace : List Happening) : List Happening :=
  trace.filter Happening.isOfCursor

@[simp] theorem cursorEvents_nil : cursorEvents [] = [] := rfl

@[simp] theorem cursorEvents_append (trace more : List Happening) :
    cursorEvents (trace ++ more) = cursorEvents trace ++ cursorEvents more :=
  List.filter_append trace more

@[simp] theorem cursorEvents_searched (query : Query) (trace : List Happening) :
    cursorEvents (.searched query :: trace) = .searched query :: cursorEvents trace := rfl

/-- What happens to cursors within a session. -/
def told (trace : List SessionEvent) : List Happening :=
  cursorEvents (trace.map .session)

/-- What is known of a cursor from outside. -/
structure CursorView where
  base : String
  form : CursorForm
  progress : Progress

namespace CursorView

/-- What is observed when the cursor gives an entry. -/
def giving (view : CursorView) : List Happening :=
  match view.form with
  | .plain => []
  | _ => [.session (.gave view.base)]

/-- What is observed when the cursor has no more entries, or fails. -/
def ending (view : CursorView) : List Happening :=
  match view.form with
  | .lazy => [.session (.closed view.base)]
  | _ => []

/-- What is observed when the cursor is closed. -/
def closing (view : CursorView) : List Happening :=
  match view.form, view.progress with
  | .plain, _ => []
  | .closable, _ => [.session (.closed view.base)]
  | .lazy, .underWay => [.session (.closed view.base)]
  | .lazy, _ => []

/-- What is observed of a cursor from which some entries were taken, until it is
closed. -/
def life (form : CursorForm) (base : String) (count : Nat) : List Happening :=
  match form with
  | .plain => []
  | _ => List.replicate count (.session (.gave base)) ++ [.session (.closed base)]

/-- A cursor that came to its end is closed at once, or when its reader closes it. -/
theorem ending_append_closing (view : CursorView) :
    view.ending ++ { view with progress := .ended : CursorView }.closing
      = life view.form view.base 0 := by
  rcases view with ⟨base, - | - | -, progress⟩ <;> rfl

/-- A cursor that gave an entry is closed when its reader closes it. -/
theorem giving_append_closing (view : CursorView) :
    view.giving ++ { view with progress := .underWay : CursorView }.closing
      = life view.form view.base 1 := by
  rcases view with ⟨base, - | - | -, progress⟩ <;> rfl

theorem giving_append_life (view : CursorView) (count : Nat) :
    view.giving ++ life view.form view.base count = life view.form view.base (count + 1) := by
  rcases view with ⟨base, - | - | -, progress⟩ <;> rfl

end CursorView

/-- A session tells of its cursors: of each search it makes a cursor that was not read
yet, and what is observed of the cursor from then on is as its form demands. -/
structure Session.Tells {σ κ : Type} (session : Session σ κ) (view : κ → CursorView) : Prop where
  search : ∀ {query s result s' trace}, session.search query s = ⟨result, s', trace⟩ →
    told trace = [] ∧ ∀ cursor, result = .ok cursor →
      (view cursor).base = query.base ∧ (view cursor).progress = .untouched
  gives : ∀ {w entry w' trace}, session.next w = ⟨.ok (some entry), w', trace⟩ →
    (view w.1).progress ≠ .ended →
    told trace = (view w.1).giving ∧ view w'.1 = { view w.1 with progress := .underWay }
  ends : ∀ {w result w' trace}, session.next w = ⟨result, w', trace⟩ →
    (∀ entry, result ≠ .ok (some entry)) → (view w.1).progress ≠ .ended →
    told trace = (view w.1).ending ∧ view w'.1 = { view w.1 with progress := .ended }
  closes : ∀ {w result w' trace}, session.close w = ⟨result, w', trace⟩ →
    told trace = (view w.1).closing

/-! ### Visits -/

/-- What a computation raised, if it failed. -/
def raisedBy {α : Type} : Except Failure α → Option Failure
  | .ok _ => none
  | .error failure => some failure

theorem eq_error_of_raisedBy {α : Type} {result : Except Failure α} {failure : Failure}
    (h : raisedBy result = some failure) : result = .error failure := by
  cases result with
  | ok a => cases h
  | error other => exact congrArg _ (Option.some.inj h)

theorem eq_ok_of_toOption {α : Type} {result : Except Failure α} {a : α}
    (h : result.toOption = some a) : result = .ok a := by
  cases result with
  | ok other => exact congrArg _ (Option.some.inj h)
  | error failure => cases h

theorem raisedBy_map {α β : Type} (f : α → β) (result : Except Failure α) :
    raisedBy (result.map f) = raisedBy result := by
  cases result <;> rfl

/-- Of two computations the first to fail is the one that raises. -/
theorem raisedBy_bind {α β : Type} (x : Except Failure α) (y : Except Failure β) :
    raisedBy (x >>= fun _ => y) = (raisedBy x).or (raisedBy y) := by
  cases x <;> rfl

/-- A search and what came of it. -/
structure Visit where
  query : Query
  /-- The form of its cursor, unless the search itself failed. -/
  form : Option CursorForm
  /-- The entries that were taken from the cursor. -/
  entries : List Entry
  /-- What was raised: by the search, by the cursor, by an entry, or by closing. -/
  raised : Option Failure

/-- What is observed of a visit: the search, the entries, and the closing. -/
def Visit.events (visit : Visit) : List Happening :=
  .searched visit.query ::
    match visit.form with
    | none => []
    | some form => CursorView.life form visit.query.base visit.entries.length

namespace Session

variable {σ κ α β : Type}

/-- `session.Reading w entries raised events w'`: the calls of a reader, which takes
`entries` from the cursor and stops at its end, at a failure of the cursor, at an entry
that cannot be read, or because it has enough. -/
inductive Reading (session : Session σ κ) :
    κ × σ → List Entry → Option Failure → List Happening → κ × σ → Prop
  | dry {w w' trace} :
      session.next w = ⟨.ok none, w', trace⟩ → Reading session w [] none (told trace) w'
  | broken {w failure w' trace} :
      session.next w = ⟨.error failure, w', trace⟩ →
      Reading session w [] (some failure) (told trace) w'
  | enough {w entry w' trace} :
      session.next w = ⟨.ok (some entry), w', trace⟩ →
      Reading session w [entry] none (told trace) w'
  | unreadable {w entry w' trace attr failure} :
      session.next w = ⟨.ok (some entry), w', trace⟩ → entry.read attr = .error failure →
      Reading session w [entry] (some failure) (told trace) w'
  | more {w entry w' trace entries raised events w''} :
      session.next w = ⟨.ok (some entry), w', trace⟩ →
      Reading session w' entries raised events w'' →
      Reading session w (entry :: entries) raised (told trace ++ events) w''

/-- `session.Visited view s visit events s'`: the search of a visit is made, and unless it
fails, its cursor is read and then closed.  A failure of closing takes the place of one
before. -/
inductive Visited (session : Session σ κ) (view : κ → CursorView) :
    σ → Visit → List Happening → σ → Prop
  | refused {s query failure s' trace} :
      session.search query s = ⟨.error failure, s', trace⟩ →
      Visited session view s ⟨query, none, [], some failure⟩ (.searched query :: told trace) s'
  | read {s query cursor s₁ trace entries raised events w closing w' trace'} :
      session.search query s = ⟨.ok cursor, s₁, trace⟩ →
      session.Reading (cursor, s₁) entries raised events w →
      session.close w = ⟨closing, w', trace'⟩ →
      Visited session view s
        ⟨query, some (view cursor).form, entries, (raisedBy closing).or raised⟩
        (.searched query :: (told trace ++ events ++ told trace')) w'.2

/-- Some visits, each from where the one before it left off. -/
inductive Visits (session : Session σ κ) (view : κ → CursorView) :
    σ → List Visit → List Happening → σ → Prop
  | nil {s} : Visits session view s [] [] s
  | cons {s visit events s' visits events' s''} :
      session.Visited view s visit events s' → Visits session view s' visits events' s'' →
      Visits session view s (visit :: visits) (events ++ events') s''

theorem Visits.append {session : Session σ κ} {view : κ → CursorView} {s s' s'' : σ}
    {visits more : List Visit} {events events' : List Happening}
    (h : session.Visits view s visits events s') (h' : session.Visits view s' more events' s'') :
    session.Visits view s (visits ++ more) (events ++ events') s'' := by
  induction h with
  | nil => exact h'
  | cons hvisit _ ih =>
    rw [List.cons_append, List.append_assoc]
    exact .cons hvisit (ih h')

/-! ### What is observed of visits -/

variable {session : Session σ κ} {view : κ → CursorView}

theorem Tells.life_of_end (htells : session.Tells view) {w w' : κ × σ}
    {result : Except Failure (Option Entry)} {trace : List SessionEvent}
    (hnext : session.next w = ⟨result, w', trace⟩) (hnone : ∀ entry, result ≠ .ok (some entry))
    (hlive : (view w.1).progress ≠ .ended) :
    told trace ++ (view w'.1).closing = CursorView.life (view w.1).form (view w.1).base 0
      ∧ (view w'.1).form = (view w.1).form := by
  obtain ⟨htold, hview⟩ := htells.ends hnext hnone hlive
  rw [htold, hview]
  exact ⟨(view w.1).ending_append_closing, rfl⟩

theorem Tells.life_of_entry (htells : session.Tells view) {w w' : κ × σ} {entry : Entry}
    {trace : List SessionEvent} (hnext : session.next w = ⟨.ok (some entry), w', trace⟩)
    (hlive : (view w.1).progress ≠ .ended) :
    told trace ++ (view w'.1).closing = CursorView.life (view w.1).form (view w.1).base 1
      ∧ (view w'.1).form = (view w.1).form := by
  obtain ⟨htold, hview⟩ := htells.gives hnext hlive
  rw [htold, hview]
  exact ⟨(view w.1).giving_append_closing, rfl⟩

/-- **However a cursor is read, it is closed exactly once**: by itself, or afterwards. -/
theorem Reading.life (htells : session.Tells view) {w w' : κ × σ} {entries : List Entry}
    {raised : Option Failure} {events : List Happening}
    (h : session.Reading w entries raised events w') (hlive : (view w.1).progress ≠ .ended) :
    events ++ (view w'.1).closing
        = CursorView.life (view w.1).form (view w.1).base entries.length
      ∧ (view w'.1).form = (view w.1).form := by
  induction h with
  | dry hnext => exact htells.life_of_end hnext (by simp) hlive
  | broken hnext => exact htells.life_of_end hnext (by simp) hlive
  | enough hnext => exact htells.life_of_entry hnext hlive
  | unreadable hnext _ => exact htells.life_of_entry hnext hlive
  | @more w _ _ _ entries _ _ _ hnext _ ih =>
    -- The call leaves the cursor under way, and then the rest of the reading comes.
    obtain ⟨htold, hview⟩ := htells.gives hnext hlive
    rw [hview] at ih
    obtain ⟨hrest, hform⟩ := ih (by simp)
    rw [List.append_assoc, hrest, htold]
    exact ⟨(view w.1).giving_append_life entries.length, hform⟩

/-- A visit is observed as one block. -/
theorem Visited.events_eq (htells : session.Tells view) {s s' : σ} {visit : Visit}
    {events : List Happening} (h : session.Visited view s visit events s') :
    events = visit.events := by
  cases h with
  | refused hsearch =>
    rw [(htells.search hsearch).1]
    rfl
  | @read _ cursor _ _ _ _ _ _ _ _ _ hsearch hreading hclose =>
    obtain ⟨htold, hcursor⟩ := htells.search hsearch
    obtain ⟨hbase, hprogress⟩ := hcursor cursor rfl
    -- A cursor that was only just made has not ended.
    have hlive : (view cursor).progress ≠ .ended := by simp [hprogress]
    have hlife := (hreading.life htells hlive).1
    rw [htells.closes hclose, htold, List.nil_append, hlife, hbase]
    rfl

theorem Visits.events_eq (htells : session.Tells view) {s s' : σ} {visits : List Visit}
    {events : List Happening} (h : session.Visits view s visits events s') :
    events = visits.flatMap Visit.events := by
  induction h with
  | nil => rfl
  | cons hvisit _ ih => rw [hvisit.events_eq htells, ih, List.flatMap_cons]

/-! ### Orderly steps -/

/-- `session.Course view s done visits`: what was done from `s` on consists of these
visits; each of them is observed as a block, and if something is raised on one, then it
is the last and what was raised is what everything ends with. -/
structure Course (session : Session σ κ) (view : κ → CursorView) (s : σ)
    (done : Outcome σ Happening α) (visits : List Visit) : Prop where
  visited : session.Visits view s visits (cursorEvents done.trace) done.state
  events : cursorEvents done.trace = visits.flatMap Visit.events
  raised : ∀ {front visit back failure}, visits = front ++ visit :: back →
    visit.raised = some failure → back = [] ∧ done.result = .error failure

/-- A step that consists of visits, wherever it begins. -/
def Orderly (session : Session σ κ) (view : κ → CursorView) (x : Step σ Happening α) : Prop :=
  ∀ s, ∃ visits, session.Course view s (x s) visits

/-- A step that leaves the session alone. -/
theorem Orderly.silent {x : Step σ Happening α} (hstate : ∀ s, (x s).state = s)
    (htrace : ∀ s, cursorEvents (x s).trace = []) : session.Orderly view x := by
  intro s
  refine ⟨[], ?_, htrace s, ?_⟩
  · rw [htrace, hstate]
    exact .nil
  · -- No visit was made, so nothing was raised on one.
    intro front visit back failure h
    exact absurd h.symm (by simp)

theorem Orderly.pure (a : α) : session.Orderly view (pure a) :=
  .silent (fun _ => rfl) (fun _ => rfl)

theorem Orderly.log (event : LookupLog) : session.Orderly view (Step.log event) :=
  .silent (fun _ => rfl) (fun _ => rfl)

theorem Orderly.ofExcept (result : Except Failure α) :
    session.Orderly view (Step.ofExcept result) :=
  .silent (fun _ => rfl) (fun _ => rfl)

theorem Orderly.bind {x : Step σ Happening α} {f : α → Step σ Happening β}
    (hx : session.Orderly view x) (hf : ∀ a, session.Orderly view (f a)) :
    session.Orderly view (x >>= f) := by
  intro s
  obtain ⟨visits, hvisited, hevents, hraised⟩ := hx s
  rcases hdone : x s with ⟨failure | a, s', trace⟩
  · -- The second step is not reached.
    rw [hdone] at hvisited hevents hraised
    rw [Step.bind_of_error hdone]
    refine ⟨visits, hvisited, hevents, ?_⟩
    intro front visit back failure' h h'
    obtain ⟨hlast, hresult⟩ := hraised h h'
    exact ⟨hlast, congrArg _ (Except.error.inj hresult)⟩
  · rw [hdone] at hvisited hevents hraised
    obtain ⟨more, hmore, hevents', hraised'⟩ := hf a s'
    have hfine : ∀ {front visit back failure}, visits = front ++ visit :: back →
        visit.raised ≠ some failure := by
      intro front visit back failure h h'
      cases (hraised h h').2
    rw [Step.bind_of_ok hdone]
    refine ⟨visits ++ more, ?_, ?_, ?_⟩
    · rw [cursorEvents_append]
      exact hvisited.append hmore
    · rw [cursorEvents_append, List.flatMap_append, ← hevents, ← hevents']
    · intro front visit back failure h h'
      -- Nothing was raised on the first visits, so it was on one of the others.
      rcases List.append_eq_append_iff.mp h with ⟨front', -, hback⟩ | ⟨middle, hfront, hback⟩
      · exact hraised' hback h'
      · rcases middle with - | ⟨other, middle⟩
        · have hhead : more = [] ++ visit :: back := hback.symm
          exact hraised' hhead h'
        · obtain ⟨rfl, -⟩ := List.cons.inj hback
          exact absurd h' (hfine hfront)

/-- Using a cursor that could not be made. -/
theorem withCursor_of_error {query : Query} {s s' : σ} {failure : Failure}
    {trace : List SessionEvent} (h : session.search query s = ⟨.error failure, s', trace⟩)
    (x : Step (κ × σ) Happening α) :
    session.withCursor query x s
      = ⟨.error failure, s', .searched query :: trace.map .session⟩ := by
  simp [withCursor, ask, bind, Step.bind, Step.tell, Step.relay, h]

/-- Using a cursor: it is closed in any case, and a failure of that comes first. -/
theorem withCursor_of_ok {query : Query} {s s₁ : σ} {cursor : κ} {trace : List SessionEvent}
    (h : session.search query s = ⟨.ok cursor, s₁, trace⟩) {x : Step (κ × σ) Happening α}
    {done : Outcome (κ × σ) Happening α} (hx : x (cursor, s₁) = done)
    {closing : Outcome (κ × σ) SessionEvent Unit} (hclose : session.close done.state = closing) :
    session.withCursor query x s
      = ⟨closing.result >>= fun _ => done.result, closing.state.2,
          .searched query :: (trace.map .session ++ done.trace ++ closing.trace.map .session)⟩ := by
  rcases hresult : closing.result with failure | _ <;>
    simp [withCursor, ask, bind, Step.bind, Step.tell, Step.relay, Step.holding, Step.ensuring,
      Step.attempt, Step.ofExcept, Except.bind, h, hx, hclose, hresult]

/-- Using a cursor is a visit, if what is done with it is a reading. -/
theorem orderly_withCursor (htells : session.Tells view) (query : Query)
    {x : Step (κ × σ) Happening α}
    (hx : ∀ w, ∃ entries, session.Reading w entries (raisedBy (x w).result)
      (cursorEvents (x w).trace) (x w).state) :
    session.Orderly view (session.withCursor query x) := by
  intro s
  obtain ⟨visit, hvisited, hraised⟩ : ∃ visit,
      session.Visited view s visit (cursorEvents (session.withCursor query x s).trace)
          (session.withCursor query x s).state
        ∧ raisedBy (session.withCursor query x s).result = visit.raised := by
    rcases hsearch : session.search query s with ⟨failure | cursor, s₁, trace⟩
    · -- The search itself fails, and the visit has no cursor.
      rw [withCursor_of_error hsearch]
      exact ⟨_, .refused hsearch, rfl⟩
    · obtain ⟨entries, hreading⟩ := hx (cursor, s₁)
      rcases hclose : session.close (x (cursor, s₁)).state with ⟨closing, w', trace'⟩
      rw [withCursor_of_ok hsearch rfl hclose]
      refine ⟨⟨query, some (view cursor).form, entries,
        (raisedBy closing).or (raisedBy (x (cursor, s₁)).result)⟩, ?_, raisedBy_bind _ _⟩
      rw [cursorEvents_searched, cursorEvents_append, cursorEvents_append]
      exact .read hsearch hreading hclose
  refine ⟨[visit], ?_, ?_, ?_⟩
  · rw [← List.append_nil (cursorEvents _)]
    exact .cons hvisited .nil
  · rw [hvisited.events_eq htells, List.flatMap_singleton]
  · intro front other back failure h h'
    -- There is only the one visit.
    obtain ⟨rfl, hlast⟩ : front = [] ∧ [visit] = other :: back := by
      rcases front with - | ⟨_, front⟩
      · exact ⟨rfl, h⟩
      · exact absurd (List.cons.inj h).2.symm (by simp)
    obtain ⟨rfl, rfl⟩ := List.cons.inj hlast
    exact ⟨rfl, eq_error_of_raisedBy (hraised.trans h')⟩

theorem orderly_first (htells : session.Tells view) (query : Query) :
    session.Orderly view (session.first query) := by
  refine orderly_withCursor htells query fun w => ?_
  rcases hnext : session.next w with ⟨failure | - | entry, w', trace⟩
  · rw [Step.relay, hnext]
    exact ⟨_, .broken hnext⟩
  · rw [Step.relay, hnext]
    exact ⟨_, .dry hnext⟩
  · rw [Step.relay, hnext]
    exact ⟨_, .enough hnext⟩

/-- The loop over a cursor is a reading. -/
theorem reading_forEach {read : Entry → Except Failure α} {report : α → List Happening}
    (hread : ∀ {entry failure}, read entry = .error failure →
      ∃ attr, entry.read attr = .error failure)
    (hreport : ∀ a, cursorEvents (report a) = []) (w : κ × σ) :
    ∃ entries, session.Reading w entries (raisedBy (session.forEach read report w).result)
      (cursorEvents (session.forEach read report w).trace)
      (session.forEach read report w).state := by
  fun_induction Session.forEach session read report w with
  | case1 w failure w' trace hnext => exact ⟨_, .broken hnext⟩
  | case2 w w' trace hnext => exact ⟨_, .dry hnext⟩
  | case3 w entry w' trace hnext failure hfailure =>
    -- What cannot be read was read for some attribute.
    obtain ⟨attr, hattr⟩ := hread hfailure
    exact ⟨_, .unreadable hnext hattr⟩
  | case4 w entry w' trace hnext a ha rest ih =>
    obtain ⟨entries, hreading⟩ := ih
    refine ⟨entry :: entries, ?_⟩
    rw [cursorEvents_append, cursorEvents_append, hreport, List.append_nil, raisedBy_map]
    exact .more hnext hreading

theorem orderly_all (htells : session.Tells view) (query : Query)
    {read : Entry → Except Failure α} {report : α → List Happening}
    (hread : ∀ {entry failure}, read entry = .error failure →
      ∃ attr, entry.read attr = .error failure)
    (hreport : ∀ a, cursorEvents (report a) = []) :
    session.Orderly view (session.all query read report) :=
  orderly_withCursor htells query fun w => reading_forEach hread hreport w

end Session

/-! ### Tables -/

/-- What is known of a cursor over a table. -/
def TableCursor.view (cursor : TableCursor) : CursorView where
  base := cursor.base
  form := cursor.behaviour.form
  progress := cursor.progress

theorem TableCursor.told_close (w : TableCursor × AnswerTable) :
    told (TableCursor.close w).trace = w.1.view.closing := by
  rcases w with ⟨⟨base, ⟨form, entries, failure, refusal, closeFailure⟩, left, progress⟩, table⟩
  cases form <;> cases progress <;> rfl

/-- A live cursor over a table gives its entries. -/
theorem TableCursor.next_of_cons {cursor : TableCursor} (hlive : cursor.progress ≠ .ended)
    {entry : Entry} {rest : List Entry} (hleft : cursor.left = entry :: rest)
    (table : AnswerTable) :
    TableCursor.next (cursor, table)
      = ⟨.ok (some entry), (cursor.advanced, table), cursor.givingTrace⟩ := by
  rcases cursor with ⟨base, behaviour, left, - | - | -⟩
  · simp only at hleft
    subst hleft
    rfl
  · simp only at hleft
    subst hleft
    rfl
  · exact absurd rfl hlive

/-- Behind its last entry a cursor over a table ends. -/
theorem TableCursor.next_of_nil {cursor : TableCursor} (hlive : cursor.progress ≠ .ended)
    (hleft : cursor.left = []) (table : AnswerTable) :
    TableCursor.next (cursor, table)
      = ⟨cursor.ending, (cursor.finished, table), cursor.endingTrace⟩ := by
  rcases cursor with ⟨base, behaviour, left, - | - | -⟩
  · simp only at hleft
    subst hleft
    rfl
  · simp only at hleft
    subst hleft
    rfl
  · exact absurd rfl hlive

theorem TableCursor.ending_ne_some (cursor : TableCursor) (entry : Entry) :
    cursor.ending ≠ .ok (some entry) := by
  unfold TableCursor.ending
  split <;> simp

/-- A directory given by a table tells of its cursors. -/
theorem AnswerTable.tells : AnswerTable.session.Tells TableCursor.view where
  search := by
    intro query table result table' trace h
    unfold AnswerTable.session AnswerTable.search at h
    simp only at h
    split at h
    · obtain ⟨rfl, -, rfl⟩ := Outcome.mk.inj h
      exact ⟨rfl, fun cursor hcursor => by cases hcursor⟩
    · obtain ⟨rfl, -, rfl⟩ := Outcome.mk.inj h
      refine ⟨rfl, fun cursor hcursor => ?_⟩
      obtain rfl := Except.ok.inj hcursor
      exact ⟨rfl, rfl⟩
  gives := by
    rintro ⟨cursor, table⟩ entry w' trace h hlive
    rcases hleft : cursor.left with - | ⟨other, rest⟩
    · -- There is no entry left to give.
      obtain ⟨hending, -, -⟩ :=
        Outcome.mk.inj ((TableCursor.next_of_nil hlive hleft table).symm.trans h)
      exact absurd hending (cursor.ending_ne_some entry)
    · obtain ⟨-, rfl, rfl⟩ :=
        Outcome.mk.inj ((TableCursor.next_of_cons hlive hleft table).symm.trans h)
      rcases cursor with ⟨base, ⟨form, entries, failure, refusal, closeFailure⟩, left, progress⟩
      cases form <;> exact ⟨rfl, rfl⟩
  ends := by
    rintro ⟨cursor, table⟩ result w' trace h hnone hlive
    rcases hleft : cursor.left with - | ⟨other, rest⟩
    · obtain ⟨-, rfl, rfl⟩ :=
        Outcome.mk.inj ((TableCursor.next_of_nil hlive hleft table).symm.trans h)
      rcases cursor with ⟨base, ⟨form, entries, failure, refusal, closeFailure⟩, left, progress⟩
      cases form <;> exact ⟨rfl, rfl⟩
    · obtain ⟨hresult, -, -⟩ :=
        Outcome.mk.inj ((TableCursor.next_of_cons hlive hleft table).symm.trans h)
      -- The entry that is left would have been given.
      exact absurd hresult.symm (hnone other)
  closes := by
    intro w result w' trace h
    have htold := TableCursor.told_close w
    rw [show TableCursor.close w = _ from h] at htold
    exact htold

end DirectoryGroups
