/-
DirectoryGroups/Proofs/Session/Questions.lean

Questions, and how they are counted.

There are two kinds of questions: searches, which a session is asked, and the question who a
user is, which a resolver is asked that somebody supplied.  What happens within a session is
none.  So each search is one question, however its cursor is read and wherever something
fails.

Main result: `questions_withCursor`.
-/
import DirectoryGroups.Proofs.Session.Visits

namespace DirectoryGroups

/-! ### Questions -/

/-- Whether a happening is a question. -/
def Happening.isQuestion : Happening → Bool
  | searched _ => true
  | asked _ => true
  | _ => false

/-- What was asked, in order. -/
def questions (trace : List Happening) : List Happening :=
  trace.filter Happening.isQuestion

theorem questions_append (trace more : List Happening) :
    questions (trace ++ more) = questions trace ++ questions more :=
  List.filter_append trace more

theorem questions_searched (query : Query) (trace : List Happening) :
    questions (.searched query :: trace) = .searched query :: questions trace := rfl

theorem questions_session (trace : List SessionEvent) :
    questions (trace.map .session) = [] := by
  rw [questions, List.filter_eq_nil_iff]
  intro event hevent
  obtain ⟨_, -, rfl⟩ := List.mem_map.mp hevent
  exact Bool.false_ne_true

/-- What follows a step without asking anything leaves its questions as they are. -/
theorem questions_bind_silent {σ α β : Type} {x : Step σ Happening α}
    {f : α → Step σ Happening β} (hf : ∀ a s, questions (f a s).trace = []) (s : σ) :
    questions ((x >>= f) s).trace = questions (x s).trace := by
  rcases hx : x s with ⟨failure | a, s', trace⟩
  · -- The second step is not reached.
    rw [Step.bind_of_error hx]
  · rw [Step.bind_of_ok hx, questions_append, hf, List.append_nil]

namespace Session

variable {σ κ α : Type} (session : Session σ κ)

/-! ### One search -/

/-- **Using a cursor is one question**, if what is done with it asks nothing. -/
theorem questions_withCursor (query : Query) {x : Step (κ × σ) Happening α}
    (hx : ∀ w, questions (x w).trace = []) (s : σ) :
    questions (session.withCursor query x s).trace = [.searched query] := by
  rcases hsearch : session.search query s with ⟨failure | cursor, s', trace⟩
  · rw [withCursor_of_error hsearch, questions_searched, questions_session]
  · rw [withCursor_of_ok hsearch rfl rfl]
    simp only [questions_searched, questions_append, questions_session, hx, List.append_nil]

theorem questions_first (query : Query) (s : σ) :
    questions (session.first query s).trace = [.searched query] :=
  session.questions_withCursor query (fun w => questions_session (session.next w).trace) s

/-- Reading a cursor to its end asks nothing. -/
theorem questions_forEach {read : Entry → Except Failure α} {report : α → List Happening}
    (hreport : ∀ a, questions (report a) = []) (w : κ × σ) :
    questions (session.forEach read report w).trace = [] := by
  fun_induction Session.forEach session read report w with
  | case1 w failure w' trace _ => exact questions_session trace
  | case2 w w' trace _ => exact questions_session trace
  | case3 w entry w' trace _ failure _ => exact questions_session trace
  | case4 w entry w' trace _ a _ rest ih =>
    simp only [questions_append, questions_session, hreport, rest, ih, List.append_nil]

end Session

end DirectoryGroups
