/-
DirectoryGroups/Session/Table.lean

A directory given by a table: for each base what a search there brings, in which
form, and what goes wrong.

The entries come in one of three forms.  A lazy cursor gives them one by one and
closes itself at its end or when it fails; closing it while it is under way
closes it early.  A closable cursor leaves closing to its reader, who may do so
more than once and may be told of a failure.  A plain list is just there: nothing
is observed of it, it cannot fail, and there is nothing to close.
-/
import DirectoryGroups.Session.Basic

namespace DirectoryGroups

/-- The form in which the entries of a search come. -/
inductive CursorForm where
  | lazy
  | closable
  | plain
  deriving DecidableEq, Repr

/-- What a search at some base brings. -/
structure Behaviour where
  form : CursorForm := .lazy
  entries : List Entry := []
  /-- The failure after the last entry. -/
  failure : Option Failure := none
  /-- The failure of the search itself. -/
  refusal : Option Failure := none
  /-- The failure of closing. -/
  closeFailure : Option Failure := none

/-- A directory by what it answers at each base. -/
abbrev AnswerTable := List (String × Behaviour)

namespace AnswerTable

/-- What a search at this base brings; at a base that is not in the table, it
finds nothing. -/
def find (table : AnswerTable) (base : String) : Behaviour :=
  (table.lookup base).getD {}

/-- The table with another behaviour at this base. -/
def set (table : AnswerTable) (base : String) (behaviour : Behaviour) : AnswerTable :=
  (base, behaviour) :: table

end AnswerTable

/-- How far a cursor was read. -/
inductive Progress where
  | untouched
  | underWay
  | ended
  deriving DecidableEq, Repr

/-- A cursor over what a search at a base brought. -/
structure TableCursor where
  base : String
  behaviour : Behaviour
  /-- The entries still to be given. -/
  left : List Entry
  progress : Progress := .untouched

namespace TableCursor

/-- The cursor after it gave the first of its entries. -/
def advanced (cursor : TableCursor) : TableCursor :=
  { cursor with left := cursor.left.tail, progress := .underWay }

/-- The cursor at its end. -/
def finished (cursor : TableCursor) : TableCursor :=
  { cursor with left := [], progress := .ended }

/-- What is observed when the cursor gives an entry. -/
def givingTrace (cursor : TableCursor) : List SessionEvent :=
  match cursor.behaviour.form with
  | .plain => []
  | _ => [.gave cursor.base]

/-- What is observed when the cursor has no more entries. -/
def endingTrace (cursor : TableCursor) : List SessionEvent :=
  match cursor.behaviour.form with
  | .lazy => [.closed cursor.base]
  | _ => []

/-- How reading ends. -/
def ending (cursor : TableCursor) : Except Failure (Option Entry) :=
  match cursor.behaviour.form, cursor.behaviour.failure with
  | .plain, _ => .ok none
  | _, none => .ok none
  | _, some failure => .error failure

/-- The next entry. -/
def next : Step (TableCursor × AnswerTable) SessionEvent (Option Entry)
  | (cursor, table) =>
    match cursor.progress, cursor.left with
    | .ended, _ => ⟨.ok none, (cursor, table), []⟩
    | _, entry :: _ => ⟨.ok (some entry), (cursor.advanced, table), cursor.givingTrace⟩
    | _, [] => ⟨cursor.ending, (cursor.finished, table), cursor.endingTrace⟩

/-- What is observed when the cursor is dropped. -/
def droppingTrace (cursor : TableCursor) : List SessionEvent :=
  if cursor.behaviour.form = .lazy ∧ cursor.progress = .underWay then [.closed cursor.base]
  else []

/-- Closes the cursor. -/
def close : Step (TableCursor × AnswerTable) SessionEvent Unit
  | (cursor, table) =>
    match cursor.behaviour.form with
    | .closable =>
      let result := match cursor.behaviour.closeFailure with
        | some failure => .error failure
        | none => .ok ()
      ⟨result, (cursor.finished, table), [.closed cursor.base]⟩
    | _ => ⟨.ok (), (cursor.finished, table), cursor.droppingTrace⟩

/-- Lets go of the cursor. -/
def release : Step (TableCursor × AnswerTable) SessionEvent Unit
  | (cursor, table) => ⟨.ok (), (cursor.finished, table), cursor.droppingTrace⟩

end TableCursor

namespace AnswerTable

/-- Begins a search. -/
def search (query : Query) : Step AnswerTable SessionEvent TableCursor := fun table =>
  let behaviour := table.find query.base
  match behaviour.refusal with
  | some failure => ⟨.error failure, table, []⟩
  | none =>
    ⟨.ok { base := query.base, behaviour, left := behaviour.entries }, table, []⟩

/-- The session over a table. -/
def session : Session AnswerTable TableCursor where
  search := search
  next := TableCursor.next
  close := TableCursor.close
  release := TableCursor.release
  remaining w := w.1.left.length
  remaining_next := by
    rintro ⟨cursor, table⟩ entry h
    simp only [TableCursor.next] at h ⊢
    split at h
    · cases h
    · rename_i hleft _
      simp [TableCursor.advanced, hleft]
    · simp only [TableCursor.ending] at h
      split at h <;> cases h

end AnswerTable

end DirectoryGroups
