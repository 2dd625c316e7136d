/-
DirectoryGroups/Session/Connection.lean

A connection that answers from a script.

Each request is answered by the next page of the script; past its end the pages
are empty.  A page may raise an error.  Otherwise it comes in one of two ways: at
once, and then the connection holds the answer until the next one, or later, and
then it has to be fetched under the number it was announced by.
-/
import DirectoryGroups.Session.Basic

namespace DirectoryGroups

/-! ### Answers -/

/-- One item of an answer: an entry, a reference or something else. -/
structure Item where
  kind : Option String := none
  /-- The name of the item; an item that sends none has the empty name. -/
  dn : Option String := some ""
  attributes : Option Attributes := none

/-- The entry an item is, if it is one. -/
def Item.entry? (item : Item) : Option Entry :=
  if item.kind = some "searchResEntry" then
    some { dn := item.dn, attributes := item.attributes }
  else none

/-- How an operation went.  An answer that names no code was a success. -/
structure SearchResult where
  code : Option Int := some 0
  description : Option String := some "unknown error"
  /-- The controls that came with it, by their identifiers, each with the cookie
  it holds. -/
  controls : List (String × Option (List UInt8)) := []
  deriving DecidableEq, Repr

namespace SearchResult

/-- The identifier of the control by which results come in pages. -/
def pagedControl : String := "1.2.840.113556.1.4.319"

/-- Where the next page begins, if there is one. -/
def cookie (result : SearchResult) : Option (List UInt8) :=
  match result.controls.lookup pagedControl with
  | some (some (byte :: rest)) => some (byte :: rest)
  | _ => none

end SearchResult

/-- The answer to a request. -/
structure Answer where
  items : Option (List Item) := none
  result : Option SearchResult := none

namespace Answer

/-- The items of an answer; one that sends no list has none. -/
def itemList (answer : Answer) : List Item :=
  answer.items.getD []

/-- Where the next page begins, if there is one. -/
def cookie (answer : Answer) : Option (List UInt8) :=
  answer.result.bind SearchResult.cookie

end Answer

/-! ### Scripts -/

/-- In which way an answer comes. -/
inductive Delivery where
  /-- At once; the flag says whether the connection calls it a success. -/
  | immediate (success : Bool)
  /-- Later, under this number. -/
  | deferred (id : Int)
  deriving DecidableEq, Repr

/-- What the connection does with one request. -/
structure Page where
  /-- The error that the request raises. -/
  refusal : Option Failure := none
  delivery : Delivery := .immediate true
  /-- The error that fetching a deferred answer raises. -/
  lateRefusal : Option Failure := none
  answer : Answer := {}

/-- The state of a connection. -/
structure Connection where
  /-- The pages to come. -/
  script : List Page
  /-- The last answer that came at once. -/
  held : Answer := {}
  /-- The page whose answer is still to be fetched. -/
  awaited : Page := {}

namespace Connection

/-- The page that answers the next request. -/
def upcoming (connection : Connection) : Page :=
  connection.script.headD {}

/-- Sends a request. -/
def send (request : Request) : Step Connection SessionEvent Delivery := fun connection =>
  let page := connection.upcoming
  let rest := { connection with script := connection.script.tail }
  match page.refusal with
  | some failure => ⟨.error failure, rest, [.requested request]⟩
  | none =>
    let after := match page.delivery with
      | .immediate _ => { rest with held := page.answer }
      | .deferred _ => { rest with awaited := page }
    ⟨.ok page.delivery, after, [.requested request]⟩

/-- Fetches a deferred answer. -/
def fetch (id : Int) : Step Connection SessionEvent Answer := fun connection =>
  match connection.awaited.lateRefusal with
  | some failure => ⟨.error failure, connection, [.fetched id]⟩
  | none => ⟨.ok connection.awaited.answer, connection, [.fetched id]⟩

/-- The last answer that came at once. -/
def read : Step Connection SessionEvent Answer := fun connection =>
  ⟨.ok connection.held, connection, []⟩

/-- Sends a request and takes its answer, in whichever way that comes. -/
def exchange (request : Request) : Step Connection SessionEvent Answer := do
  match ← send request with
  | .immediate _ => read
  | .deferred id => fetch id

/-! ### What a request uses up -/

/-- The items that the rest of the script holds. -/
def itemsToCome (connection : Connection) : List Item :=
  connection.script.flatMap fun page => page.answer.itemList

/-- Each request uses up one page of the script, whatever comes of it. -/
theorem script_exchange (request : Request) (connection : Connection) :
    (exchange request connection).state.script = connection.script.tail := by
  rcases hpage : connection.upcoming with ⟨refusal, delivery, late, answer⟩
  cases refusal <;> cases delivery <;> cases late <;>
    simp [exchange, send, fetch, read, bind, Step.bind, hpage]

/-- An answer is the one of the page that was used up. -/
theorem answer_of_exchange {request : Request} {connection : Connection} {answer : Answer}
    (h : (exchange request connection).result = .ok answer) :
    answer = connection.upcoming.answer := by
  rcases hpage : connection.upcoming with ⟨refusal, delivery, late, answer'⟩
  cases refusal <;> cases delivery <;> cases late <;>
    simp_all [exchange, send, fetch, read, bind, Step.bind]

end Connection

end DirectoryGroups
