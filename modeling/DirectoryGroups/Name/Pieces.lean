/-
DirectoryGroups/Name/Pieces.lean

The pieces of a written distinguished name: which separators divide it and
which belong to a value.

A separator or equals sign counts only where it is free.  A backslash guards the
character after it, and a backslash that is guarded guards nothing, so in a run
of backslashes every second one is spent.  The start of the text is special:
nothing is free there, and a backslash there guards the next character but is
never the first half of a spent pair.

A name is divided from the left.  A plus sign before any comma divides if
there is a free equals sign further on, and not at once; then the division is
at the last free plus sign before that equals sign.  Else a comma divides
under the same condition.  A piece without a free equals sign is no pair of its
own and goes back to the piece before it, together with its separator.
-/
namespace DirectoryGroups.Name

/-! ### Free places -/

/-- What the characters read so far mean for the next one. -/
inductive Guard where
  /-- Nothing was read. -/
  | start
  /-- Only a backslash was read. -/
  | lead
  /-- The next character is guarded by a backslash. -/
  | guarded
  /-- The next character is free. -/
  | free
  deriving DecidableEq, Repr

/-- What reading a character changes. -/
def Guard.after (c : Char) : Guard → Guard
  | start => if c = '\\' then lead else free
  | lead => if c = '\\' then guarded else free
  | guarded => free
  | free => if c = '\\' then guarded else free

/-- The places where `c` stands free, for a text that begins at place `i` after
the characters summed up in the guard. -/
def placesFrom (c : Char) (g : Guard) (i : Nat) : List Char → List Nat
  | [] => []
  | d :: rest =>
    let further := placesFrom c (g.after d) (i + 1) rest
    if g = .free ∧ d = c then i :: further else further

/-- The places where `c` stands free, in ascending order. -/
def places (c : Char) (s : List Char) : List Nat :=
  placesFrom c .start 0 s

/-! ### Division -/

/-- What follows a piece. -/
inductive Joint where
  /-- A plus sign: the next pair belongs to the same component. -/
  | plus
  /-- A comma: the next pair begins a component. -/
  | comma
  /-- The end of the name. -/
  | last
  deriving DecidableEq, Repr

/-- How the joint is written. -/
def Joint.text : Joint → List Char
  | plus => ['+']
  | comma => [',']
  | last => []

/-- A part of a name and what follows it. -/
structure Piece where
  text : List Char
  joint : Joint
  deriving DecidableEq, Repr

namespace Piece

/-- Whether the piece is a pair of its own. -/
def hasEqual (p : Piece) : Bool :=
  !(places '=' p.text).isEmpty

/-- The piece that two neighbours make up. -/
def join (p q : Piece) : Piece :=
  ⟨p.text ++ p.joint.text ++ q.text, q.joint⟩

end Piece

/-- The place to divide at, given the places of the separator and of the equals
signs and the first separator: the last separator before the next equals sign,
which must not follow the first separator at once. -/
def divisionAt (separators equals : List Nat) (first : Nat) : Option Nat :=
  match equals.find? (first < ·) with
  | some e =>
    if first + 1 < e then (separators.filter fun i => first ≤ i && i < e).getLast? else none
  | none => none

/-- Where the first piece of a name ends, unless the name is one piece. -/
def division (s : List Char) : Option (Nat × Joint) :=
  let pluses := places '+' s
  let commas := places ',' s
  let equals := places '=' s
  let byPlus :=
    match pluses.head? with
    | some p =>
      if commas.head?.all (p < ·) then (divisionAt pluses equals p).map (·, Joint.plus)
      else none
    | none => none
  let byComma := (commas.head?.bind (divisionAt commas equals)).map (·, Joint.comma)
  byPlus.or byComma

/-- A name divided from the left. -/
def divide (s : List Char) : List Piece :=
  match s with
  | [] => []
  | c :: rest =>
    match division (c :: rest) with
    | some (i, joint) => ⟨(c :: rest).take i, joint⟩ :: divide (rest.drop i)
    | none => [⟨c :: rest, .last⟩]
termination_by s.length

/-- Joins each piece that is no pair of its own to the one before it. -/
def gather (current : Piece) : List Piece → List Piece
  | [] => [current]
  | p :: rest =>
    if p.hasEqual then current :: gather p rest else gather (current.join p) rest

/-- The pieces of a name, each meant as one pair. -/
def pieces (s : List Char) : List Piece :=
  match divide s with
  | [] => []
  | p :: rest => gather p rest

end DirectoryGroups.Name
