/-
DirectoryGroups/Text/Case.lean

Texts in upper case and in lower case.

Both are full mappings: a letter may turn into several (a sharp s is raised to
two letters).  Lowering looks at one context: a capital sigma at the end of a
word becomes the final sigma.  It stands at the end of a word when the nearest
character before it that counts has case and the nearest one after it that
counts, if there is any, has none.
-/
import DirectoryGroups.Text.CaseTable

namespace DirectoryGroups.Text

/-- Whether a code point lies in one of the ranges. -/
def inRanges (ranges : List (Nat × Nat)) (n : Nat) : Bool :=
  ranges.any fun range => range.1 ≤ n && n ≤ range.2

/-- Whether a run of letters holds the code point. -/
def CaseRun.has (run : CaseRun) (n : Nat) : Bool :=
  run.first ≤ n && n ≤ run.last && (n - run.first) % run.stride == 0

/-- A character beyond ASCII mapped by a table of runs and one of expansions. -/
def mapByTable (runs : List CaseRun) (expansions : List (Nat × List Nat)) (c : Char) :
    List Char :=
  match expansions.lookup c.toNat with
  | some points => points.map .ofNat
  | none =>
    match runs.find? (·.has c.toNat) with
    | some run => [.ofNat (c.toNat + run.shift).toNat]
    | none => [c]

/-! ### Raising -/

/-- A character in upper case. -/
def upperChar (c : Char) : List Char :=
  if c.toNat < 0x80 then [c.toUpper] else mapByTable upperRuns upperExpansions c

/-- A text in upper case. -/
def upper (s : List Char) : List Char :=
  s.flatMap upperChar

/-! ### Lowering -/

/-- A character in lower case, wherever it stands. -/
def lowerChar (c : Char) : List Char :=
  if c.toNat < 0x80 then [c.toLower] else mapByTable lowerRuns lowerExpansions c

/-- Whether a character is passed over when the end of a word is looked for. -/
def isCaseIgnorable (c : Char) : Bool :=
  if c.toNat < 0x80 then ['\x27', '.', ':', '^', '\x60'].contains c
  else inRanges caseIgnorableRanges c.toNat

/-- Whether a character has case. -/
def isCased (c : Char) : Bool :=
  if c.toNat < 0x80 then c.isAlpha else inRanges casedRanges c.toNat

/-- Whether the nearest character that counts has case. -/
def meetsCased (s : List Char) : Bool :=
  match s.dropWhile isCaseIgnorable with
  | [] => false
  | c :: _ => isCased c

/-- A text in lower case, after the characters of `before`, the nearest first. -/
def lowerFrom (before : List Char) : List Char → List Char
  | [] => []
  | c :: rest =>
    let lowered :=
      if c = 'Σ' then
        [if meetsCased before && !meetsCased rest then 'ς' else 'σ']
      else lowerChar c
    lowered ++ lowerFrom (c :: before) rest

/-- A text in lower case. -/
def lower (s : List Char) : List Char :=
  lowerFrom [] s

end DirectoryGroups.Text
