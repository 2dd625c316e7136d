/-
DirectoryGroups/Proofs/Filter/Reading.lean

What the directory reads in the value of an assertion.

In a filter a backslash and two hexadecimal digits are the character with that
code, a bare star is the wildcard, and any other character is itself
(`readSigns`).  A name that is escaped for a filter is read back as the signs
that its written form stands for when a star is guarded by a backslash
(`nameSigns`), and so its text is the written form without these backslashes
(`unguardStars`).

Main result: an escaped text is read as the signs of the text
(`readSigns_escapeChars`).
-/
import DirectoryGroups.Filter.Escape
import Mathlib.Data.List.Infix

namespace DirectoryGroups.Filter

/-! ### Signs -/

/-- One sign of the value of an assertion. -/
inductive Sign where
  /-- Whatever text there is. -/
  | wildcard
  /-- The character itself. -/
  | literal (c : Char)
  deriving DecidableEq, Repr

namespace Sign

/-- The sign that a bare character is. -/
def bare (c : Char) : Sign :=
  if c = '*' then wildcard else literal c

/-- The character that is written for a sign, if nothing is escaped. -/
def char : Sign → Char
  | wildcard => '*'
  | literal c => c

@[simp] theorem char_bare (c : Char) : (bare c).char = c := by
  by_cases h : c = '*' <;> simp [bare, char, h]

end Sign

/-- The signs that a filter's text stands for; a backslash needs two digits. -/
def readSigns : List Char → Option (List Sign)
  | [] => some []
  | '\\' :: high :: low :: rest =>
    if Hex.isDigit high ∧ Hex.isDigit low then
      (readSigns rest).map (.literal (.ofNat (Hex.octet high low).toNat) :: ·)
    else none
  | '\\' :: _ => none
  | c :: rest => (readSigns rest).map (.bare c :: ·)

/-- The signs that a written name stands for, where a backslash only guards a star
that follows it. -/
def nameSigns : List Char → List Sign
  | [] => []
  | [c] => [.bare c]
  | c :: d :: rest =>
    if c = '\\' ∧ d = '*' then .literal '*' :: nameSigns rest
    else .bare c :: nameSigns (d :: rest)

/-- A filter's text decoded; a bare star counts as the character that it is. -/
def decode (s : List Char) : Option (List Char) :=
  (readSigns s).map (List.map Sign.char)

/-- A text without the backslashes that stand directly before a star. -/
def unguardStars : List Char → List Char
  | [] => []
  | [c] => [c]
  | c :: d :: rest =>
    if c = '\\' ∧ d = '*' then '*' :: unguardStars rest else c :: unguardStars (d :: rest)

theorem map_char_nameSigns (s : List Char) : (nameSigns s).map Sign.char = unguardStars s := by
  fun_induction nameSigns s with
  | case1 => rfl
  | case2 c => simp [unguardStars]
  | case3 c d rest hguard ih => simp [unguardStars, hguard, ih, Sign.char]
  | case4 c d rest hguard ih => simp [unguardStars, hguard, ih]

/-! ### Reading what was escaped -/

theorem readSigns_cons {c : Char} (h : c ≠ '\\') (rest : List Char) :
    readSigns (c :: rest) = (readSigns rest).map (.bare c :: ·) := by
  rw [readSigns]
  · intro high low rest' hc
    exact absurd hc h
  · intro hc
    exact absurd hc h

/-- An escaped character is read as the sign that it would be if it were bare. -/
theorem readSigns_escapeChar (c : Char) (rest : List Char) :
    readSigns (escapeChar c ++ rest) = (readSigns rest).map (.bare c :: ·) := by
  -- The code of each of the four is read as the character itself, which is no star.
  unfold escapeChar
  split_ifs with hslash hopen hclose hnull
  · subst hslash
    rfl
  · subst hopen
    rfl
  · subst hclose
    rfl
  · subst hnull
    rfl
  · exact readSigns_cons hslash rest

/-- An escaped text is read as the signs of the text, whatever comes after it. -/
theorem readSigns_escapeChars_append (s rest : List Char) :
    readSigns (escapeChars s ++ rest) = (readSigns rest).map (nameSigns s ++ ·) := by
  fun_induction escapeChars s with
  | case1 => simp [nameSigns]
  | case2 c =>
    rw [readSigns_escapeChar]
    rfl
  | case3 c d more hguard ih =>
    -- The star is read from its code, and not as a bare one.
    have hstar : readSigns ('\\' :: '2' :: 'a' :: (escapeChars more ++ rest))
        = (readSigns (escapeChars more ++ rest)).map (.literal '*' :: ·) := rfl
    rw [List.cons_append, List.cons_append, List.cons_append, hstar, ih, Option.map_map,
      nameSigns, if_pos hguard]
    rfl
  | case4 c d more hguard ih =>
    rw [List.append_assoc, readSigns_escapeChar, ih, Option.map_map, nameSigns, if_neg hguard]
    rfl

/-- **An escaped text is read as the signs of the text.** -/
theorem readSigns_escapeChars (s : List Char) :
    readSigns (escapeChars s) = some (nameSigns s) := by
  have hread := readSigns_escapeChars_append s []
  rw [List.append_nil] at hread
  rw [hread, readSigns, Option.map_some, List.append_nil]

/-- An escaped text is decoded to the text without its guards. -/
theorem decode_escapeChars (s : List Char) : decode (escapeChars s) = some (unguardStars s) := by
  rw [decode, readSigns_escapeChars, Option.map_some, map_char_nameSigns]

example : decode (escapeChars "a\\*(b)\\,*".toList) = some "a*(b)\\,*".toList := by decide

/-! ### Guards -/

/-- A text without guarded stars, and no other, is left as it is. -/
theorem unguardStars_eq_self_iff (s : List Char) :
    unguardStars s = s ↔ ¬ ['\\', '*'] <:+: s := by
  fun_induction unguardStars s with
  | case1 => simp
  | case2 c =>
    refine ⟨?_, fun _ => rfl⟩
    intro _ hfound
    exact absurd hfound.length_le (by simp)
  | case3 c d rest hguard ih =>
    obtain ⟨rfl, rfl⟩ := hguard
    refine ⟨?_, ?_⟩
    · intro h
      exact absurd (List.cons.inj h).1 (by decide)
    · intro h
      exact absurd ⟨[], rest, rfl⟩ h
  | case4 c d rest hguard ih =>
    -- There is no guarded star at the very front, so it is the rest that counts.
    have hfirst : ¬ ['\\', '*'] <+: c :: d :: rest := by
      intro hbegins
      obtain ⟨hc, hrest⟩ := List.cons_prefix_cons.mp hbegins
      exact hguard ⟨hc.symm, (List.cons_prefix_cons.mp hrest).1.symm⟩
    rw [List.infix_cons_iff, or_iff_right hfirst, ← ih, List.cons_inj_right]

end DirectoryGroups.Filter
