/-
DirectoryGroups/Proofs/Filter/Username.lean

A username cannot get out of the places that it has in a filter.

The filter for a user is a template in which the escaped username takes the place of each
question mark.  Escaping is five replacements, one after the other, of which that of the
backslash comes first; this comes to the same as escaping each character on its own
(`replaceInTurn_userCodes`).  What comes of it is sealed: it has no parentheses, no stars and
no null character, and a backslash in it begins a code.  The directory reads each code as an
octet and the octets as a text, and this text is the username again
(`assertedText_escapeUsername`).

The template is filled once.  So the question marks of a username stay, the parentheses and
stars of the filter are those of the template, and different usernames have different filters
(`eq_of_fill_eq`).

Main result: `userFilterFor_seals`.
-/
import DirectoryGroups.Proofs.Filter.Confinement

namespace DirectoryGroups.Filter

/-! ### Replacing -/

/-- A text with another one in place of each `c`: its pieces between them, joined anew. -/
def replaceEach (c : Char) (new s : List Char) : List Char :=
  new.intercalate (s.splitOn c)

/-- Replacing goes character by character. -/
theorem replaceEach_eq_flatMap (c : Char) (new s : List Char) :
    replaceEach c new s = s.flatMap fun d => if d = c then new else [d] := by
  induction s with
  | nil => simp [replaceEach]
  | cons d s ih =>
    rw [List.flatMap_cons, ← ih, replaceEach, replaceEach, List.splitOn_cons_eq_if_modifyHead]
    by_cases h : d = c
    · simp [h, List.intercalate_cons_of_ne_nil (List.splitOn_ne_nil c s)]
    · -- The character goes to the front of the first piece.
      obtain ⟨piece, pieces, hpieces⟩ := List.exists_cons_of_ne_nil (List.splitOn_ne_nil c s)
      rcases pieces with - | ⟨next, pieces⟩ <;> simp [h, hpieces]

/-- Some replacements, one after the other. -/
def replaceInTurn (codes : List (Char × List Char)) (s : List Char) : List Char :=
  codes.foldl (fun t code => replaceEach code.1 code.2 t) s

/-- Replacements in turn go character by character, too. -/
theorem replaceInTurn_eq_flatMap (codes : List (Char × List Char)) (s : List Char) :
    replaceInTurn codes s = s.flatMap fun c => replaceInTurn codes [c] := by
  induction codes generalizing s with
  | nil => exact (List.flatMap_singleton' s).symm
  | cons code codes ih =>
    have hfirst : ∀ t, replaceInTurn (code :: codes) t
        = (replaceEach code.1 code.2 t).flatMap fun c => replaceInTurn codes [c] :=
      fun t => ih (replaceEach code.1 code.2 t)
    simp only [hfirst, replaceEach_eq_flatMap, List.flatMap_assoc, List.flatMap_singleton]

/-- The characters that have a meaning in a filter, in the order in which they are replaced, and
what each is replaced by. -/
def userCodes : List (Char × List Char) :=
  [('\\', ['\\', '5', 'c']), ('*', ['\\', '2', 'a']), ('(', ['\\', '2', '8']),
    (')', ['\\', '2', '9']), ('\x00', ['\\', '0', '0'])]

/-- **A username is escaped by replacements in turn.**  The backslash is replaced first, so none
of those that later replacements bring in is taken for one of the username. -/
theorem replaceInTurn_userCodes (s : List Char) :
    replaceInTurn userCodes s = escapeUsername s := by
  rw [replaceInTurn_eq_flatMap, escapeUsername]
  refine congrArg (fun escape => List.flatMap escape s) ?_
  funext c
  unfold escapeFully
  split_ifs with hslash hstar hopen hclose hnull
  · subst hslash
    rfl
  · subst hstar
    rfl
  · subst hopen
    rfl
  · subst hclose
    rfl
  · subst hnull
    rfl
  · -- None of the five characters: every replacement passes it by.
    simp [replaceInTurn, userCodes, replaceEach_eq_flatMap, hslash, hstar, hopen, hclose, hnull]

/-! ### Sealed texts -/

/-- Whether a text is confined and has no wildcard either. -/
structure Sealed (s : List Char) : Prop extends Confined s where
  no_star : '*' ∉ s

/-- The parentheses and stars of a text, in order. -/
def marks (s : List Char) : List Char :=
  s.filter fun c => c = '(' ∨ c = ')' ∨ c = '*'

@[simp] theorem marks_append (s t : List Char) : marks (s ++ t) = marks s ++ marks t :=
  List.filter_append ..

theorem Sealed.marks_eq_nil {s : List Char} (h : Sealed s) : marks s = [] := by
  rw [marks, List.filter_eq_nil_iff]
  intro c hc hmark
  rcases of_decide_eq_true hmark with rfl | rfl | rfl
  · exact h.no_open hc
  · exact h.no_close hc
  · exact h.no_star hc

theorem Confined.flatMap {f : Char → List Char} (h : ∀ c, Confined (f c)) (s : List Char) :
    Confined (s.flatMap f) := by
  induction s with
  | nil => exact .nil
  | cons c s ih => exact (h c).append ih

/-- Of usernames the star is escaped, too, and all else as in names. -/
theorem escapeFully_eq (c : Char) :
    escapeFully c = if c = '*' then ['\\', '2', 'a'] else escapeChar c := by
  by_cases hstar : c = '*'
  · subst hstar
    rfl
  · simp only [escapeFully, escapeChar, if_neg hstar]

theorem confined_escapeFully (c : Char) : Confined (escapeFully c) := by
  rw [escapeFully_eq]
  split
  · exact .escaped (by decide)
  · exact confined_escapeChar c

theorem star_not_mem_escapeFully (c : Char) : '*' ∉ escapeFully c := by
  by_cases hstar : c = '*'
  · subst hstar
    decide
  · rw [escapeFully_eq, if_neg hstar, escapeChar]
    split_ifs
    · decide
    · decide
    · decide
    · decide
    · simpa using Ne.symm hstar

/-- **Whatever a username holds, it is sealed when it is escaped.** -/
theorem sealed_escapeUsername (s : List Char) : Sealed (escapeUsername s) where
  toConfined := .flatMap confined_escapeFully s
  no_star := by
    intro hmem
    obtain ⟨c, -, hc⟩ := List.mem_flatMap.mp hmem
    exact star_not_mem_escapeFully c hc

/-! ### What the directory reads -/

/-- The octets of an asserted value.  A backslash needs two digits, which are those of one octet,
and any other character stands for its own octets. -/
def assertedOctets : List Char → Option (List UInt8)
  | [] => some []
  | '\\' :: high :: low :: rest =>
    if Hex.isDigit high ∧ Hex.isDigit low then
      (assertedOctets rest).map (Hex.octet high low :: ·)
    else none
  | '\\' :: _ => none
  | c :: rest => (assertedOctets rest).map (String.utf8EncodeChar c ++ ·)

/-- The text of an asserted value. -/
def assertedText (s : List Char) : Option (List Char) :=
  (assertedOctets s).map Utf8.decode

theorem assertedOctets_cons {c : Char} (h : c ≠ '\\') (rest : List Char) :
    assertedOctets (c :: rest) = (assertedOctets rest).map (String.utf8EncodeChar c ++ ·) := by
  rw [assertedOctets]
  · intro high low rest' hc
    exact absurd hc h
  · intro hc
    exact absurd hc h

theorem assertedOctets_escapeFully (c : Char) (rest : List Char) :
    assertedOctets (escapeFully c ++ rest)
      = (assertedOctets rest).map (String.utf8EncodeChar c ++ ·) := by
  unfold escapeFully
  split_ifs with hslash hstar hopen hclose hnull
  · subst hslash
    rfl
  · subst hstar
    rfl
  · subst hopen
    rfl
  · subst hclose
    rfl
  · subst hnull
    rfl
  · exact assertedOctets_cons hslash rest

theorem assertedOctets_escapeUsername (s : List Char) :
    assertedOctets (escapeUsername s) = some (Utf8.encode s) := by
  induction s with
  | nil => rfl
  | cons c s ih =>
    rw [escapeUsername, List.flatMap_cons, assertedOctets_escapeFully, ← escapeUsername, ih]
    rfl

/-- **An escaped username is read as the username.** -/
theorem assertedText_escapeUsername (s : List Char) :
    assertedText (escapeUsername s) = some s := by
  rw [assertedText, assertedOctets_escapeUsername, Option.map_some, Utf8.decode_encode]

theorem count_escapeUsername (s : List Char) : (escapeUsername s).count '?' = s.count '?' := by
  induction s with
  | nil => rfl
  | cons c s ih =>
    have hc : (escapeFully c).count '?' = [c].count '?' := by
      unfold escapeFully
      split_ifs <;> subst_vars <;> rfl
    rw [escapeUsername, List.flatMap_cons, List.count_append, ← escapeUsername, ih, hc,
      ← List.count_append, List.singleton_append]

/-! ### Templates -/

/-- Filling a template is replacing its question marks. -/
theorem fill_eq_replaceEach (template value : List Char) :
    fill template value = replaceEach '?' value template :=
  (replaceEach_eq_flatMap '?' value template).symm

@[simp] theorem fill_nil (value : List Char) : fill [] value = [] := rfl

@[simp] theorem fill_mark (template value : List Char) :
    fill ('?' :: template) value = value ++ fill template value := rfl

theorem fill_cons {c : Char} (h : c ≠ '?') (template value : List Char) :
    fill (c :: template) value = c :: fill template value := by
  simp [fill, h]

/-- Each question mark gives way to a text. -/
theorem length_fill (template value : List Char) :
    (fill template value).length + template.count '?'
      = template.length + template.count '?' * value.length := by
  induction template with
  | nil => simp
  | cons c template ih =>
    by_cases h : c = '?'
    · subst h
      simp only [fill_mark, List.length_append, List.count_cons_self, List.length_cons,
        Nat.add_one_mul]
      omega
    · simp only [fill_cons h, List.length_cons, List.count_cons_of_ne h]
      omega

/-- What a text is filled with is not filled in turn: its question marks stay. -/
theorem count_fill (template value : List Char) :
    (fill template value).count '?' = template.count '?' * value.count '?' := by
  induction template with
  | nil => simp
  | cons c template ih =>
    by_cases h : c = '?'
    · subst h
      -- The text brings its question marks to this place, and only the template is filled further.
      rw [fill_mark, List.count_append, List.count_cons_self, ih, Nat.add_one_mul, Nat.add_comm]
    · rw [fill_cons h, List.count_cons_of_ne h, List.count_cons_of_ne h, ih]

/-- A text without marks leaves the marks of a template as they are. -/
theorem marks_fill {value : List Char} (h : marks value = []) (template : List Char) :
    marks (fill template value) = marks template := by
  induction template with
  | nil => rfl
  | cons c template ih =>
    by_cases hc : c = '?'
    · subst hc
      rw [fill_mark, marks_append, h, ih]
      rfl
    · rw [fill_cons hc, ← List.singleton_append, marks_append, ih, ← marks_append,
        List.singleton_append]

/-- **A template that has a question mark is not filled alike by different texts.** -/
theorem eq_of_fill_eq {template value value' : List Char} (hmark : '?' ∈ template)
    (h : fill template value = fill template value') : value = value' := by
  -- Both texts fill as many places, so they are equally long.
  have hlength : value.length = value'.length := by
    have hcount : 0 < template.count '?' := List.count_pos_iff.mpr hmark
    have hproduct : template.count '?' * value.length = template.count '?' * value'.length := by
      have hone := length_fill template value
      have hother := length_fill template value'
      rw [h] at hone
      omega
    exact Nat.eq_of_mul_eq_mul_left hcount hproduct
  -- What comes before the first question mark is the same on both sides.
  induction template with
  | nil => cases hmark
  | cons c template ih =>
    by_cases hc : c = '?'
    · subst hc
      exact (List.append_inj h hlength).1
    · rw [fill_cons hc, fill_cons hc] at h
      apply ih _ (List.tail_eq_of_cons_eq h)
      exact (List.mem_cons.mp hmark).resolve_left fun heq => hc heq.symm

end DirectoryGroups.Filter

namespace DirectoryGroups.Config

open DirectoryGroups.Filter

/-! ### The filter for a user -/

theorem toList_userFilterFor (config : Config) (username : String) :
    (config.userFilterFor username).toList
      = fill config.userFilter.toList (escapeUsername username.toList) := by
  rw [userFilterFor, String.toList_ofList]

/-- **A username is sealed in its places in the filter.**

The filter for a user is the template of the configuration with one text in place of each
question mark: the username after the five replacements.  This text is sealed, and the directory
reads it as the octets of the username, so as the username.  The template is filled only once:
the question marks of the filter are those that the username brings to each of its places.

So the filters of any two usernames have the same parentheses and stars; and if the template has
a question mark, different usernames have different filters. -/
theorem userFilterFor_seals (config : Config) :
    (∀ username,
        let value := replaceInTurn userCodes username.toList
        (config.userFilterFor username).toList = replaceEach '?' value config.userFilter.toList
        ∧ Sealed value
        ∧ assertedOctets value = some (Utf8.encode username.toList)
        ∧ assertedText value = some username.toList)
      ∧ (∀ username, (config.userFilterFor username).toList.count '?'
        = config.userFilter.toList.count '?' * username.toList.count '?')
      ∧ (∀ username username', marks (config.userFilterFor username).toList
        = marks (config.userFilterFor username').toList)
      ∧ ('?' ∈ config.userFilter.toList → ∀ username username',
        config.userFilterFor username = config.userFilterFor username' → username = username') := by
  refine ⟨?_, ?_, ?_, ?_⟩
  · intro username value
    have hvalue : value = escapeUsername username.toList := replaceInTurn_userCodes _
    rw [hvalue, ← fill_eq_replaceEach]
    exact ⟨config.toList_userFilterFor username, sealed_escapeUsername _,
      assertedOctets_escapeUsername _, assertedText_escapeUsername _⟩
  · intro username
    rw [toList_userFilterFor, count_fill, count_escapeUsername]
  · intro username username'
    have hmarks : ∀ name, marks (config.userFilterFor name).toList
        = marks config.userFilter.toList := by
      intro name
      rw [toList_userFilterFor, marks_fill (sealed_escapeUsername _).marks_eq_nil]
    rw [hmarks, hmarks]
  · intro hmark username username' h
    have hfill := congrArg String.toList h
    rw [toList_userFilterFor, toList_userFilterFor] at hfill
    have hescaped : escapeUsername username.toList = escapeUsername username'.toList :=
      eq_of_fill_eq hmark hfill
    -- Both are read back from the same text.
    have hread := congrArg assertedText hescaped
    rw [assertedText_escapeUsername, assertedText_escapeUsername] at hread
    exact String.toList_inj.mp (Option.some.inj hread)

/-- A username that would close its assertion and has a question mark of its own, in two
places. -/
theorem userFilterFor_seals_hostile :
    let config : Config :=
      { groupBases := [], groupFilter := "(objectClass=groupOfNames)", groupNameAttribute := "cn",
        membershipAttribute := none, userBases := [], userFilter := "(|(uid=?)(mail=?@x))" }
    '?' ∈ config.userFilter.toList
      ∧ config.userFilterFor "*)(é=?\\"
        = "(|(uid=\\2a\\29\\28é=?\\5c)(mail=\\2a\\29\\28é=?\\5c@x))"
      ∧ ∀ username, config.userFilterFor username
          = "(|(uid=\\2a\\29\\28é=?\\5c)(mail=\\2a\\29\\28é=?\\5c@x))" →
        username = "*)(é=?\\" := by
  intro config
  have hmark : '?' ∈ config.userFilter.toList := by decide
  have hfilter : config.userFilterFor "*)(é=?\\"
      = "(|(uid=\\2a\\29\\28é=?\\5c)(mail=\\2a\\29\\28é=?\\5c@x))" := by decide +kernel
  obtain ⟨-, -, -, hdistinct⟩ := userFilterFor_seals config
  exact ⟨hmark, hfilter, fun username h => hdistinct hmark _ _ (h.trans hfilter.symm)⟩

end DirectoryGroups.Config
