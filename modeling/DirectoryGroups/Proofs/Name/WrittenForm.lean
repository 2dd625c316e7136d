/-
DirectoryGroups/Proofs/Name/WrittenForm.lean

Names that are written from bare values.

A bare value is put into writing with a backslash before each reserved character and before a
space at either end, and with a NUL as an octet (`writeValue`).  What is written so may stand
in a name: nothing in it is free, and resolving its escapes gives the value back.  But
reading trims both halves of a pair, and only the outer spaces were escaped: other blanks at
the ends of a value are lost.  An escaped space in front keeps what comes after it; the one
at the end is itself cut off, so such values are left out here.

Trimming commutes with writing (`trim_writeFrom`): what is left of a written value is the
written form of what is left of the value (`unpadded`).

Main result: a name that is written from bare values is read just if each value holds a
character that is not blank, and then it is the same name with every value unpadded
(`parse_write`).
-/
import DirectoryGroups.Proofs.Name.RoundTrip
import DirectoryGroups.Proofs.Name.Spelling

namespace DirectoryGroups

/-! ### Writing values -/

namespace Name

/-- A character that is written with a backslash wherever it stands in a value. -/
def isReserved (c : Char) : Bool :=
  ['"', '#', '+', ',', ';', '<', '=', '>', '\\'].contains c

/-- How a character is written within a value. -/
def tokenFor (c : Char) : Token :=
  if c = '\x00' then .octet '0' '0' else if isReserved c then .escaped c else .plain c

/-- The tokens of the rest of a value; `outer` tells whether it is the whole value. -/
def tokensFrom (outer : Bool) : List Char → List Token
  | [] => []
  | c :: rest =>
    (if c = ' ' ∧ (outer = true ∨ rest = []) then .escaped ' ' else tokenFor c)
      :: tokensFrom false rest

/-- The rest of a value in writing. -/
def writeFrom (outer : Bool) (s : List Char) : List Char :=
  (tokensFrom outer s).flatMap Token.text

/-- A value in writing. -/
def writeValue (s : String) : String :=
  .ofList (writeFrom true s.toList)

/-- What is left of a value that is written and read: an escaped space in front stays. -/
def unpadded (s : List Char) : List Char :=
  if s.head? = some ' ' then Text.trimEnd s else Text.trim s

end Name

/-- A pair with its value in writing. -/
def TypedValue.write (p : TypedValue) : TypedValue :=
  ⟨p.attr, Name.writeValue p.value⟩

/-- A pair with its bare value. -/
def TypedValue.bare (p : TypedValue) : TypedValue :=
  ⟨p.attr, p.bareValue⟩

/-- A pair with its value unpadded. -/
def TypedValue.unpadded (p : TypedValue) : TypedValue :=
  ⟨p.attr, .ofList (Name.unpadded p.value.toList)⟩

namespace Name

/-! ### What is written may stand in a name -/

/-- Reserved characters may follow a backslash, and none of them is blank. -/
theorem escapable_of_isReserved {c : Char} (h : isReserved c = true) :
    isEscapable c = true ∧ Text.isBlank c = false := by
  simp only [isReserved, List.contains_eq_mem, List.mem_cons, List.not_mem_nil, or_false,
    decide_eq_true_eq] at h
  rcases h with rfl | rfl | rfl | rfl | rfl | rfl | rfl | rfl | rfl <;> exact ⟨rfl, rfl⟩

theorem plain_of_not_reserved {c : Char} (h : isReserved c = false) (hnul : c ≠ '\x00') :
    c ≠ '\\' ∧ isSpecial c = false := by
  simp only [isReserved, List.contains_eq_mem, List.mem_cons, List.not_mem_nil, or_false,
    decide_eq_false_iff_not, not_or] at h
  simp [isSpecial, h, hnul]

/-- A character in writing may stand in a value and has the octets of the character. -/
theorem written_tokenFor (c : Char) :
    (tokenFor c).Written ∧ (tokenFor c).octets = String.utf8EncodeChar c := by
  unfold tokenFor
  split
  · rename_i hnul
    rw [hnul]
    exact ⟨⟨rfl, rfl⟩, by decide⟩
  · rename_i hnul
    split
    · rename_i hreserved
      exact ⟨(escapable_of_isReserved hreserved).1, rfl⟩
    · rename_i hreserved
      exact ⟨plain_of_not_reserved (by simpa using hreserved) hnul, rfl⟩

/-- A value in writing is made up of tokens that may stand in it, and they have its
octets. -/
theorem written_tokensFrom (outer : Bool) (s : List Char) :
    (∀ t ∈ tokensFrom outer s, t.Written)
      ∧ (tokensFrom outer s).flatMap Token.octets = Utf8.encode s := by
  induction s generalizing outer with
  | nil =>
    refine ⟨?_, rfl⟩
    intro t ht
    cases ht
  | cons c rest ih =>
    have hfirst : ∀ t, t = (if c = ' ' ∧ (outer = true ∨ rest = []) then .escaped ' '
        else tokenFor c) → t.Written ∧ t.octets = String.utf8EncodeChar c := by
      rintro t rfl
      split
      · rename_i hspace
        rw [hspace.1]
        exact ⟨rfl, rfl⟩
      · exact written_tokenFor c
    obtain ⟨hwritten, hoctets⟩ := hfirst _ rfl
    obtain ⟨hothers, hmore⟩ := ih false
    rw [tokensFrom]
    refine ⟨?_, ?_⟩
    · intro t ht
      rcases List.mem_cons.mp ht with rfl | hmem
      · exact hwritten
      · exact hothers t hmem
    · rw [List.flatMap_cons, hoctets, hmore, Utf8.encode_cons]

/-- **Resolving the escapes of a written value gives the value back.** -/
theorem unescapeChars_writeFrom (outer : Bool) (s : List Char) :
    unescapeChars (writeFrom outer s) = s := by
  obtain ⟨hwritten, hoctets⟩ := written_tokensFrom outer s
  exact unescapeChars_flatMap_text (fun t ht => (hwritten t ht).complete) hoctets

/-- A pair in writing is legible. -/
theorem legible_write {p : TypedValue} (h : checkAttribute p.attr.toList = .ok ()) :
    p.write.Legible where
  attr := h
  value := by
    have hwritten := (written_tokensFrom true p.value.toList).1
    rw [TypedValue.write, writeValue, String.toList_ofList, writeFrom, tokens_of_written hwritten]
    exact hwritten

/-! ### Trimming what is written -/

/-- Only the first character of a value may be written in another way for being first. -/
theorem writeFrom_of_ne {c : Char} (hc : c ≠ ' ') (rest : List Char) :
    writeFrom true (c :: rest) = writeFrom false (c :: rest) := by
  simp only [writeFrom, tokensFrom, hc, false_and, if_false]

theorem writeFrom_cons {c : Char} {rest : List Char} (h : c = ' ' → rest ≠ []) :
    writeFrom false (c :: rest) = (tokenFor c).text ++ writeFrom false rest := by
  have hinner : ¬ (c = ' ' ∧ (false = true ∨ rest = [])) := by
    rintro ⟨hspace, hfirst | hlast⟩
    · cases hfirst
    · exact h hspace hlast
  rw [writeFrom, tokensFrom, if_neg hinner, List.flatMap_cons, writeFrom]

/-- A blank within a value is written as itself. -/
theorem text_tokenFor_of_blank {c : Char} (h : Text.isBlank c = true) :
    (tokenFor c).text = [c] := by
  have hnul : c ≠ '\x00' := by
    rintro rfl
    cases h
  have hreserved : isReserved c ≠ true := by
    intro hc
    rw [(escapable_of_isReserved hc).2] at h
    cases h
  rw [tokenFor, if_neg hnul, if_neg hreserved, Token.text]

theorem isBlank_of_mem_tokenFor {c : Char} (h : Text.isBlank c = false) :
    ∀ d ∈ (tokenFor c).text, Text.isBlank d = false := by
  unfold tokenFor
  split
  · intro d hd
    simp only [Token.text, List.mem_cons, List.not_mem_nil, or_false] at hd
    rcases hd with rfl | rfl | rfl <;> rfl
  · split
    · intro d hd
      simp only [Token.text, List.mem_cons, List.not_mem_nil, or_false] at hd
      rcases hd with rfl | rfl
      · rfl
      · exact h
    · intro d hd
      rwa [List.mem_singleton.mp hd]

theorem exists_text_tokenFor (c : Char) : ∃ d more, (tokenFor c).text = d :: more := by
  cases tokenFor c <;> exact ⟨_, _, rfl⟩

@[simp] theorem writeFrom_eq_nil_iff {outer : Bool} {s : List Char} :
    writeFrom outer s = [] ↔ s = [] := by
  rcases s with - | ⟨c, rest⟩
  · simp [writeFrom, tokensFrom]
  · have htext : ∀ t : Token, t.text ≠ [] := by
      intro t
      cases t <;> exact List.cons_ne_nil _ _
    simp [writeFrom, tokensFrom, htext]

/-- What a text ends with, each of its ends does, unless that is empty. -/
theorem getLast?_ne_of_suffix {s t : List Char} {c : Char} (h : t <:+ s)
    (hs : s.getLast? ≠ some c) : t.getLast? ≠ some c := by
  obtain ⟨front, rfl⟩ := h
  intro ht
  rw [List.getLast?_append, ht] at hs
  exact hs rfl

/-- Where a value does not end in a space, its last character is not written in another way
for being last. -/
theorem ne_nil_of_getLast? {c : Char} {rest : List Char} (h : (c :: rest).getLast? ≠ some ' ') :
    c = ' ' → rest ≠ [] := by
  rintro rfl rfl
  exact h rfl

variable {s : List Char}

/-- Blanks in front of a value are written as themselves, and nothing else begins with a
blank. -/
theorem dropWhile_writeFrom (h : s.getLast? ≠ some ' ') :
    (writeFrom false s).dropWhile Text.isBlank = writeFrom false (s.dropWhile Text.isBlank) := by
  induction s with
  | nil => rfl
  | cons c rest ih =>
    have hspace := ne_nil_of_getLast? h
    rw [writeFrom_cons hspace]
    cases hblank : Text.isBlank c with
    | true =>
      rw [text_tokenFor_of_blank hblank, List.singleton_append, List.dropWhile_cons_of_pos hblank,
        List.dropWhile_cons_of_pos hblank, ih (getLast?_ne_of_suffix (List.suffix_cons ..) h)]
    | false =>
      -- What the character is written as begins with no blank either, so both sides stop here.
      obtain ⟨d, more, htext⟩ := exists_text_tokenFor c
      have hd : Text.isBlank d = false :=
        isBlank_of_mem_tokenFor hblank d (htext ▸ List.mem_cons_self)
      rw [List.dropWhile_cons_of_neg (by simp [hblank]), writeFrom_cons hspace, htext,
        List.cons_append, List.dropWhile_cons_of_neg (by simp [hd])]

/-- Blanks at the end of a value are written as themselves, and nothing else ends with a
blank. -/
theorem trimEnd_writeFrom (h : s.getLast? ≠ some ' ') :
    Text.trimEnd (writeFrom false s) = writeFrom false (Text.trimEnd s) := by
  induction s with
  | nil => rfl
  | cons c rest ih =>
    have hspace := ne_nil_of_getLast? h
    rw [writeFrom_cons hspace, Text.trimEnd_append,
      ih (getLast?_ne_of_suffix (List.suffix_cons ..) h), ← List.singleton_append,
      Text.trimEnd_append]
    -- Whether this character is reached from the end hangs on what is left behind it.
    by_cases hrest : Text.trimEnd rest = []
    · rw [if_pos (by simp [hrest]), if_pos hrest]
      cases hblank : Text.isBlank c with
      | true =>
        rw [text_tokenFor_of_blank hblank, Text.trimEnd_singleton_of_blank hblank]
        rfl
      | false =>
        have hinner : c ≠ ' ' := by
          rintro rfl
          cases hblank
        have hkept : ∀ d ∈ [c], Text.isBlank d = false := by simpa using hblank
        rw [Text.trimEnd_of_no_blanks (isBlank_of_mem_tokenFor hblank),
          Text.trimEnd_of_no_blanks hkept, writeFrom_cons fun hc => absurd hc hinner]
        exact (List.append_nil _).symm
    · rw [if_neg (by simpa using hrest), if_neg hrest, List.singleton_append,
        writeFrom_cons fun _ => hrest]

/-- **Trimming commutes with writing** the inner part of a value, if the value does not end in
a space. -/
theorem trim_writeFrom (h : s.getLast? ≠ some ' ') :
    Text.trim (writeFrom false s) = writeFrom false (Text.trim s) := by
  rw [Text.trim, dropWhile_writeFrom h,
    trimEnd_writeFrom (getLast?_ne_of_suffix (List.dropWhile_suffix _) h), Text.trim]

/-- What is left of a written value is the written form of what is left of the value. -/
theorem trim_writeFrom_outer (hlast : s.getLast? ≠ some ' ')
    (hfirst : s.head? = some ' ' → ∃ c ∈ s, Text.isBlank c = false) :
    Text.trim (writeFrom true s) = writeFrom true (unpadded s) := by
  rcases s with - | ⟨c, rest⟩
  · rfl
  · by_cases hc : c = ' '
    · subst hc
      have hescaped : ∀ more,
          writeFrom true (' ' :: more) = ['\\', ' '] ++ writeFrom false more := by
        intro more
        simp [writeFrom, tokensFrom, Token.text]
      -- The escaped space stays, as something that is not blank comes after it.
      have hrest : Text.trimEnd rest ≠ [] := by
        obtain ⟨d, hd, hblank⟩ := hfirst rfl
        have hmem : d ∈ rest := by
          rcases List.mem_cons.mp hd with rfl | hmem
          · cases hblank
          · exact hmem
        exact List.ne_nil_of_mem (Text.mem_trimEnd_of_not_blank hmem hblank)
      have hunpadded : unpadded (' ' :: rest) = ' ' :: Text.trimEnd rest := by
        rw [unpadded, List.head?_cons, if_pos rfl, ← List.singleton_append, Text.trimEnd_append,
          if_neg hrest, List.singleton_append]
      have hinner := trimEnd_writeFrom (getLast?_ne_of_suffix (List.suffix_cons ..) hlast)
      rw [hescaped, Text.trim, List.cons_append, List.dropWhile_cons_of_neg (by decide),
        ← List.cons_append, Text.trimEnd_append, hinner, if_neg (by simpa using hrest), hunpadded,
        hescaped]
    · have hunpadded : unpadded (c :: rest) = Text.trim (c :: rest) := by
        rw [unpadded, List.head?_cons, if_neg (by simpa using hc)]
      rw [writeFrom_of_ne hc, trim_writeFrom hlast, hunpadded]
      rcases htrim : Text.trim (c :: rest) with - | ⟨d, more⟩
      · rfl
      · -- No blank is in front, and so it does not matter whether this is the whole value.
        have hd : d ≠ ' ' := by
          rintro rfl
          cases Text.not_blank_of_trim htrim
        rw [writeFrom_of_ne hd]

/-- Something is left of a value just if it holds a character that is not blank. -/
theorem unpadded_ne_nil_iff (hfirst : s.head? = some ' ' → ∃ c ∈ s, Text.isBlank c = false) :
    unpadded s ≠ [] ↔ ∃ c ∈ s, Text.isBlank c = false := by
  refine ⟨?_, ?_⟩
  · intro hne
    by_cases hspace : s.head? = some ' '
    · exact hfirst hspace
    · rw [unpadded, if_neg hspace] at hne
      by_contra hnone
      -- Without such a character everything would be dropped from the front.
      have hall : s.dropWhile Text.isBlank = [] := by
        rw [List.dropWhile_eq_nil_iff]
        intro c hc
        by_contra hblank
        exact hnone ⟨c, hc, by simpa using hblank⟩
      rw [Text.trim, hall] at hne
      exact hne rfl
  · rintro ⟨c, hc, hblank⟩
    unfold unpadded
    split
    · exact List.ne_nil_of_mem (Text.mem_trimEnd_of_not_blank hc hblank)
    · exact List.ne_nil_of_mem (Text.mem_trim_of_not_blank hc hblank)

end Name

/-! ### Pairs -/

/-- A pair that may be put into writing: the attribute is a letter followed by letters, digits
and hyphens, and no escaped space meets the end of what reading leaves of the value. -/
structure TypedValue.Writable (p : TypedValue) : Prop where
  attr : ∃ c rest, p.attr.toList = c :: rest ∧ c.isAlpha = true
    ∧ ∀ d ∈ rest, d.isAlphanum = true ∨ d = '-'
  last : p.value.toList.getLast? ≠ some ' '
  first : p.value.toList.head? = some ' ' → ∃ c ∈ p.value.toList, Text.isBlank c = false

namespace Name

theorem checkAttribute_of_letter {c : Char} {rest : List Char} (hc : c.isAlpha = true)
    (hrest : ∀ d ∈ rest, d.isAlphanum = true ∨ d = '-') : checkAttribute (c :: rest) = .ok () := by
  have hletter : 65 ≤ c.toNat := by
    have hranges : (decide (65 ≤ c.val ∧ c.val ≤ 90) || (97 ≤ c.val && c.val ≤ 122)) = true := hc
    simp only [Bool.or_eq_true, Bool.and_eq_true, decide_eq_true_eq,
      UInt32.le_iff_toNat_le] at hranges
    rcases hranges with ⟨hlow, -⟩ | ⟨hlow, -⟩
    · exact hlow
    · exact Nat.le_trans (by decide) hlow
  -- An attribute must begin neither with a digit nor with a hyphen.
  have hfirst : c.isDigit = false ∧ c ≠ '-' := by
    refine ⟨?_, ?_⟩
    · rw [← Bool.not_eq_true]
      intro hdigit
      have hbounds : 48 ≤ c.val ∧ c.val ≤ 57 := by simpa [Char.isDigit] using hdigit
      have hhigh : c.toNat ≤ 57 := UInt32.le_iff_toNat_le.mp hbounds.2
      omega
    · rintro rfl
      exact absurd hletter (by decide)
  have hnone : (c :: rest).find? (!isAttributeChar ·) = none := by
    rw [List.find?_eq_none]
    intro d hd
    rcases List.mem_cons.mp hd with rfl | hmem
    · simp [isAttributeChar, Char.isAlphanum, hc]
    · rcases hrest d hmem with halpha | rfl
      · simp [isAttributeChar, halpha]
      · decide
  rw [checkAttribute, hnone]
  simp [hfirst]

variable {p : TypedValue}

theorem attribute_of_writable (h : p.Writable) : checkAttribute p.attr.toList = .ok () := by
  obtain ⟨c, rest, hattr, hc, hrest⟩ := h.attr
  rw [hattr]
  exact checkAttribute_of_letter hc hrest

theorem trim_write (h : p.Writable) :
    Text.trim p.write.value.toList = writeFrom true (unpadded p.value.toList) := by
  rw [TypedValue.write, writeValue, String.toList_ofList, trim_writeFrom_outer h.last h.first]

theorem trimmed_write (h : p.Writable) : p.write.trimmed = p.unpadded.write := by
  rw [TypedValue.trimmed, trim_write h, TypedValue.unpadded]
  simp only [TypedValue.write, writeValue, String.toList_ofList]

/-- The written form of a pair is trimmed when it is read, if there is something left of the
value, and is refused otherwise. -/
theorem readPair_write (h : p.Writable) :
    readPair p.write.text
      = if unpadded p.value.toList = [] then .error (.valueMissing p.write.text)
        else .ok p.write.trimmed := by
  rw [readPair_text_of_legible (legible_write (attribute_of_writable h)), trim_write h]
  split
  · rename_i hnil
    rw [hnil]
    rfl
  · rename_i hne
    have htokens : tokensFrom true (unpadded p.value.toList) ≠ [] := by
      intro hnil
      have hwritten : writeFrom true (unpadded p.value.toList) = [] := by
        rw [writeFrom, hnil, List.flatMap_nil]
      exact hne (writeFrom_eq_nil_iff.mp hwritten)
    rw [writeFrom, checkValue_flatMap_text htokens (written_tokensFrom _ _).1]
    rfl

theorem bare_write (p : TypedValue) : p.write.bare = p := by
  have hvalue : unescape (writeValue p.value) = p.value := by
    rw [unescape, writeValue, String.toList_ofList, unescapeChars_writeFrom, String.ofList_toList]
  exact congrArg (TypedValue.mk p.attr) hvalue

end Name

/-! ### Names -/

namespace DistinguishedName

open Name

variable {dn : DistinguishedName}

/-- A name in writing, its values being bare. -/
def write (dn : DistinguishedName) : String :=
  toString (dn.map TypedValue.write)

theorem forall_mem_map_write {P : TypedValue → Prop}
    (h : ∀ r ∈ dn.components, ∀ p ∈ r.pairs, P p.write) :
    ∀ r ∈ (dn.map TypedValue.write).components, ∀ p ∈ r.pairs, P p := by
  intro r hr p hp
  obtain ⟨s, hs, rfl⟩ := List.mem_map.mp hr
  obtain ⟨q, hq, rfl⟩ := List.mem_map.mp hp
  exact h s hs q hq

/-- A blank at the end of a value does not survive. -/
theorem exists_parse_write_ne :
    ∃ dn : DistinguishedName, dn.components ≠ []
      ∧ (∀ r ∈ dn.components, ∀ p ∈ r.pairs, p.Writable ∧ p.value ≠ "")
      ∧ ∃ stored, parse (some dn.write) = .ok stored ∧ stored.map TypedValue.bare ≠ dn := by
  have hwritable : (⟨"cn", "a\t"⟩ : TypedValue).Writable := by
    refine ⟨⟨'c', ['n'], by decide, by decide, List.forall_mem_singleton.mpr (by decide)⟩,
      by decide, ?_⟩
    intro hspace
    exact absurd hspace (by decide)
  have hparse : parse (some (write ⟨[.single ⟨"cn", "a\t"⟩]⟩)) = .ok ⟨[.single ⟨"cn", "a"⟩]⟩ := by
    decide +kernel
  refine ⟨⟨[.single ⟨"cn", "a\t"⟩]⟩, List.cons_ne_nil _ _, ?_, _, hparse, by decide⟩
  intro r hr p hp
  obtain rfl := List.mem_singleton.mp hr
  obtain rfl := List.mem_singleton.mp hp
  exact ⟨hwritable, by decide⟩

/-- **Names that are written from bare values and read.**

Let a name be written from bare values none of which ends in a space or has but blanks behind
a space in front.  It is read just if each value holds a character that is not blank.  What is
read then has the same components, pairs and attributes, and each value, with its escapes
resolved, is the unpadded one; so the name survives just if its values are unpadded. -/
theorem parse_write {dn : DistinguishedName} (hne : dn.components ≠ [])
    (h : ∀ r ∈ dn.components, ∀ p ∈ r.pairs, p.Writable) :
    ((∃ stored, parse (some dn.write) = .ok stored)
        ↔ ∀ r ∈ dn.components, ∀ p ∈ r.pairs, ∃ c ∈ p.value.toList, Text.isBlank c = false)
      ∧ ∀ stored, parse (some dn.write) = .ok stored →
        stored.map TypedValue.bare = dn.map TypedValue.unpadded
          ∧ (stored.map TypedValue.bare = dn
            ↔ ∀ r ∈ dn.components, ∀ p ∈ r.pairs, p.unpadded = p) := by
  have hlegible : ∀ r ∈ (dn.map TypedValue.write).components, ∀ p ∈ r.pairs, p.Legible :=
    forall_mem_map_write fun r hr p hp => legible_write (attribute_of_writable (h r hr p hp))
  -- A name that is read is read pair by pair, and so something is left of each of its values.
  have hleft : ∀ {stored}, parse (some dn.write) = .ok stored →
      ∀ r ∈ dn.components, ∀ p ∈ r.pairs, unpadded p.value.toList ≠ [] := by
    intro stored hparse r hr p hp hnil
    have hmem : r.map TypedValue.write ∈ (dn.map TypedValue.write).components :=
      List.mem_map_of_mem hr
    obtain ⟨q, hread⟩ := readPair_of_parse_toString hlegible hparse _ hmem _
      (List.mem_map_of_mem hp)
    rw [readPair_write (h r hr p hp), if_pos hnil] at hread
    cases hread
  -- Conversely, if something is left of each value, every pair is read, though trimmed.
  have hparse : (∀ r ∈ dn.components, ∀ p ∈ r.pairs, unpadded p.value.toList ≠ []) →
      parse (some dn.write) = .ok ((dn.map TypedValue.write).map TypedValue.trimmed) := by
    intro hsome
    refine parse_toString_of_pairs ?_ hlegible (forall_mem_map_write fun r hr p hp => ?_)
    · simpa [map] using hne
    · rw [readPair_write (h r hr p hp), if_neg (hsome r hr p hp)]
  have hbare : ((dn.map TypedValue.write).map TypedValue.trimmed).map TypedValue.bare
      = dn.map TypedValue.unpadded := by
    rw [map_map, map_map]
    refine map_eq_map_iff.mpr fun r hr p hp => ?_
    rw [Function.comp_apply, Function.comp_apply, trimmed_write (h r hr p hp), bare_write]
  refine ⟨⟨?_, ?_⟩, ?_⟩
  · rintro ⟨stored, hread⟩ r hr p hp
    exact (unpadded_ne_nil_iff (h r hr p hp).first).mp (hleft hread r hr p hp)
  · intro hsome
    exact ⟨_, hparse fun r hr p hp => (unpadded_ne_nil_iff (h r hr p hp).first).mpr
      (hsome r hr p hp)⟩
  · intro stored hread
    obtain rfl := Except.ok.inj ((hparse (hleft hread)).symm.trans hread)
    rw [hbare]
    exact ⟨rfl, map_eq_self_iff⟩

/-- Reserved characters and a NUL, a blank that an escaped space in front keeps, and blanks
that are lost. -/
theorem parse_write_of_mixed_name :
    let dn : DistinguishedName :=
      ⟨[.cons ⟨"cn", " \ta,b=\x00\t"⟩ (.single ⟨"x-1", "#é\\"⟩), .single ⟨"ou", "\nz"⟩]⟩
    let stored : DistinguishedName :=
      ⟨[.cons ⟨"cn", "\\ \ta\\,b\\=\\00"⟩ (.single ⟨"x-1", "\\#é\\\\"⟩), .single ⟨"ou", "z"⟩]⟩
    dn.components ≠ [] ∧ (∀ r ∈ dn.components, ∀ p ∈ r.pairs, p.Writable)
      ∧ parse (some dn.write) = .ok stored
      ∧ stored.map TypedValue.bare = dn.map TypedValue.unpadded
      ∧ stored.map TypedValue.bare ≠ dn := by
  intro dn stored
  have hwritable : ∀ r ∈ dn.components, ∀ p ∈ r.pairs, p.Writable := by
    have hcn : (⟨"cn", " \ta,b=\x00\t"⟩ : TypedValue).Writable :=
      ⟨⟨'c', ['n'], by decide, by decide, List.forall_mem_singleton.mpr (by decide)⟩, by decide,
        fun _ => ⟨'a', by decide, by decide⟩⟩
    have hx : (⟨"x-1", "#é\\"⟩ : TypedValue).Writable :=
      ⟨⟨'x', ['-', '1'], by decide, by decide,
          List.forall_mem_cons.mpr ⟨by decide, List.forall_mem_singleton.mpr (by decide)⟩⟩,
        by decide, fun hspace => absurd hspace (by decide)⟩
    have hou : (⟨"ou", "\nz"⟩ : TypedValue).Writable :=
      ⟨⟨'o', ['u'], by decide, by decide, List.forall_mem_singleton.mpr (by decide)⟩, by decide,
        fun hspace => absurd hspace (by decide)⟩
    simpa [dn, RelativeName.cons, RelativeName.single] using ⟨⟨hcn, hx⟩, hou⟩
  have hparse : parse (some dn.write) = .ok stored := by decide +kernel
  have hpadded : ¬ ∀ r ∈ dn.components, ∀ p ∈ r.pairs, p.unpadded = p := by decide +kernel
  obtain ⟨hbare, hsurvives⟩ := (parse_write (List.cons_ne_nil _ _) hwritable).2 stored hparse
  exact ⟨List.cons_ne_nil _ _, hwritable, hparse, hbare, fun h => hpadded (hsurvives.mp h)⟩

end DistinguishedName

end DirectoryGroups
