/-
DirectoryGroups/Proofs/Name/Spelling.lean

Written values put together from tokens.

A token is complete if it is read as itself whatever comes after it: a plain character is no
backslash, an escaped one no hexadecimal digit, and an octet has two digits
(`Token.Complete`).  Complete tokens that are written one after another are read as the same
tokens, and so the value that they are written for is the text of their octets.  A text may
be spelled in many ways: octet by octet (`OctetSpelling`), or with its characters plain,
escaped or octet by octet, each as it likes (`Spells`).

Main results: a value is what each of its spellings stands for (`unescape_of_spells`), and
tokens that may stand in a value make up one that passes its check
(`checkValue_flatMap_text`).
-/
import DirectoryGroups.Proofs.Name.Parsed

namespace DirectoryGroups.Name

/-! ### Complete tokens -/

/-- Whether a token is read as itself whatever comes after it. -/
def Token.Complete : Token → Prop
  | plain c => c ≠ '\\'
  | escaped c => Hex.isDigit c = false
  | octet high low => Hex.isDigit high = true ∧ Hex.isDigit low = true

/-- A complete token is read as itself. -/
theorem tokens_text_append {t : Token} (h : t.Complete) (s : List Char) :
    tokens (t.text ++ s) = t :: tokens s := by
  cases t with
  | plain c =>
    have hslash : c ≠ '\\' := h
    rcases s with - | ⟨d, - | ⟨e, s⟩⟩
    · rfl
    · simp [Token.text, tokens, hslash]
    · simp [Token.text, tokens, hslash]
  | escaped c =>
    -- No octet begins here, whatever comes next.
    have hdigit : Hex.isDigit c = false := h
    rcases s with - | ⟨d, s⟩
    · rfl
    · simp [Token.text, tokens, hdigit]
  | octet high low => simp [Token.text, tokens, h.1, h.2]

/-- Complete tokens are read as themselves in front of any text. -/
theorem tokens_flatMap_text_append {ts : List Token} (h : ∀ t ∈ ts, t.Complete)
    (s : List Char) : tokens (ts.flatMap Token.text ++ s) = ts ++ tokens s := by
  induction ts with
  | nil => rfl
  | cons t ts ih =>
    rw [List.flatMap_cons, List.append_assoc, tokens_text_append (h t List.mem_cons_self),
      ih fun u hu => h u (List.mem_cons_of_mem _ hu), List.cons_append]

theorem tokens_flatMap_text {ts : List Token} (h : ∀ t ∈ ts, t.Complete) :
    tokens (ts.flatMap Token.text) = ts := by
  have hread := tokens_flatMap_text_append h []
  rwa [List.append_nil, tokens, List.append_nil] at hread

theorem octets_of_not_mem {s : List Char} (h : '\\' ∉ s) : octets s = Utf8.encode s := by
  -- The text is written for itself, with each of its characters plain.
  have htext : s = (s.map Token.plain).flatMap Token.text := by
    rw [List.flatMap_map]
    exact (List.flatMap_singleton' s).symm
  have hcomplete : ∀ t ∈ s.map Token.plain, t.Complete := by
    intro t ht
    obtain ⟨c, hc, rfl⟩ := List.mem_map.mp ht
    rintro rfl
    exact h hc
  rw [octets, htext, tokens_flatMap_text hcomplete, List.flatMap_map, ← htext]
  rfl

/-- Every value is the text of its octets, with or without a backslash. -/
theorem unescapeChars_eq_decode (s : List Char) : unescapeChars s = Utf8.decode (octets s) := by
  by_cases h : '\\' ∈ s
  · rw [unescapeChars, if_pos h]
  · rw [unescapeChars, if_neg h, octets_of_not_mem h, Utf8.decode_encode]

/-- If the octets of complete tokens are those of a text, the tokens are written for that
text. -/
theorem unescapeChars_flatMap_text {ts : List Token} (h : ∀ t ∈ ts, t.Complete)
    {s : List Char} (hoctets : ts.flatMap Token.octets = Utf8.encode s) :
    unescapeChars (ts.flatMap Token.text) = s := by
  rw [unescapeChars_eq_decode, octets, tokens_flatMap_text h, hoctets, Utf8.decode_encode]

/-! ### Tokens that may stand in a value -/

theorem Token.Written.complete {t : Token} (h : t.Written) : t.Complete := by
  cases t with
  | plain c => exact h.1
  | escaped c => exact isDigit_of_isEscapable h
  | octet high low => exact h

/-- The tokens of a value are those that it was put together from. -/
theorem tokens_of_written {ts : List Token} (h : ∀ t ∈ ts, t.Written) :
    tokens (ts.flatMap Token.text) = ts :=
  tokens_flatMap_text fun t ht => (h t ht).complete

/-- A value that is put together from tokens that may stand in it passes its check. -/
theorem checkValue_flatMap_text {ts : List Token} (hne : ts ≠ []) (h : ∀ t ∈ ts, t.Written)
    (item : List Char) : checkValue item (ts.flatMap Token.text) = .ok () := by
  have hcheck : checkEscapes .outside (ts.flatMap Token.text) = .ok () := by
    rw [checkEscapes_eq_ok_iff, tokens_of_written h]
    exact h
  rcases ts with - | ⟨t, ts⟩
  · exact absurd rfl hne
  · -- The mark of the hexadecimal form is special, and so does not stand there plainly.
    have hfirst : ∀ c rest, t.text = c :: rest → c ≠ '#' := by
      rintro c rest htext rfl
      have ht := h t List.mem_cons_self
      cases t with
      | plain d =>
        obtain ⟨rfl, -⟩ := List.cons.inj htext
        exact absurd ht.2 (by decide)
      | escaped d => cases htext
      | octet high low => cases htext
    rw [List.flatMap_cons] at hcheck ⊢
    rcases htext : t.text with - | ⟨c, rest⟩
    · cases t <;> cases htext
    · rw [htext, List.cons_append] at hcheck
      rw [List.cons_append, checkValue, if_neg (hfirst c rest htext), hcheck]

/-! ### Octet by octet -/

/-- Two hexadecimal digits for each octet of a text, in either case. -/
structure OctetSpelling (v : String) where
  digits : List (Char × Char)
  areDigits : ∀ d ∈ digits, Hex.isDigit d.1 = true ∧ Hex.isDigit d.2 = true
  octets : digits.map (fun d => Hex.octet d.1 d.2) = Utf8.encode v.toList

namespace OctetSpelling

variable {v : String} (spelling : OctetSpelling v)

/-- The tokens of a spelling. -/
def tokens : List Token :=
  spelling.digits.map fun d => .octet d.1 d.2

/-- How a spelling is written: each octet after a backslash. -/
def text : String :=
  .ofList (spelling.digits.flatMap fun d => ['\\', d.1, d.2])

theorem toList_text : spelling.text.toList = spelling.tokens.flatMap Token.text := by
  rw [text, String.toList_ofList, tokens, List.flatMap_map]
  rfl

theorem flatMap_octets_tokens :
    spelling.tokens.flatMap Token.octets = Utf8.encode v.toList := by
  rw [← spelling.octets, tokens, List.flatMap_map]
  exact List.flatMap_pure_eq_map _ _

theorem forall_mem_tokens {P : Token → Prop}
    (h : ∀ high low, Hex.isDigit high = true → Hex.isDigit low = true → P (.octet high low)) :
    ∀ t ∈ spelling.tokens, P t := by
  intro t ht
  obtain ⟨d, hd, rfl⟩ := List.mem_map.mp ht
  exact h _ _ (spelling.areDigits d hd).1 (spelling.areDigits d hd).2

theorem written : ∀ t ∈ spelling.tokens, t.Written :=
  spelling.forall_mem_tokens fun _ _ hhigh hlow => ⟨hhigh, hlow⟩

/-- A spelling is resolved to the text that it spells. -/
theorem unescape_text : unescape spelling.text = v := by
  rw [unescape, toList_text, unescapeChars_flatMap_text
    (fun t ht => (spelling.written t ht).complete) spelling.flatMap_octets_tokens,
    String.ofList_toList]

end OctetSpelling

/-! ### Character by character -/

/-- Whether a text is written for a value in such a way that each character is spelled as it
likes: plainly, after a backslash, or octet by octet. -/
inductive Spells : List Char → List Char → Prop
  | nil : Spells [] []
  /-- A backslash never stands for itself. -/
  | plain {c : Char} {s v : List Char} :
      c ≠ '\\' → Spells s v → Spells (c :: s) (c :: v)
  /-- A hexadecimal digit after a backslash might begin an octet. -/
  | escaped {c : Char} {s v : List Char} :
      Hex.isDigit c = false → Spells s v → Spells ('\\' :: c :: s) (c :: v)
  | octets {c : Char} {s v : List Char} (spelling : OctetSpelling (.singleton c)) :
      Spells s v → Spells (spelling.text.toList ++ s) (c :: v)

/-- A spelling is made up of complete tokens, and they have the octets of the value. -/
theorem Spells.exists_tokens {s v : List Char} (h : Spells s v) :
    ∃ ts : List Token, (∀ t ∈ ts, t.Complete) ∧ s = ts.flatMap Token.text
      ∧ ts.flatMap Token.octets = Utf8.encode v := by
  -- Each constructor puts the tokens of one more character in front of the others.
  induction h with
  | nil => exact ⟨[], by simp, rfl, rfl⟩
  | @plain c s v hc _ ih =>
    obtain ⟨ts, hcomplete, rfl, hoctets⟩ := ih
    refine ⟨.plain c :: ts, List.forall_mem_cons.mpr ⟨hc, hcomplete⟩, rfl, ?_⟩
    rw [List.flatMap_cons, hoctets, Utf8.encode_cons, Token.octets]
  | @escaped c s v hc _ ih =>
    obtain ⟨ts, hcomplete, rfl, hoctets⟩ := ih
    refine ⟨.escaped c :: ts, List.forall_mem_cons.mpr ⟨hc, hcomplete⟩, rfl, ?_⟩
    rw [List.flatMap_cons, hoctets, Utf8.encode_cons, Token.octets]
  | @octets c s v spelling _ ih =>
    obtain ⟨ts, hcomplete, rfl, hoctets⟩ := ih
    have hspelling : ∀ t ∈ spelling.tokens, t.Complete :=
      fun t ht => (spelling.written t ht).complete
    refine ⟨spelling.tokens ++ ts, List.forall_mem_append.mpr ⟨hspelling, hcomplete⟩, ?_, ?_⟩
    · rw [List.flatMap_append, spelling.toList_text]
    · rw [List.flatMap_append, spelling.flatMap_octets_tokens, hoctets, String.toList_singleton]
      simp

/-- **A value is what each of its spellings stands for.**

Let each character of a value be written plainly, if it is no backslash, after a backslash, if it
is no hexadecimal digit, or octet by octet, in digits of either case, whatever is chosen for the
others.  Then the text is resolved to the value, and the value is the text of the octets that are
read.  This also holds of a text without a backslash, where the octets are not looked at. -/
theorem unescape_of_spells :
    (∀ {s v : String}, Spells s.toList v.toList →
      unescape s = v ∧ Utf8.decode (octets s.toList) = v.toList)
      ∧ ∀ {s : String}, '\\' ∉ s.toList →
        unescape s = s ∧ Utf8.decode (octets s.toList) = s.toList := by
  refine ⟨?_, ?_⟩
  · intro s v h
    obtain ⟨ts, hcomplete, hs, hoctets⟩ := h.exists_tokens
    have hvalue : unescapeChars s.toList = v.toList := by
      rw [hs, unescapeChars_flatMap_text hcomplete hoctets]
    refine ⟨?_, ?_⟩
    · rw [unescape, hvalue, String.ofList_toList]
    · rw [← unescapeChars_eq_decode, hvalue]
  · intro s h
    refine ⟨?_, ?_⟩
    · rw [unescape, unescapeChars, if_neg h, String.ofList_toList]
    · rw [octets_of_not_mem h, Utf8.decode_encode]

/-- An escaped backslash before an octet, digits of either case, a character of three octets, and
a plain digit behind them. -/
theorem unescape_of_spells_mixed :
    let s := "a\\\\\\c3\\A9\\#\\e2\\82\\aCf"
    let v := "a\\é#€f"
    Spells s.toList v.toList ∧ unescape s = v ∧ Utf8.decode (octets s.toList) = v.toList
      ∧ '\\' ∉ "€f".toList ∧ unescape "€f" = "€f"
      ∧ Utf8.decode (octets "€f".toList) = "€f".toList := by
  intro s v
  let acute : OctetSpelling (.singleton 'é') :=
    ⟨[('c', '3'), ('A', '9')], by decide, by decide⟩
  let euro : OctetSpelling (.singleton '€') :=
    ⟨[('e', '2'), ('8', '2'), ('a', 'C')], by decide, by decide⟩
  have hs : s.toList = 'a' :: '\\' :: '\\' :: (acute.text.toList
      ++ '\\' :: '#' :: (euro.text.toList ++ ['f'])) := by decide +kernel
  have hv : v.toList = ['a', '\\', 'é', '#', '€', 'f'] := by decide +kernel
  have hspells : Spells s.toList v.toList := by
    rw [hs, hv]
    exact .plain (by decide) (.escaped (by decide) (.octets acute (.escaped (by decide)
      (.octets euro (.plain (by decide) .nil)))))
  have hplain : '\\' ∉ "€f".toList := by decide
  obtain ⟨hvalue, hoctets⟩ := unescape_of_spells.1 hspells
  obtain ⟨hshort, hlong⟩ := unescape_of_spells.2 hplain
  exact ⟨hspells, hvalue, hoctets, hplain, hshort, hlong⟩

end DirectoryGroups.Name
