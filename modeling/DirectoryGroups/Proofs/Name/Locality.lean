/-
DirectoryGroups/Proofs/Name/Locality.lean

Ill-formed octets in a written value stay where they are.

Octets after backslashes may be any, and so a value may be written with the beginning of a
character that never ends, with tails of none, or with octets that no character has.  What is
written as a character, plainly or after a backslash, is a boundary for them: it is neither
swallowed nor changed, and what stands before it and after it is resolved as if it stood alone.
What stands before it has to end with a whole token, and what comes after it may be anything,
also a lone backslash.

Main result: `unescape_append_character`.
-/
import DirectoryGroups.Proofs.Name.Spelling
import DirectoryGroups.Proofs.Text.Boundary

namespace DirectoryGroups.Name

/-- The character that a token is written for; an octet is not written for one on its own. -/
def Token.char? : Token → Option Char
  | plain c => some c
  | escaped c => some c
  | octet _ _ => none

theorem Token.octets_of_char? {t : Token} {c : Char} (h : t.char? = some c) :
    t.octets = String.utf8EncodeChar c := by
  cases t with
  | plain d =>
    obtain rfl := Option.some.inj h
    rfl
  | escaped d =>
    obtain rfl := Option.some.inj h
    rfl
  | octet high low => cases h

/-- The octets of complete tokens come first, whatever is written after them. -/
theorem octets_flatMap_text_append {ts : List Token} (h : ∀ t ∈ ts, t.Complete)
    (s : List Char) : octets (ts.flatMap Token.text ++ s) = ts.flatMap Token.octets ++ octets s := by
  rw [octets, tokens_flatMap_text_append h, List.flatMap_append, octets]

/-- **A character that is written between complete tokens and any text comes out between
their values.** -/
theorem unescapeChars_append_character {before : List Token}
    (hbefore : ∀ t ∈ before, t.Complete) {t : Token} (ht : t.Complete) {c : Char}
    (hc : t.char? = some c) (s : List Char) :
    unescapeChars (before.flatMap Token.text ++ (t.text ++ s))
      = unescapeChars (before.flatMap Token.text) ++ c :: unescapeChars s := by
  have hfront : octets (before.flatMap Token.text) = before.flatMap Token.octets := by
    rw [octets, tokens_flatMap_text hbefore]
  have hback : octets (t.text ++ s) = String.utf8EncodeChar c ++ octets s := by
    rw [octets, tokens_text_append ht, List.flatMap_cons, Token.octets_of_char? hc, octets]
  -- Both halves keep their octets, and between them a character is encoded.
  rw [unescapeChars_eq_decode, octets_flatMap_text_append hbefore, hback,
    Utf8.decode_append_utf8EncodeChar, ← hfront, ← unescapeChars_eq_decode,
    ← unescapeChars_eq_decode]

/-- **Ill-formed octets do not reach beyond a written character.**

Let a value begin with complete tokens, among them octets of any kind, and let a character
follow, plainly or after a backslash, and then any text.  Then the value is what the tokens
before the character stand for, the character, and what the text after it stands for. -/
theorem unescape_append_character {before : List Token} (hbefore : ∀ t ∈ before, t.Complete)
    {t : Token} (ht : t.Complete) {c : Char} (hc : t.char? = some c) (rest : String) :
    unescape (.ofList (before.flatMap Token.text) ++ .ofList t.text ++ rest)
      = unescape (.ofList (before.flatMap Token.text)) ++ .singleton c ++ unescape rest := by
  have hchars := unescapeChars_append_character hbefore ht hc rest.toList
  rw [← String.toList_inj]
  simp only [unescape, String.toList_append, String.toList_ofList, String.toList_singleton,
    List.append_assoc, List.singleton_append, hchars]

/-- Two octets of three before an escaped comma, and the third of them behind it, before a lone
backslash. -/
theorem unescape_append_character_split :
    let before : List Token := [.octet 'e' '2', .octet '8' '2']
    let rest := "\\aC\\"
    (∀ t ∈ before, t.Complete) ∧ (Token.escaped ',').Complete
      ∧ (Token.escaped ',').char? = some ','
      ∧ unescape ("\\e2\\82" ++ "\\," ++ rest) = "\ufffd" ++ "," ++ "\ufffd\\" := by
  intro before rest
  have hbefore : ∀ t ∈ before, t.Complete := by
    intro t ht
    simp only [before, List.mem_cons, List.not_mem_nil, or_false] at ht
    rcases ht with rfl | rfl <;> exact ⟨rfl, rfl⟩
  have hcomma : (Token.escaped ',').Complete := rfl
  have hvalue := unescape_append_character hbefore hcomma rfl rest
  have hfront : unescape (.ofList (before.flatMap Token.text)) = "\ufffd" := by decide +kernel
  have hback : unescape rest = "\ufffd\\" := by decide +kernel
  rw [hfront, hback] at hvalue
  exact ⟨hbefore, hcomma, rfl, hvalue⟩

/-- Octets are no boundary for each other. -/
example : unescapeChars "\\e2\\82\\ac".toList = ['€']
    ∧ unescapeChars "\\e2\\82".toList = ['\ufffd'] := by decide +kernel

end DirectoryGroups.Name
