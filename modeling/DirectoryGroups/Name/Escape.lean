/-
DirectoryGroups/Name/Escape.lean

Escapes in the written values of distinguished names.

A written value is a sequence of tokens: a character that stands for itself, a
character after a backslash, or an octet as two hexadecimal digits after a
backslash.  The value itself is the text of the octets of its tokens, so a
character may be spelled by several octet tokens in a row.  Every text can be
read as tokens: a backslash with nothing after it stands for itself.
-/
import DirectoryGroups.Text.Hex
import DirectoryGroups.Text.Utf8

namespace DirectoryGroups.Name

/-- One unit of a written value. -/
inductive Token where
  /-- A character that stands for itself. -/
  | plain (c : Char)
  /-- A backslash and the character it stands before. -/
  | escaped (c : Char)
  /-- A backslash and the two hexadecimal digits of an octet. -/
  | octet (high low : Char)
  deriving DecidableEq, Repr

namespace Token

/-- How the token is written. -/
def text : Token → List Char
  | plain c => [c]
  | escaped c => ['\\', c]
  | octet high low => ['\\', high, low]

/-- The octets the token stands for. -/
def octets : Token → List UInt8
  | plain c => String.utf8EncodeChar c
  | escaped c => String.utf8EncodeChar c
  | octet high low => [Hex.octet high low]

end Token

/-- The tokens of a text. -/
def tokens : List Char → List Token
  | [] => []
  | [c] => [.plain c]
  | [c, d] => if c = '\\' then [.escaped d] else [.plain c, .plain d]
  | c :: d :: e :: rest =>
    if c = '\\' then
      if Hex.isDigit d ∧ Hex.isDigit e then .octet d e :: tokens rest
      else .escaped d :: tokens (e :: rest)
    else .plain c :: tokens (d :: e :: rest)

/-- Nothing is lost: the tokens' texts make up the text. -/
theorem flatMap_text_tokens (s : List Char) : (tokens s).flatMap Token.text = s := by
  fun_induction tokens s <;> simp_all [Token.text]

/-- The octets that a written value stands for. -/
def octets (s : List Char) : List UInt8 :=
  (tokens s).flatMap Token.octets

/-- The value that is written as `s`.  A text without a backslash is its own
value. -/
def unescapeChars (s : List Char) : List Char :=
  if '\\' ∈ s then Utf8.decode (octets s) else s

/-- The value that is written as `s`. -/
def unescape (s : String) : String :=
  .ofList (unescapeChars s.toList)

end DirectoryGroups.Name
