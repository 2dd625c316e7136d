/-
DirectoryGroups/Text/Utf8.lean

Text as octets and octets as text.

Encoding is UTF-8.  Decoding never fails: an ill-formed stretch becomes
replacement characters, one for each of its maximal subparts, where a maximal
subpart is the longest run of octets that could still have become a character.
The reader is a machine that takes one octet at a time.  It stands either
between characters or within one, and then it knows how many more octets it
waits for and the range of the next one.  An octet out of that range ends the
character that was begun, costs one replacement character, and is read again as
the start of something new; so what is ill-formed never takes a well-formed
neighbour with it.

Main result: decoding undoes encoding (`decode_encode`), and a character that is
encoded in front of any octets comes out in front of their text
(`decodeFrom_utf8EncodeChar`).
-/
namespace DirectoryGroups.Utf8

/-- The character that stands for an ill-formed stretch. -/
def replacement : Char := '\ufffd'

/-! ### Encoding -/

/-- The octets of a text. -/
def encode (s : List Char) : List UInt8 :=
  s.flatMap String.utf8EncodeChar

@[simp] theorem encode_nil : encode [] = [] := rfl

@[simp] theorem encode_cons (c : Char) (s : List Char) :
    encode (c :: s) = String.utf8EncodeChar c ++ encode s := rfl

/-! ### Decoding -/

/-- Where the reader stands.  Within a character it waits for an octet from
`low` to `high` and for `more` tail octets after that one; `bits` holds the part
of the code point that is known. -/
inductive State where
  | start
  | within (more low high bits : Nat)
  deriving DecidableEq, Repr

/-- Reads the first octet of something new. -/
def first (octet : UInt8) : List Char × State :=
  let n := octet.toNat
  if n < 0x80 then ([.ofNat n], .start)
  else if n < 0xC2 then ([replacement], .start)
  else if n < 0xE0 then ([], .within 0 0x80 0xBF (n - 0xC0))
  else if n = 0xE0 then ([], .within 1 0xA0 0xBF 0)
  else if n = 0xED then ([], .within 1 0x80 0x9F 0xD)
  else if n < 0xF0 then ([], .within 1 0x80 0xBF (n - 0xE0))
  else if n = 0xF0 then ([], .within 2 0x90 0xBF 0)
  else if n < 0xF4 then ([], .within 2 0x80 0xBF (n - 0xF0))
  else if n = 0xF4 then ([], .within 2 0x80 0x8F 4)
  else ([replacement], .start)

/-- Reads one octet: the characters it completes, and where the reader stands
after it. -/
def feed (octet : UInt8) : State → List Char × State
  | .start => first octet
  | .within more low high bits =>
    if low ≤ octet.toNat ∧ octet.toNat ≤ high then
      let known := bits * 64 + (octet.toNat - 0x80)
      match more with
      | 0 => ([.ofNat known], .start)
      | more + 1 => ([], .within more 0x80 0xBF known)
    else
      (replacement :: (first octet).1, (first octet).2)

/-- What the end of the octets adds: a character that was begun is ill-formed. -/
def State.close : State → List Char
  | .start => []
  | .within .. => [replacement]

/-- The text of the octets that follow, for a reader that stands at `state`. -/
def decodeFrom (state : State) : List UInt8 → List Char
  | [] => state.close
  | octet :: rest => (feed octet state).1 ++ decodeFrom (feed octet state).2 rest

/-- The text of some octets. -/
def decode (octets : List UInt8) : List Char :=
  decodeFrom .start octets

/-! ### Decoding undoes encoding -/

theorem toNat_ofNat {n : Nat} (h : n < 256) : (UInt8.ofNat n).toNat = n := by
  simp only [UInt8.toNat_ofNat']
  omega

/-- A tail octet in range carries six more bits. -/
theorem feed_tail {more low high bits b : Nat} (hb : b < 64) (hlow : low ≤ b + 128)
    (hhigh : b + 128 ≤ high) :
    feed (UInt8.ofNat (b + 128)) (.within more low high bits)
      = match more with
        | 0 => ([.ofNat (bits * 64 + b)], .start)
        | more + 1 => ([], .within more 0x80 0xBF (bits * 64 + b)) := by
  simp only [feed, toNat_ofNat (show b + 128 < 256 by omega)]
  rw [if_pos ⟨hlow, hhigh⟩]
  cases more <;> simp

theorem first_of_two {b : Nat} (h : 2 ≤ b) (h' : b < 32) :
    first (UInt8.ofNat (b + 192)) = ([], .within 0 0x80 0xBF b) := by
  simp only [first, toNat_ofNat (show b + 192 < 256 by omega)]
  rw [if_neg (by omega), if_neg (by omega), if_pos (by omega)]
  simp

/-- The first octet of three: the next one is in range if the code point is
neither one that needs two octets nor a surrogate. -/
theorem first_of_three {b t : Nat} (h : b < 16) (h' : t < 64) (hlow : b = 0 → 32 ≤ t)
    (hhigh : b = 13 → t < 32) :
    ∃ low high, first (UInt8.ofNat (b + 224)) = ([], .within 1 low high b)
      ∧ low ≤ t + 128 ∧ t + 128 ≤ high := by
  simp only [first, toNat_ofNat (show b + 224 < 256 by omega)]
  by_cases h0 : b = 0
  · exact ⟨0xA0, 0xBF, by simp [h0], by omega, by omega⟩
  by_cases h13 : b = 13
  · exact ⟨0x80, 0x9F, by simp [h13], by omega, by omega⟩
  refine ⟨0x80, 0xBF, ?_, by omega, by omega⟩
  rw [if_neg (by omega), if_neg (by omega), if_neg (by omega), if_neg (by omega),
    if_neg (by omega), if_pos (by omega)]
  simp

/-- The first octet of four: the next one is in range if the code point neither
needs three octets nor is too large. -/
theorem first_of_four {b t : Nat} (h : b < 5) (h' : t < 64) (hlow : b = 0 → 16 ≤ t)
    (hhigh : b = 4 → t < 16) :
    ∃ low high, first (UInt8.ofNat (b + 240)) = ([], .within 2 low high b)
      ∧ low ≤ t + 128 ∧ t + 128 ≤ high := by
  simp only [first, toNat_ofNat (show b + 240 < 256 by omega)]
  by_cases h0 : b = 0
  · exact ⟨0x90, 0xBF, by simp [h0], by omega, by omega⟩
  by_cases h4 : b = 4
  · exact ⟨0x80, 0x8F, by simp [h4], by omega, by omega⟩
  refine ⟨0x80, 0xBF, ?_, by omega, by omega⟩
  rw [if_neg (by omega), if_neg (by omega), if_neg (by omega), if_neg (by omega),
    if_neg (by omega), if_neg (by omega), if_neg (by omega), if_pos (by omega)]
  simp

/-- **A character that is encoded in front of any octets comes out in front of
their text.** -/
theorem decodeFrom_utf8EncodeChar (c : Char) (rest : List UInt8) :
    decodeFrom .start (String.utf8EncodeChar c ++ rest) = c :: decodeFrom .start rest := by
  have hc : Char.ofNat c.val.toNat = c := Char.ofNat_toNat c
  have hv : c.val.toNat < 55296 ∨ 57343 < c.val.toNat ∧ c.val.toNat < 1114112 := c.valid
  unfold String.utf8EncodeChar
  generalize c.val.toNat = n at *
  simp only
  split
  · -- One octet.
    simp [decodeFrom, feed, first, toNat_ofNat (show n < 256 by omega), show n < 128 by omega,
      hc]
  split
  · -- Two octets: the first is in range as shorter forms are not used.
    simp only [List.cons_append, List.nil_append, decodeFrom, feed.eq_1,
      first_of_two (show 2 ≤ n / 64 % 32 by omega) (by omega)]
    rw [feed_tail (by omega) (by omega) (by omega),
      show n / 64 % 32 * 64 + n % 64 = n by omega, hc]
    rfl
  split
  · -- Three octets, where the second must not make a surrogate.
    obtain ⟨low, high, hfirst, hlow, hhigh⟩ :=
      first_of_three (b := n / 4096 % 16) (t := n / 64 % 64) (by omega) (by omega) (by omega)
        (by omega)
    simp only [List.cons_append, List.nil_append, decodeFrom, feed.eq_1, hfirst]
    rw [feed_tail (by omega) hlow hhigh]
    simp only [List.nil_append]
    rw [feed_tail (by omega) (by omega) (by omega),
      show (n / 4096 % 16 * 64 + n / 64 % 64) * 64 + n % 64 = n by omega, hc]
    rfl
  · -- Four octets, where the second must keep the code point within range.
    obtain ⟨low, high, hfirst, hlow, hhigh⟩ :=
      first_of_four (b := n / 262144 % 8) (t := n / 4096 % 64) (by omega) (by omega) (by omega)
        (by omega)
    simp only [List.cons_append, List.nil_append, decodeFrom, feed.eq_1, hfirst]
    rw [feed_tail (by omega) hlow hhigh]
    simp only [List.nil_append]
    rw [feed_tail (by omega) (by omega) (by omega)]
    simp only [List.nil_append]
    rw [feed_tail (by omega) (by omega) (by omega),
      show ((n / 262144 % 8 * 64 + n / 4096 % 64) * 64 + n / 64 % 64) * 64 + n % 64 = n by omega,
      hc]
    rfl

/-- **Decoding undoes encoding.** -/
theorem decode_encode (s : List Char) : decode (encode s) = s := by
  induction s with
  | nil => rfl
  | cons c s ih => rw [encode_cons, decode, decodeFrom_utf8EncodeChar, ← decode, ih]

end DirectoryGroups.Utf8
