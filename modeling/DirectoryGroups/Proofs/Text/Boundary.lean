/-
DirectoryGroups/Proofs/Text/Boundary.lean

Where the octets of a text may be cut.

Octets that do not make up characters are decoded as well, to one replacement for each
maximal subpart, and so it is not clear that the text of two runs of octets in a row is the
text of the one and then the text of the other: the octets of a character may stand on both
sides.  But a reader that stands within a character only waits for tail octets
(`State.AwaitsTail`), and no character begins with one.  So the text may be cut in front of
every octet that is no tail (`decodeFrom_append`), and in particular a character that is
encoded between any octets comes out between their texts (`decode_append_utf8EncodeChar`).

Every octet leaves a trace (`leavesTrace_feed`), and so only no octets have no text
(`decode_eq_nil_iff`).
-/
import DirectoryGroups.Text.Utf8
import Mathlib.Tactic.SplitIfs

namespace DirectoryGroups.Utf8

/-! ### Tail octets -/

/-- Whether an octet may only stand further on in a character. -/
def IsTail (octet : UInt8) : Prop :=
  0x80 ≤ octet.toNat ∧ octet.toNat ≤ 0xBF

/-- Whether the reader, if it stands within a character, only waits for tail octets. -/
def State.AwaitsTail : State → Prop
  | .start => True
  | .within _ low high _ => 0x80 ≤ low ∧ high ≤ 0xBF

/-- What reading an octet leaves behind: a character comes out, or the reader stands within
one, and there it only waits for tail octets. -/
structure LeavesTrace (result : List Char × State) : Prop where
  seen : result.1 ≠ [] ∨ result.2 ≠ .start
  awaitsTail : result.2.AwaitsTail

theorem leavesTrace_first (octet : UInt8) : LeavesTrace (first octet) := by
  simp only [first]
  split_ifs <;> exact ⟨by simp, by simp [State.AwaitsTail]⟩

/-- Every octet leaves a trace, wherever the reader stands. -/
theorem leavesTrace_feed (octet : UInt8) (state : State) : LeavesTrace (feed octet state) := by
  rcases state with - | ⟨more, low, high, bits⟩
  · exact leavesTrace_first octet
  · simp only [feed]
    split_ifs
    · -- The octet belongs to the character, which is now complete or waits for a tail again.
      rcases more with - | more
      · exact ⟨.inl (List.cons_ne_nil _ _), trivial⟩
      · exact ⟨.inr (by simp), Nat.le_refl _, Nat.le_refl _⟩
    · -- It does not, so what was begun comes out as a replacement.
      exact ⟨.inl (List.cons_ne_nil _ _), (leavesTrace_first octet).awaitsTail⟩

/-- An octet that is no tail ends what was begun and is the first of something new. -/
theorem feed_of_not_isTail {state : State} (h : state.AwaitsTail) {octet : UInt8}
    (hoctet : ¬ IsTail octet) :
    feed octet state = (state.close ++ (first octet).1, (first octet).2) := by
  rcases state with - | ⟨more, low, high, bits⟩
  · rfl
  · have hrange : ¬ (low ≤ octet.toNat ∧ octet.toNat ≤ high) := by
      rintro ⟨hlow, hhigh⟩
      exact hoctet ⟨Nat.le_trans h.1 hlow, Nat.le_trans hhigh h.2⟩
    rw [feed, if_neg hrange]
    rfl

/-- The encoding of a character begins with an octet that is no tail. -/
theorem exists_utf8EncodeChar (c : Char) :
    ∃ octet more, String.utf8EncodeChar c = octet :: more ∧ ¬ IsTail octet := by
  have hv : c.val.toNat < 55296 ∨ 57343 < c.val.toNat ∧ c.val.toNat < 1114112 := c.valid
  unfold String.utf8EncodeChar
  generalize c.val.toNat = n at *
  simp only
  -- Of one, two, three or four octets the first is below the tails or above them.
  split_ifs <;> refine ⟨_, _, rfl, ?_⟩ <;> rw [IsTail, toNat_ofNat (by omega)] <;> omega

/-! ### Cutting -/

/-- **Octets may be cut in front of an octet that is no tail**: the text of the whole is the
text of the first part, where what was begun is closed, and then the text of the second. -/
theorem decodeFrom_append {state : State} (h : state.AwaitsTail) (octets : List UInt8)
    {rest : List UInt8} (hrest : ∀ octet ∈ rest.head?, ¬ IsTail octet) :
    decodeFrom state (octets ++ rest) = decodeFrom state octets ++ decode rest := by
  induction octets generalizing state with
  | nil =>
    rcases rest with - | ⟨octet, rest⟩
    · simp [decodeFrom, decode, State.close]
    · -- Here the cut is reached: an octet that is no tail closes what was begun, as the end does.
      have hfeed := feed_of_not_isTail h (hrest octet rfl)
      rw [List.nil_append, decodeFrom.eq_2, hfeed, List.append_assoc]
      rfl
  | cons octet octets ih =>
    rw [List.cons_append, decodeFrom, ih (leavesTrace_feed octet state).awaitsTail, decodeFrom,
      List.append_assoc]

/-- **A character that is encoded between any octets comes out between their texts.** -/
theorem decode_append_utf8EncodeChar (octets : List UInt8) (c : Char) (rest : List UInt8) :
    decode (octets ++ (String.utf8EncodeChar c ++ rest)) = decode octets ++ c :: decode rest := by
  have hcut : ∀ octet ∈ (String.utf8EncodeChar c ++ rest).head?, ¬ IsTail octet := by
    obtain ⟨octet, more, hc, hoctet⟩ := exists_utf8EncodeChar c
    intro other hother
    rw [hc] at hother
    obtain rfl := Option.some.inj hother
    exact hoctet
  have hstart : State.start.AwaitsTail := trivial
  have hafter : decode (String.utf8EncodeChar c ++ rest) = c :: decode rest :=
    decodeFrom_utf8EncodeChar c rest
  rw [decode, decodeFrom_append hstart octets hcut, hafter]
  rfl

example : decode ([0xE2, 0x82] ++ (String.utf8EncodeChar 'é' ++ [0x82, 0xAC]))
    = ['\ufffd', 'é', '\ufffd', '\ufffd'] := by decide

/-! ### No octets, no text -/

/-- A reader that stands within a character, or has octets to read, has text to come. -/
theorem decodeFrom_ne_nil {state : State} {octets : List UInt8}
    (h : state ≠ .start ∨ octets ≠ []) : decodeFrom state octets ≠ [] := by
  induction octets generalizing state with
  | nil =>
    rcases state with - | ⟨more, low, high, bits⟩
    · simp at h
    · exact List.cons_ne_nil _ _
  | cons octet octets ih =>
    rw [decodeFrom]
    -- Either a character comes out at once, or the reader has begun one.
    rcases (leavesTrace_feed octet state).seen with hseen | hwithin
    · exact List.append_ne_nil_of_left_ne_nil hseen _
    · exact List.append_ne_nil_of_right_ne_nil _ (ih (.inl hwithin))

/-- **Only no octets have no text.** -/
theorem decode_eq_nil_iff {octets : List UInt8} : decode octets = [] ↔ octets = [] := by
  rcases octets with - | ⟨octet, octets⟩
  · exact iff_of_true rfl rfl
  · exact iff_of_false (decodeFrom_ne_nil (.inr (List.cons_ne_nil _ _))) (List.cons_ne_nil _ _)

end DirectoryGroups.Utf8
