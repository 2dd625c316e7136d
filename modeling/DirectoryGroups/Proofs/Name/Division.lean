/-
DirectoryGroups/Proofs/Name/Division.lean

How a text is divided that is written pair by pair.

Pairs are written one after another, each followed by its joint, a plus sign or a
comma, and the last one by nothing (`WellJoined`).  If the attributes and values pass
their checks (`TypedValue.Legible`), what a value holds is guarded: no separator and no
equals sign is free within it, and behind it everything is free again.  So the only
free places are the equals sign of each pair and the joints between pairs, and
dividing the text at the first joint cuts off the first pair.  Of what comes after the
joint only the beginning counts: it must look like that of a pair (`Opens`).

Main results: a pair in front of such a text is cut off and leaves the rest as it is
(`pieces_pair_append`), and so the pieces of a text that was written pair by pair are the
pairs (`pieces_joinedText`).
-/
import DirectoryGroups.Proofs.Name.Parsed

namespace DirectoryGroups

namespace Name

/-! ### Free places -/

/-- What the characters of a text change for what comes after them. -/
def Guard.afterAll (g : Guard) (s : List Char) : Guard :=
  s.foldl (fun g c => g.after c) g

@[simp] theorem Guard.afterAll_nil (g : Guard) : g.afterAll [] = g := rfl

@[simp] theorem Guard.afterAll_cons (g : Guard) (c : Char) (s : List Char) :
    g.afterAll (c :: s) = (g.after c).afterAll s := rfl

theorem Guard.afterAll_append (g : Guard) (s t : List Char) :
    g.afterAll (s ++ t) = (g.afterAll s).afterAll t :=
  List.foldl_append

theorem placesFrom_append (c : Char) (g : Guard) (i : Nat) (s t : List Char) :
    placesFrom c g i (s ++ t)
      = placesFrom c g i s ++ placesFrom c (g.afterAll s) (i + s.length) t := by
  induction s generalizing g i with
  | nil => rfl
  | cons d s ih =>
    have hnext : i + 1 + s.length = i + (d :: s).length := by
      rw [List.length_cons]
      omega
    simp only [List.cons_append, placesFrom, ih, Guard.afterAll_cons, hnext]
    split
    · rfl
    · rfl

theorem placesFrom_of_not_mem {c : Char} {s : List Char} (h : c ∉ s) (g : Guard) (i : Nat) :
    placesFrom c g i s = [] := by
  induction s generalizing g i with
  | nil => rfl
  | cons d s ih =>
    rw [List.mem_cons, not_or] at h
    rw [placesFrom, if_neg fun hd => h.1 hd.2.symm]
    exact ih h.2 _ _

theorem le_of_mem_placesFrom {c : Char} {g : Guard} {i j : Nat} {s : List Char}
    (h : j ∈ placesFrom c g i s) : i ≤ j := by
  induction s generalizing g i with
  | nil => cases h
  | cons d s ih =>
    rw [placesFrom] at h
    split at h
    · rcases List.mem_cons.mp h with rfl | hmem
      · exact Nat.le_refl _
      · exact Nat.le_of_succ_le (ih hmem)
    · exact Nat.le_of_succ_le (ih h)

/-- Behind a text without backslashes everything stays free. -/
theorem afterAll_free {s : List Char} (h : '\\' ∉ s) : Guard.free.afterAll s = .free := by
  induction s with
  | nil => rfl
  | cons c s ih =>
    rw [List.mem_cons, not_or] at h
    rw [Guard.afterAll_cons, Guard.after, if_neg (Ne.symm h.1)]
    exact ih h.2

/-! ### Fronts -/

theorem ne_nil_of_checkAttribute {s : List Char} (h : checkAttribute s = .ok ()) : s ≠ [] := by
  rintro rfl
  cases h

/-- A separator is special, and what comes behind a free one is free. -/
theorem special_of_separator {c : Char} (hc : c = '+' ∨ c = ',') :
    isSpecial c = true ∧ c ≠ '=' ∧ Guard.free.after c = .free := by
  rcases hc with rfl | rfl <;> decide

/-- A text that may stand before the equals sign of a pair. -/
structure Front (s : List Char) : Prop where
  ne_nil : s ≠ []
  slash : '\\' ∉ s
  equal : '=' ∉ s
  separator : ∀ {c}, c = '+' ∨ c = ',' → c ∉ s

theorem front_of_checkAttribute {s : List Char} (h : checkAttribute s = .ok ()) : Front s where
  ne_nil := ne_nil_of_checkAttribute h
  slash := not_mem_of_checkAttribute h (by decide)
  equal := not_mem_of_checkAttribute h (by decide)
  separator hc := not_mem_of_checkAttribute h (by rcases hc with rfl | rfl <;> decide)

/-- Where a pair begins. -/
def Guard.IsOpen (g : Guard) : Prop :=
  g = .start ∨ g = .free

variable {front back : List Char}

theorem Guard.IsOpen.afterAll_front {g : Guard} (hg : g.IsOpen) (h : Front front) :
    g.afterAll front = .free := by
  have hslash := h.slash
  rcases front with - | ⟨c, s⟩
  · exact absurd rfl h.ne_nil
  · rw [List.mem_cons, not_or] at hslash
    have hfree : g.after c = .free := by
      rcases hg with rfl | rfl <;> simp [Guard.after, Ne.symm hslash.1]
    rw [Guard.afterAll_cons, hfree, afterAll_free hslash.2]

/-- A separator is free neither in a front nor at the equals sign behind it. -/
theorem placesFrom_front {g : Guard} (hg : g.IsOpen) (h : Front front) {c : Char}
    (hc : c = '+' ∨ c = ',') (i : Nat) (back : List Char) :
    placesFrom c g i (front ++ '=' :: back)
      = placesFrom c .free (i + front.length + 1) back := by
  obtain ⟨-, hne, -⟩ := special_of_separator hc
  rw [placesFrom_append, placesFrom_of_not_mem (h.separator hc), hg.afterAll_front h, placesFrom,
    if_neg fun he => hne he.2.symm]
  rfl

/-- The first free equals sign is the one behind the front. -/
theorem placesFrom_equal_front {g : Guard} (hg : g.IsOpen) (h : Front front) (i : Nat)
    (back : List Char) :
    placesFrom '=' g i (front ++ '=' :: back)
      = (i + front.length) :: placesFrom '=' .free (i + front.length + 1) back := by
  rw [placesFrom_append, placesFrom_of_not_mem h.equal, hg.afterAll_front h, placesFrom,
    if_pos ⟨rfl, rfl⟩]
  rfl

/-- Whether a text begins as a pair does. -/
def Opens (s : List Char) : Prop :=
  ∃ front back, s = front ++ '=' :: back ∧ Front front

theorem Opens.ne_nil {s : List Char} (h : Opens s) : s ≠ [] := by
  obtain ⟨front, back, rfl, -⟩ := h
  exact List.append_ne_nil_of_right_ne_nil _ (List.cons_ne_nil _ _)

theorem Opens.append {s : List Char} (h : Opens s) (rest : List Char) : Opens (s ++ rest) := by
  obtain ⟨front, back, rfl, hfront⟩ := h
  refine ⟨front, back ++ rest, ?_, hfront⟩
  rw [List.append_assoc, List.cons_append]

/-- A piece that begins as a pair does is a pair of its own. -/
theorem Opens.hasEqual {s : List Char} (h : Opens s) (joint : Joint) :
    (⟨s, joint⟩ : Piece).hasEqual = true := by
  obtain ⟨front, back, rfl, hfront⟩ := h
  rw [Piece.hasEqual, places, placesFrom_equal_front (.inl rfl) hfront]
  rfl

/-! ### Values -/

theorem isSpecial_equal : isSpecial '=' = true := by decide

/-- Within a token of a written value nothing special is free, and behind it
everything is. -/
theorem token_guards {t : Token} (h : t.Written) {c : Char} (hc : isSpecial c = true) (i : Nat) :
    placesFrom c .free i t.text = [] ∧ Guard.free.afterAll t.text = .free := by
  have hslash : '\\' ≠ c := by
    rintro rfl
    cases hc
  cases t with
  | plain d =>
    obtain ⟨hd, hspecial⟩ := h
    have hdc : d ≠ c := by
      rintro rfl
      rw [hspecial] at hc
      cases hc
    simp [Token.text, placesFrom, Guard.after, hd, hdc]
  | escaped d =>
    simp [Token.text, placesFrom, Guard.after, hslash]
  | octet high low =>
    -- The backslash guards the first digit only, but neither digit is special.
    have hlow : low ≠ c := by
      rintro rfl
      have hnone : Hex.isDigit low = false := isDigit_of_isEscapable (by simp [isEscapable, hc])
      rw [h.2] at hnone
      cases hnone
    have hback : low ≠ '\\' := by
      rintro rfl
      cases h.2
    simp [Token.text, placesFrom, Guard.after, hslash, hlow, hback]

/-- Within a written value nothing special is free, and behind it everything is. -/
theorem value_guards {s : List Char} (h : ∀ t ∈ tokens s, t.Written) {c : Char}
    (hc : isSpecial c = true) (i : Nat) :
    placesFrom c .free i s = [] ∧ Guard.free.afterAll s = .free := by
  rw [← flatMap_text_tokens s]
  generalize tokens s = ts at h
  -- Each token leaves everything free for the next one.
  induction ts generalizing i with
  | nil => exact ⟨rfl, rfl⟩
  | cons t ts ih =>
    obtain ⟨hplaces, hguard⟩ := token_guards (h t List.mem_cons_self) hc i
    obtain ⟨hrest, hguard'⟩ :=
      ih (i + t.text.length) (fun u hu => h u (List.mem_cons_of_mem _ hu))
    rw [List.flatMap_cons, placesFrom_append, Guard.afterAll_append, hplaces, hguard, hrest,
      hguard']
    exact ⟨rfl, rfl⟩

end Name

/-! ### Pairs -/

/-- A pair that can be written and read again: its attribute passes its check, and so
does every token of its value. -/
structure TypedValue.Legible (p : TypedValue) : Prop where
  attr : Name.checkAttribute p.attr.toList = .ok ()
  value : ∀ t ∈ Name.tokens p.value.toList, t.Written

namespace Name

variable {p : TypedValue} {front back : List Char}

theorem opens_text (h : p.Legible) : Opens p.text :=
  ⟨_, _, rfl, front_of_checkAttribute h.attr⟩

/-- A pair and what comes after it. -/
theorem text_append (p : TypedValue) (rest : List Char) :
    p.text ++ rest = p.attr.toList ++ '=' :: (p.value.toList ++ rest) := by
  rw [TypedValue.text, List.append_assoc, List.cons_append]

theorem length_text (p : TypedValue) :
    p.text.length = p.attr.toList.length + 1 + p.value.toList.length := by
  rw [TypedValue.text, List.length_append, List.length_cons]
  omega

/-- A separator is not free within a pair. -/
theorem placesFrom_pair {g : Guard} (hg : g.IsOpen) (h : p.Legible) {c : Char}
    (hc : c = '+' ∨ c = ',') (i : Nat) (rest : List Char) :
    placesFrom c g i (p.text ++ rest) = placesFrom c .free (i + p.text.length) rest := by
  obtain ⟨hvalue, hguard⟩ := value_guards h.value (special_of_separator hc).1
    (i + p.attr.toList.length + 1)
  have hlength : i + p.attr.toList.length + 1 + p.value.toList.length = i + p.text.length := by
    rw [length_text]
    omega
  rw [text_append, placesFrom_front hg (front_of_checkAttribute h.attr) hc, placesFrom_append,
    hvalue, hguard, List.nil_append, hlength]

/-- Of the equals signs in a pair only the one behind the attribute is free. -/
theorem placesFrom_equal_pair {g : Guard} (hg : g.IsOpen) (h : p.Legible) (i : Nat)
    (rest : List Char) :
    placesFrom '=' g i (p.text ++ rest)
      = (i + p.attr.toList.length) :: placesFrom '=' .free (i + p.text.length) rest := by
  obtain ⟨hvalue, hguard⟩ := value_guards h.value isSpecial_equal (i + p.attr.toList.length + 1)
  have hlength : i + p.attr.toList.length + 1 + p.value.toList.length = i + p.text.length := by
    rw [length_text]
    omega
  rw [text_append, placesFrom_equal_front hg (front_of_checkAttribute h.attr), placesFrom_append,
    hvalue, hguard, List.nil_append, hlength]

/-! ### Division -/

/-- A division falls on the first separator if an equals sign, but no further
separator, comes before the end of what follows. -/
theorem divisionAt_first {separators equals before after : List Nat} {first e : Nat}
    (hseparators : ∀ i ∈ separators, e ≤ i) (hequals : equals = before ++ e :: after)
    (hbefore : ∀ i ∈ before, i ≤ first) (hgap : first + 1 < e) :
    divisionAt (first :: separators) equals first = some first := by
  -- The first equals sign behind the separator is that of the next pair.
  have hfind : equals.find? (first < ·) = some e := by
    have hnone : before.find? (first < ·) = none := by
      rw [List.find?_eq_none]
      intro i hi
      simpa using hbefore i hi
    rw [hequals, List.find?_append, hnone, Option.none_or, List.find?_cons_of_pos]
    simpa using Nat.lt_of_succ_lt hgap
  -- Of the separators in front of that sign there is just this one.
  have hfilter : (first :: separators).filter (fun i => first ≤ i && i < e) = [first] := by
    rw [List.filter_cons_of_pos (by simpa using Nat.lt_of_succ_lt hgap), List.filter_eq_nil_iff.mpr]
    intro i hi
    have hle := hseparators i hi
    simp only [Bool.and_eq_true, decide_eq_true_eq]
    omega
  simp only [divisionAt, hfind, if_pos hgap, hfilter, List.getLast?_singleton]

/-- The free places of a separator, behind a pair that it may follow. -/
theorem places_separator (hp : p.Legible) {c : Char} (hc : c = '+' ∨ c = ',')
    (more : List Char) :
    places c (p.text ++ more) = placesFrom c .free p.text.length more := by
  rw [places, placesFrom_pair (.inl rfl) hp hc, Nat.zero_add]

/-- Between the joint and the next equals sign there is no separator. -/
theorem le_of_mem_further (h : Front front) {c : Char} (hc : c = '+' ∨ c = ',') {n i : Nat}
    (hi : i ∈ placesFrom c .free (n + 1) (front ++ '=' :: back)) :
    n + 1 + front.length ≤ i := by
  rw [placesFrom_front (.inr rfl) h hc] at hi
  exact Nat.le_of_succ_le (le_of_mem_placesFrom hi)

/-- A text that goes on behind a pair is divided behind the pair, at whichever separator
stands there. -/
theorem divisionAt_pair (hp : p.Legible) (hfront : Front front) {c : Char}
    (hc : c = '+' ∨ c = ',') :
    divisionAt (p.text.length :: placesFrom c .free (p.text.length + 1) (front ++ '=' :: back))
      (places '=' (p.text ++ c :: (front ++ '=' :: back))) p.text.length
      = some p.text.length := by
  obtain ⟨-, hne, hopen⟩ := special_of_separator hc
  have hequals : ∃ after, places '=' (p.text ++ c :: (front ++ '=' :: back))
      = [p.attr.toList.length] ++ (p.text.length + 1 + front.length) :: after := by
    rw [places, placesFrom_equal_pair (.inl rfl) hp, Nat.zero_add, Nat.zero_add, placesFrom,
      if_neg fun h => hne h.2, hopen, placesFrom_equal_front (.inr rfl) hfront]
    exact ⟨_, rfl⟩
  obtain ⟨after, hequals⟩ := hequals
  have hwithin : p.attr.toList.length ≤ p.text.length := by
    rw [TypedValue.text, List.length_append]
    exact Nat.le_add_right _ _
  have hgap : 0 < front.length := List.length_pos_iff.mpr hfront.ne_nil
  exact divisionAt_first (fun i hi => le_of_mem_further hfront hc hi) hequals
    (by simpa using hwithin) (by omega)

/-- A text that goes on behind a pair is divided behind the pair. -/
theorem division_pair_append (hp : p.Legible) {joint : Joint} (hjoint : joint ≠ .last)
    {s : List Char} (hs : Opens s) :
    division (p.text ++ (joint.text ++ s)) = some (p.text.length, joint) := by
  obtain ⟨-, -, hplus⟩ := special_of_separator (.inl rfl)
  obtain ⟨-, -, hcomma⟩ := special_of_separator (.inr rfl)
  obtain ⟨front, back, rfl, hfront⟩ := hs
  cases joint with
  | last => exact absurd rfl hjoint
  | plus =>
    -- The plus sign goes first, since every comma comes later.
    have hfirst : (placesFrom ',' .free (p.text.length + 1) (front ++ '=' :: back)).head?.all
        (p.text.length < ·) = true := by
      rw [Option.all_eq_true]
      intro i hi
      have hle := le_of_mem_further hfront (.inr rfl) (List.mem_of_mem_head? hi)
      simpa using (show p.text.length < i by omega)
    rw [Joint.text, List.singleton_append, division, places_separator hp (.inl rfl),
      places_separator hp (.inr rfl), placesFrom, if_pos ⟨rfl, rfl⟩, hplus, placesFrom,
      if_neg (by decide), hplus]
    simp only [List.head?_cons, hfirst, if_true, divisionAt_pair hp hfront (.inl rfl),
      Option.map_some, Option.some_or]
  | comma =>
    rw [Joint.text, List.singleton_append, division, places_separator hp (.inl rfl),
      places_separator hp (.inr rfl), placesFrom, if_neg (by decide), hcomma, placesFrom,
      if_pos ⟨rfl, rfl⟩, hcomma]
    simp only [List.head?_cons, Option.bind_some, divisionAt_pair hp hfront (.inr rfl),
      Option.map_some]
    -- A plus sign further on does not come before the comma.
    rcases hhead : (placesFrom '+' .free (p.text.length + 1) (front ++ '=' :: back)).head?
      with - | i
    · rfl
    · have hle := le_of_mem_further hfront (.inl rfl) (List.mem_of_mem_head? hhead)
      have hlate : ¬ i < p.text.length := by omega
      simp [hlate]

/-- A place of division is one of the separators, and an equals sign comes behind it. -/
theorem mem_of_divisionAt {separators equals : List Nat} {first i : Nat}
    (h : divisionAt separators equals first = some i) :
    i ∈ separators ∧ ∃ e ∈ equals, i < e := by
  unfold divisionAt at h
  split at h
  · rename_i e hequal
    split at h
    · obtain ⟨hmem, hwithin⟩ := List.mem_filter.mp (List.mem_of_getLast? h)
      rw [Bool.and_eq_true, decide_eq_true_eq, decide_eq_true_eq] at hwithin
      exact ⟨hmem, e, List.mem_of_find?_eq_some hequal, hwithin.2⟩
    · cases h
  · cases h

/-- A text is divided where the joint stands free, with a free equals sign behind it. -/
theorem mem_of_division {s : List Char} {i : Nat} {joint : Joint}
    (h : division s = some (i, joint)) :
    ∃ c, (c = '+' ∨ c = ',') ∧ joint.text = [c] ∧ i ∈ places c s ∧ ∃ e ∈ places '=' s, i < e := by
  simp only [division, Option.or_eq_some_iff, Option.map_eq_some_iff, Option.bind_eq_some_iff] at h
  -- Division tries the plus signs, and then the commas.
  rcases h with h | ⟨-, j, ⟨first, -, hj⟩, hpair⟩
  · split at h
    · split at h
      · obtain ⟨j, hj, hpair⟩ := Option.map_eq_some_iff.mp h
        cases hpair
        exact ⟨'+', .inl rfl, rfl, mem_of_divisionAt hj⟩
      · cases h
    · cases h
  · cases hpair
    exact ⟨',', .inr rfl, rfl, mem_of_divisionAt hj⟩

/-- A text of one pair is not divided. -/
theorem division_pair (hp : p.Legible) : division p.text = none := by
  have hnone : ∀ c, c = '+' ∨ c = ',' → places c p.text = [] := by
    intro c hc
    rw [← List.append_nil p.text, places_separator hp hc]
    rfl
  rw [division, hnone '+' (.inl rfl), hnone ',' (.inr rfl)]
  rfl

/-! ### The first pair -/

theorem divide_of_division {s : List Char} {i : Nat} {joint : Joint}
    (h : division s = some (i, joint)) (hs : s ≠ []) :
    divide s = ⟨s.take i, joint⟩ :: divide (s.drop (i + 1)) := by
  rcases s with - | ⟨c, s⟩
  · exact absurd rfl hs
  · rw [divide, h]
    rfl

theorem divide_of_division_none {s : List Char} (h : division s = none) (hs : s ≠ []) :
    divide s = [⟨s, .last⟩] := by
  rcases s with - | ⟨c, s⟩
  · exact absurd rfl hs
  · rw [divide, h]

/-- Dividing a text that goes on behind a pair cuts off the pair. -/
theorem divide_pair_append (hp : p.Legible) {joint : Joint} (hjoint : joint ≠ .last)
    {s : List Char} (hs : Opens s) :
    divide (p.text ++ (joint.text ++ s)) = ⟨p.text, joint⟩ :: divide s := by
  -- The joint is one character, which is dropped together with the pair.
  have hdrop : (p.text ++ (joint.text ++ s)).drop (p.text.length + 1) = s := by
    rw [← List.drop_drop, List.drop_left]
    cases joint with
    | last => exact absurd rfl hjoint
    | plus => rfl
    | comma => rfl
  rw [divide_of_division (division_pair_append hp hjoint hs) ((opens_text hp).append _).ne_nil,
    List.take_left, hdrop]

/-- The first part of a text that begins as a pair does is a pair of its own. -/
theorem Opens.exists_divide {s : List Char} (hs : Opens s) :
    ∃ piece more, divide s = piece :: more ∧ piece.hasEqual = true := by
  rcases hdivision : division s with - | ⟨i, joint⟩
  · exact ⟨_, _, divide_of_division_none hdivision hs.ne_nil, hs.hasEqual .last⟩
  · refine ⟨_, _, divide_of_division hdivision hs.ne_nil, ?_⟩
    obtain ⟨c, hc, -, hi, -⟩ := mem_of_division hdivision
    obtain ⟨front, back, rfl, hfront⟩ := hs
    -- The equals sign stands before every separator, so the division keeps it.
    rw [places, placesFrom_front (.inl rfl) hfront hc] at hi
    have hle := le_of_mem_placesFrom hi
    obtain ⟨n, rfl⟩ : ∃ n, i = front.length + (n + 1) := ⟨i - front.length - 1, by omega⟩
    refine Opens.hasEqual ⟨front, back.take n, ?_, hfront⟩ joint
    rw [List.take_length_add_append, List.take_succ_cons]

/-- **A pair in front of a text is cut off, and the rest is left as it is**, if the rest
begins as a pair does. -/
theorem pieces_pair_append (hp : p.Legible) {joint : Joint} (hjoint : joint ≠ .last)
    {s : List Char} (hs : Opens s) :
    pieces (p.text ++ (joint.text ++ s)) = ⟨p.text, joint⟩ :: pieces s := by
  obtain ⟨piece, more, hdivide, hequal⟩ := hs.exists_divide
  simp only [pieces, divide_pair_append hp hjoint hs, hdivide, gather, hequal, if_true]

/-- A text of one pair is one piece. -/
theorem pieces_pair (hp : p.Legible) : pieces p.text = [⟨p.text, .last⟩] := by
  simp only [pieces, divide_of_division_none (division_pair hp) (opens_text hp).ne_nil, gather]

/-! ### Texts written pair by pair -/

/-- How a pair and what follows it are written. -/
def JoinedPair.text (p : JoinedPair) : List Char :=
  p.pair.text ++ p.joint.text

/-- The piece that a pair is written as. -/
def JoinedPair.piece (p : JoinedPair) : Piece :=
  ⟨p.pair.text, p.joint⟩

/-- Pairs written one after another. -/
def joinedText (pairs : List JoinedPair) : List Char :=
  pairs.flatMap JoinedPair.text

theorem joinedText_cons (p : TypedValue) (joint : Joint) (rest : List JoinedPair) :
    joinedText (⟨p, joint⟩ :: rest) = p.text ++ (joint.text ++ joinedText rest) := by
  rw [joinedText, List.flatMap_cons, JoinedPair.text, List.append_assoc, joinedText]

/-- A plus sign or a comma follows every pair but the last. -/
inductive WellJoined : List JoinedPair → Prop
  | last (p : TypedValue) : WellJoined [⟨p, .last⟩]
  | cons {p joint rest} :
      joint ≠ .last → WellJoined rest → WellJoined (⟨p, joint⟩ :: rest)

theorem WellJoined.ne_nil {pairs : List JoinedPair} (h : WellJoined pairs) : pairs ≠ [] := by
  cases h <;> exact List.cons_ne_nil _ _

theorem WellJoined.opens {pairs : List JoinedPair} (h : WellJoined pairs)
    (hlegible : ∀ p ∈ pairs, p.pair.Legible) : Opens (joinedText pairs) := by
  cases h with
  | last p =>
    rw [joinedText_cons]
    exact (opens_text (hlegible _ List.mem_cons_self)).append _
  | @cons p joint rest _ _ =>
    rw [joinedText_cons]
    exact (opens_text (hlegible ⟨p, joint⟩ List.mem_cons_self)).append _

/-- **The pieces of a text that was written pair by pair are the pairs.** -/
theorem pieces_joinedText {pairs : List JoinedPair} (hjoined : WellJoined pairs)
    (hlegible : ∀ p ∈ pairs, p.pair.Legible) :
    pieces (joinedText pairs) = pairs.map JoinedPair.piece := by
  induction hjoined with
  | last p =>
    have htext : joinedText [⟨p, .last⟩] = p.text :=
      (joinedText_cons p .last []).trans (List.append_nil _)
    rw [htext, pieces_pair (hlegible _ List.mem_cons_self)]
    rfl
  | @cons p joint rest hjoint hrest ih =>
    have hothers : ∀ q ∈ rest, q.pair.Legible :=
      fun q hq => hlegible q (List.mem_cons_of_mem _ hq)
    rw [joinedText_cons, pieces_pair_append (hlegible ⟨p, joint⟩ List.mem_cons_self) hjoint
      (hrest.opens hothers), ih hothers]
    rfl

end Name

end DirectoryGroups
