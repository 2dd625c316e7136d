/-
DirectoryGroups/Proofs/Name/Grouping.lean

How the pairs of a text make up the components of its name.

A text is divided at plus signs and commas behind which another pair comes, so a joint stands
behind every pair that is read but the last (`wellJoined_of_readPairs`).  A plus sign keeps the
next pair in the component and a comma begins another one.  In a name these joints are not kept.
But they can be told from its components: there are plus signs within components and commas
between them, and putting them back gives the pairs as they were read (`joined_group`).

Main result: a name that was read has just the pairs of its text, its components end where the
joints say so, and it is written with the same joints (`groupedFrom_of_parse`).
-/
import DirectoryGroups.Proofs.Name.Prefixed

namespace DirectoryGroups

namespace Name

/-! ### The joints of a text -/

/-- Joints of which the last one ends the name, and no other. -/
inductive Joint.OneEnd : List Joint → Prop
  | last : OneEnd [.last]
  | cons {joint rest} : joint ≠ .last → OneEnd rest → OneEnd (joint :: rest)

theorem Joint.OneEnd.of_cons {joint next : Joint} {rest : List Joint}
    (h : OneEnd (joint :: next :: rest)) : joint ≠ .last ∧ OneEnd (next :: rest) := by
  cases h with
  | cons hjoint hrest => exact ⟨hjoint, hrest⟩

theorem wellJoined_of_oneEnd {pairs : List JoinedPair}
    (h : Joint.OneEnd (pairs.map JoinedPair.joint)) : WellJoined pairs := by
  induction pairs with
  | nil => cases h
  | cons p rest ih =>
    rcases p with ⟨pair, joint⟩
    rcases rest with - | ⟨q, rest⟩
    · -- A joint that does not end the name has another one behind it.
      cases h with
      | last => exact .last pair
      | cons _ hnone => cases hnone
    · obtain ⟨hjoint, hrest⟩ := h.of_cons
      exact .cons hjoint (ih hrest)

/-- A text is divided in front of an equals sign, so that something is left to go on with. -/
theorem oneEnd_divide {s : List Char} (h : s ≠ []) :
    Joint.OneEnd ((divide s).map Piece.joint) := by
  induction s using divide.induct with
  | case1 => exact absurd rfl h
  | case2 c rest i joint hdivision ih =>
    obtain ⟨d, -, hjoint, -, e, hequal, hlt⟩ := mem_of_division hdivision
    have hwithin : e < (c :: rest).length :=
      (List.getElem?_eq_some_iff.mp (getElem?_of_mem_placesFrom hequal)).1
    -- The equals sign comes behind the place of division, so it is left over.
    have hmore : rest.drop i ≠ [] := by
      rw [List.length_cons] at hwithin
      rw [ne_eq, List.drop_eq_nil_iff]
      omega
    rw [divide_of_division hdivision (List.cons_ne_nil _ _), List.map_cons, List.drop_succ_cons]
    refine .cons ?_ (ih hmore)
    rintro rfl
    cases hjoint
  | case3 c rest hdivision =>
    rw [divide_of_division_none hdivision (List.cons_ne_nil _ _)]
    exact .last

/-- A part that is joined to the one before it brings its own joint along, and the joint
between the two becomes text. -/
theorem oneEnd_gather {current : Piece} {rest : List Piece}
    (h : Joint.OneEnd ((current :: rest).map Piece.joint)) :
    Joint.OneEnd ((gather current rest).map Piece.joint) := by
  induction rest generalizing current with
  | nil => exact h
  | cons p rest ih =>
    obtain ⟨hjoint, hrest⟩ := h.of_cons
    rw [gather]
    split
    · exact .cons hjoint (ih hrest)
    · exact ih hrest

theorem oneEnd_pieces {s : List Char} (h : s ≠ []) :
    Joint.OneEnd ((pieces s).map Piece.joint) := by
  have hdivide := oneEnd_divide h
  unfold pieces
  split
  · rename_i hnone
    rwa [hnone] at hdivide
  · rename_i piece rest hparts
    rw [hparts] at hdivide
    exact oneEnd_gather hdivide

/-- **A joint stands behind every pair that is read but the last.** -/
theorem wellJoined_of_readPairs {s : List Char} {pairs : List JoinedPair}
    (h : readPairs s = .ok pairs) : WellJoined pairs := by
  have hjoints : (pieces s).map Piece.joint = pairs.map JoinedPair.joint := by
    apply map_eq_of_forall₂
    rw [List.forall₂_map_right_iff]
    exact (pairs_of_readPairs h).2.imp fun _ _ hread => hread.2.symm
  apply wellJoined_of_oneEnd
  rw [← hjoints]
  exact oneEnd_pieces (opens_of_readPairs h).ne_nil

/-! ### Grouping -/

variable {pairs : List JoinedPair}

theorem joined_cons_pair (p : TypedValue) (r : RelativeName) (more : List RelativeName) :
    joined (r.cons p :: more) = ⟨p, .plus⟩ :: joined (r :: more) := by
  rcases r with ⟨- | ⟨q, rest⟩, hne⟩
  · exact absurd rfl hne
  · cases more <;> rfl

theorem joined_single_cons (p : TypedValue) {components : List RelativeName}
    (h : components ≠ []) :
    joined (.single p :: components) = ⟨p, .comma⟩ :: joined components := by
  cases components with
  | nil => exact absurd rfl h
  | cons r more => rfl

/-- **The joints can be told from the components.** -/
theorem joined_group (h : WellJoined pairs) : joined (group pairs) = pairs := by
  induction h with
  | last p => rfl
  | @cons p joint rest hjoint hrest ih =>
    cases joint with
    | last => exact absurd rfl hjoint
    | comma =>
      rw [group_cons_of_ne_plus (by decide), joined_single_cons p (group_ne_nil hrest.ne_nil), ih]
    | plus =>
      -- The pair goes into the component of the next one, in front of which it is written.
      obtain ⟨r, more, hgroup, hcons⟩ := group_cons_plus p hrest.ne_nil
      rw [hcons, joined_cons_pair, ← hgroup, ih]

/-- There is one component more than there are commas. -/
theorem length_group (h : WellJoined pairs) :
    (group pairs).length = (pairs.map JoinedPair.joint).count .comma + 1 := by
  induction h with
  | last p => rfl
  | @cons p joint rest hjoint hrest ih =>
    cases joint with
    | last => exact absurd rfl hjoint
    | comma =>
      rw [group_cons_of_ne_plus (by decide), List.length_cons, ih, List.map_cons,
        List.count_cons_self]
    | plus =>
      obtain ⟨r, more, hgroup, hcons⟩ := group_cons_plus p hrest.ne_nil
      have hplus : Joint.plus ≠ .comma := by decide
      rw [hcons, List.map_cons, List.count_cons_of_ne hplus, ← ih, hgroup]
      rfl

end Name

namespace DistinguishedName

open Name

/-! ### Ends of components -/

/-- Whether a component ends with the pair at place `i`, where the pairs are counted through
the whole name. -/
def EndsAt (dn : DistinguishedName) (i : Nat) : Prop :=
  ∃ front back, dn.components = front ++ back
    ∧ (front.flatMap RelativeName.pairs).length = i + 1

variable {p : TypedValue} {r : RelativeName} {components : List RelativeName} {i : Nat}

theorem not_endsAt_nil : ¬ EndsAt ⟨[]⟩ i := by
  rintro ⟨front, back, hsplit, hlength⟩
  obtain ⟨rfl, -⟩ := List.append_eq_nil_iff.mp hsplit.symm
  cases hlength

/-- The first component ends with its last pair, and the others end as they would without it. -/
theorem endsAt_cons :
    EndsAt ⟨r :: components⟩ i
      ↔ i + 1 = r.pairs.length ∨ ∃ j, i = r.pairs.length + j ∧ EndsAt ⟨components⟩ j := by
  constructor
  · rintro ⟨front, back, hsplit, hlength⟩
    rcases front with - | ⟨s, front⟩
    · cases hlength
    · obtain ⟨rfl, hrest⟩ := List.cons.inj hsplit
      rw [List.flatMap_cons, List.length_append] at hlength
      -- Either the components in front are just `r`, or pairs of further ones come behind it.
      rcases hmore : (front.flatMap RelativeName.pairs).length with - | j
      · exact .inl (by omega)
      · exact .inr ⟨j, by omega, front, back, hrest, hmore⟩
  · rintro (hfirst | ⟨j, rfl, front, back, hsplit, hlength⟩)
    · refine ⟨[r], components, rfl, ?_⟩
      rw [List.flatMap_singleton, hfirst]
    · refine ⟨r :: front, back, congrArg (r :: ·) hsplit, ?_⟩
      rw [List.flatMap_cons, List.length_append, hlength, Nat.add_assoc]

theorem endsAt_single_cons_zero : EndsAt ⟨.single p :: components⟩ 0 :=
  endsAt_cons.mpr (.inl rfl)

theorem endsAt_single_cons_succ :
    EndsAt ⟨.single p :: components⟩ (i + 1) ↔ EndsAt ⟨components⟩ i := by
  have hlength : (RelativeName.single p).pairs.length = 1 := rfl
  rw [endsAt_cons, hlength]
  constructor
  · rintro (hfirst | ⟨j, hj, hend⟩)
    · omega
    · obtain rfl : i = j := by omega
      exact hend
  · intro hend
    exact .inr ⟨i, Nat.add_comm i 1, hend⟩

theorem not_endsAt_cons_pair_zero : ¬ EndsAt ⟨r.cons p :: components⟩ 0 := by
  have hlength : (r.cons p).pairs.length = r.pairs.length + 1 := rfl
  have hpos : 0 < r.pairs.length := List.length_pos_iff.mpr r.nonempty
  rw [endsAt_cons, hlength]
  rintro (hfirst | ⟨j, hj, -⟩) <;> omega

theorem endsAt_cons_pair_succ :
    EndsAt ⟨r.cons p :: components⟩ (i + 1) ↔ EndsAt ⟨r :: components⟩ i := by
  have hlength : (r.cons p).pairs.length = r.pairs.length + 1 := rfl
  rw [endsAt_cons, endsAt_cons, hlength, Nat.add_right_cancel_iff]
  refine or_congr_right (exists_congr fun j => and_congr_left fun _ => ?_)
  omega

/-- **A component ends where no plus sign follows.** -/
theorem endsAt_group {pairs : List JoinedPair} (h : WellJoined pairs) (i : Nat) :
    EndsAt ⟨group pairs⟩ i ↔ ∃ p, pairs[i]? = some p ∧ p.joint ≠ .plus := by
  induction h generalizing i with
  | last p =>
    rw [group_cons_of_ne_plus (by decide)]
    cases i with
    | zero => simp [endsAt_single_cons_zero]
    | succ i => simp [endsAt_single_cons_succ, group, not_endsAt_nil]
  | @cons p joint rest hjoint hrest ih =>
    -- A further pair only moves the ends by one place; a pair of its own adds one in front.
    by_cases hplus : joint = .plus
    · obtain rfl := hplus
      obtain ⟨r, more, hgroup, hcons⟩ := group_cons_plus p hrest.ne_nil
      rw [hcons]
      cases i with
      | zero => simp [not_endsAt_cons_pair_zero]
      | succ i => rw [endsAt_cons_pair_succ, ← hgroup, ih, List.getElem?_cons_succ]
    · rw [group_cons_of_ne_plus hplus]
      cases i with
      | zero => simp [endsAt_single_cons_zero, hplus]
      | succ i => rw [endsAt_single_cons_succ, ih, List.getElem?_cons_succ]

/-! ### Names that were read -/

/-- Whether joined pairs make up a name: nothing of them is lost, and nothing is added. -/
structure GroupedFrom (dn : DistinguishedName) (pairs : List JoinedPair) : Prop where
  /-- The pairs of all components, in order. -/
  pairs_eq : dn.components.flatMap RelativeName.pairs = pairs.map JoinedPair.pair
  /-- A component ends with a pair just if what follows the pair is no plus sign. -/
  endsAt_iff : ∀ i, dn.EndsAt i ↔ ∃ p, pairs[i]? = some p ∧ p.joint ≠ .plus
  /-- There is one component more than there are commas. -/
  size_eq : dn.size = (pairs.map JoinedPair.joint).count .comma + 1
  /-- The name is written as the pairs in a row, each with what follows it. -/
  toString_eq : toString dn = .ofList (joinedText pairs)

/-- **Grouping loses nothing.** -/
theorem groupedFrom_group {pairs : List JoinedPair} (h : WellJoined pairs) :
    GroupedFrom ⟨group pairs⟩ pairs where
  pairs_eq := flatMap_pairs_group pairs
  endsAt_iff := endsAt_group h
  size_eq := length_group h
  toString_eq := by
    rw [← String.toList_inj, toList_toString, joined_group h, String.toList_ofList]

/-- **A name that was read keeps all that was read for it.**

Pairs that are joined by plus signs and commas, with nothing behind the last one, make up the
name that they are grouped into.  The pairs of a text that is read as a name are joined so,
and they make up the name. -/
theorem groupedFrom_of_parse :
    (∀ {pairs}, WellJoined pairs → GroupedFrom ⟨group pairs⟩ pairs)
      ∧ ∀ {written dn}, parse written = .ok dn →
        ∃ pairs, readPairs (written.getD "").toList = .ok pairs ∧ WellJoined pairs
          ∧ dn.GroupedFrom pairs := by
  refine ⟨groupedFrom_group, ?_⟩
  intro written dn h
  obtain ⟨pairs, hpairs, hgroup⟩ := eq_group_of_parse h
  have hjoined : WellJoined pairs := wellJoined_of_readPairs hpairs
  obtain rfl : dn = ⟨group pairs⟩ := congrArg mk hgroup
  exact ⟨pairs, hpairs, hjoined, groupedFrom_group hjoined⟩

/-- Blanks around the joints, and a plus sign and a comma that belong to values. -/
theorem groupedFrom_of_parse_mixed :
    let written := some "cn = a + uid=b\\+c , o=x,l=\\, +st=y"
    let pairs : List JoinedPair :=
      [⟨⟨"cn", "a"⟩, .plus⟩, ⟨⟨"uid", "b\\+c"⟩, .comma⟩, ⟨⟨"o", "x"⟩, .comma⟩,
        ⟨⟨"l", "\\,"⟩, .plus⟩, ⟨⟨"st", "y"⟩, .last⟩]
    let dn : DistinguishedName :=
      ⟨[.cons ⟨"cn", "a"⟩ (.single ⟨"uid", "b\\+c"⟩), .single ⟨"o", "x"⟩,
        .cons ⟨"l", "\\,"⟩ (.single ⟨"st", "y"⟩)]⟩
    parse written = .ok dn ∧ readPairs (written.getD "").toList = .ok pairs ∧ WellJoined pairs
      ∧ GroupedFrom ⟨group pairs⟩ pairs ∧ dn.GroupedFrom pairs
      ∧ dn.EndsAt 1 ∧ ¬ dn.EndsAt 3 ∧ ¬ dn.EndsAt 5 ∧ dn.size = 3
      ∧ toString dn = "cn=a+uid=b\\+c,o=x,l=\\,+st=y" := by
  intro written pairs dn
  have hparse : parse written = .ok dn := by decide +kernel
  have hread : readPairs (written.getD "").toList = .ok pairs := by decide +kernel
  obtain ⟨found, hfound, hjoined, hgrouped⟩ := groupedFrom_of_parse.2 hparse
  obtain rfl : found = pairs := Except.ok.inj (hfound.symm.trans hread)
  have htext : String.ofList (joinedText pairs) = "cn=a+uid=b\\+c,o=x,l=\\,+st=y" := by
    decide +kernel
  refine ⟨hparse, hread, hjoined, groupedFrom_of_parse.1 hjoined, hgrouped,
    (hgrouped.endsAt_iff 1).mpr ⟨_, rfl, by decide⟩, ?_, ?_, hgrouped.size_eq,
    hgrouped.toString_eq.trans htext⟩
  · rw [hgrouped.endsAt_iff]
    rintro ⟨p, hp, hplus⟩
    cases hp
    exact hplus rfl
  · rw [hgrouped.endsAt_iff]
    rintro ⟨p, hp, -⟩
    cases hp

end DistinguishedName

end DirectoryGroups
