/-
DirectoryGroups/Proofs/Name/RoundTrip.lean

Writing names and reading them again.

A name is proper if it has a component and each of its pairs is one that reading may
give: attribute and value pass their checks, and there are no blanks at the ends of the
value (`DistinguishedName.Proper`).  Reading gives nothing but proper names, and a
proper name that is written is read as itself: the written form is the text of its
pairs, with plus signs within components and commas between them (`joined`), and
grouping such pairs gives the components back.

Main results: `parse_toString_iff`, and for names that were read `parse_toString`.
-/
import DirectoryGroups.Proofs.Name.Division
import DirectoryGroups.Proofs.Text.Trim

namespace DirectoryGroups

/-! ### Changing pairs -/

/-- A pair with its value trimmed. -/
def TypedValue.trimmed (p : TypedValue) : TypedValue :=
  ⟨p.attr, .ofList (Text.trim p.value.toList)⟩

/-- A joined pair, changed. -/
def Name.JoinedPair.map (f : TypedValue → TypedValue) (p : Name.JoinedPair) : Name.JoinedPair :=
  ⟨f p.pair, p.joint⟩

/-- A component with every pair changed. -/
def RelativeName.map (f : TypedValue → TypedValue) (r : RelativeName) : RelativeName :=
  ⟨r.pairs.map f, by simpa using r.nonempty⟩

/-- A name with every pair changed. -/
def DistinguishedName.map (f : TypedValue → TypedValue) (dn : DistinguishedName) :
    DistinguishedName :=
  ⟨dn.components.map (RelativeName.map f)⟩

theorem DistinguishedName.map_map (g f : TypedValue → TypedValue) (dn : DistinguishedName) :
    (dn.map f).map g = dn.map (g ∘ f) := by
  simp only [map, List.map_map]
  congr 1
  refine List.map_congr_left fun r _ => ?_
  simp only [Function.comp_apply, RelativeName.map, List.map_map]

/-- Two changes of a name agree just if they do on its pairs. -/
theorem DistinguishedName.map_eq_map_iff {f g : TypedValue → TypedValue} {dn : DistinguishedName} :
    dn.map f = dn.map g ↔ ∀ r ∈ dn.components, ∀ p ∈ r.pairs, f p = g p := by
  simp only [map, mk.injEq, List.map_inj_left, RelativeName.map, RelativeName.mk.injEq]

theorem DistinguishedName.map_id (dn : DistinguishedName) : dn.map id = dn := by
  have hcomponents : dn.components.map (RelativeName.map id) = dn.components := by
    refine List.map_id'' ?_ _
    intro r
    simp only [RelativeName.map, List.map_id]
  rw [DistinguishedName.map, hcomponents]

/-- A change leaves a name as it is just if it does so with its pairs. -/
theorem DistinguishedName.map_eq_self_iff {f : TypedValue → TypedValue} {dn : DistinguishedName} :
    dn.map f = dn ↔ ∀ r ∈ dn.components, ∀ p ∈ r.pairs, f p = p := by
  conv_lhs => rw [← map_id dn, map_map, map_eq_map_iff]
  simp only [Function.comp_id, id_eq]

namespace Name

/-! ### Pairs that are read -/

theorem isBlank_of_isAttributeChar {c : Char} (h : isAttributeChar c = true) :
    Text.isBlank c = false := by
  -- Letters, digits and the hyphen, as their code points have it.
  have hranges : ((decide (65 ≤ c.val ∧ c.val ≤ 90) || (97 ≤ c.val && c.val ≤ 122))
      || (48 ≤ c.val && c.val ≤ 57) || c == '-') = true := h
  simp only [Bool.or_eq_true, Bool.and_eq_true, decide_eq_true_eq, beq_iff_eq,
    UInt32.le_iff_toNat_le] at hranges
  rcases hranges with ((⟨hlow, hhigh⟩ | ⟨hlow, hhigh⟩) | ⟨hlow, hhigh⟩) | rfl
  · exact Text.isBlank_of_mark (Nat.le_trans (by decide) hlow) (Nat.le_trans hhigh (by decide))
  · exact Text.isBlank_of_mark (Nat.le_trans (by decide) hlow) (Nat.le_trans hhigh (by decide))
  · exact Text.isBlank_of_mark (Nat.le_trans (by decide) hlow) (Nat.le_trans hhigh (by decide))
  · rfl

theorem isBlank_of_mem_attribute {s : List Char} (h : checkAttribute s = .ok ()) {c : Char}
    (hc : c ∈ s) : Text.isBlank c = false := by
  rcases mem_of_checkAttribute h hc with hchar | rfl
  · exact isBlank_of_isAttributeChar hchar
  · decide

end Name

/-! ### Proper pairs -/

/-- A pair as reading may give it: attribute and value pass their checks, and there are
no blanks at the ends of the value. -/
structure TypedValue.Proper (p : TypedValue) : Prop where
  attr : Name.checkAttribute p.attr.toList = .ok ()
  value : ∀ item, Name.checkValue item p.value.toList = .ok ()
  trimmed : Text.trim p.value.toList = p.value.toList

theorem TypedValue.Proper.legible {p : TypedValue} (h : p.Proper) : p.Legible where
  attr := h.attr
  value := Name.written_of_checkValue (h.value [])

namespace Name

/-- The check of a value does not hang on the pair it comes from. -/
theorem checkValue_of_item {item : List Char} {s : List Char} (h : checkValue item s = .ok ())
    (other : List Char) : checkValue other s = .ok () := by
  cases s with
  | nil => cases h
  | cons c s => exact h

theorem proper_of_readPair {item : List Char} {p : TypedValue} (h : readPair item = .ok p) :
    p.Proper := by
  obtain ⟨hattr, hvalue⟩ := checked_of_readPair h
  refine ⟨hattr, checkValue_of_item hvalue, ?_⟩
  unfold readPair at h
  split at h
  · cases h
  · obtain ⟨_, -, h⟩ := bind_eq_ok h
    obtain ⟨_, -, h⟩ := bind_eq_ok h
    obtain rfl := Except.ok.inj h
    rw [String.toList_ofList, Text.trim_trim]

/-- The first equals sign divides a text in whose first part there is neither an equals
sign nor a backslash. -/
theorem splitAfter_of_not_mem {c : Char} {s : List Char} (hc : c ≠ '\\') (hequal : '=' ∉ s)
    (hslash : '\\' ∉ s) (rest : List Char) :
    splitAfter c (s ++ '=' :: rest) = some (s, rest) := by
  -- Character by character: none of them is the sign, and none guards the next one.
  induction s generalizing c with
  | nil => rw [List.nil_append, splitAfter, if_pos ⟨rfl, hc⟩]
  | cons d s ih =>
    rw [List.mem_cons, not_or] at hequal hslash
    rw [List.cons_append, splitAfter, if_neg fun h => hequal.1 h.1.symm,
      ih (Ne.symm hslash.1) hequal.2 hslash.2]
    rfl

theorem split_text {p : TypedValue} (h : checkAttribute p.attr.toList = .ok ()) :
    split p.text = some (p.attr.toList, p.value.toList) := by
  have hequal : '=' ∉ p.attr.toList := not_mem_of_checkAttribute h (by decide)
  have hslash : '\\' ∉ p.attr.toList := not_mem_of_checkAttribute h (by decide)
  rw [TypedValue.text]
  rcases hattr : p.attr.toList with - | ⟨c, rest⟩
  · exact absurd hattr (ne_nil_of_checkAttribute h)
  · rw [hattr, List.mem_cons, not_or] at hequal hslash
    rw [List.cons_append, split, if_neg (Ne.symm hequal.1),
      splitAfter_of_not_mem (Ne.symm hslash.1) hequal.2 hslash.2]
    rfl

/-- Of a legible pair the attribute is read as it is, and the value is trimmed. -/
theorem readPair_text_of_legible {p : TypedValue} (h : p.Legible) :
    readPair p.text
      = (checkValue p.text (Text.trim p.value.toList)).map fun _ => p.trimmed := by
  have hattr : Text.trim p.attr.toList = p.attr.toList :=
    Text.trim_of_no_blanks fun c hc => isBlank_of_mem_attribute h.attr hc
  simp only [readPair, split_text h.attr, hattr, h.attr, String.ofList_toList]
  cases checkValue p.text (Text.trim p.value.toList) <;> rfl

/-- A proper pair that is written is read as itself. -/
theorem readPair_text {p : TypedValue} (h : p.Proper) : readPair p.text = .ok p := by
  rw [readPair_text_of_legible h.legible, h.trimmed, h.value, TypedValue.trimmed, h.trimmed,
    String.ofList_toList]
  rfl

/-! ### Pairs of a name -/

/-- The pairs of one component, with plus signs between them and `joint` behind the
last. -/
def joinedComponent (joint : Joint) : List TypedValue → List JoinedPair
  | [] => []
  | [p] => [⟨p, joint⟩]
  | p :: q :: rest => ⟨p, .plus⟩ :: joinedComponent joint (q :: rest)

/-- The pairs of some components, with commas between the components. -/
def joined : List RelativeName → List JoinedPair
  | [] => []
  | [r] => joinedComponent .last r.pairs
  | r :: s :: rest => joinedComponent .comma r.pairs ++ joined (s :: rest)

theorem map_pair_joinedComponent (joint : Joint) (pairs : List TypedValue) :
    (joinedComponent joint pairs).map JoinedPair.pair = pairs := by
  induction pairs using joinedComponent.induct with
  | case1 => rfl
  | case2 p => rfl
  | case3 p q rest ih => rw [joinedComponent, List.map_cons, ih]

theorem map_pair_joined (components : List RelativeName) :
    (joined components).map JoinedPair.pair = components.flatMap RelativeName.pairs := by
  induction components using joined.induct with
  | case1 => rfl
  | case2 r => simp [joined, map_pair_joinedComponent]
  | case3 r s rest ih =>
    rw [joined, List.map_append, map_pair_joinedComponent, ih]
    rfl

theorem wellJoined_joinedComponent {pairs : List TypedValue} (h : pairs ≠ []) :
    WellJoined (joinedComponent .last pairs)
      ∧ ∀ rest, WellJoined rest → WellJoined (joinedComponent .comma pairs ++ rest) := by
  -- A component stands at the end or in front of others, and the recursion is the same.
  induction pairs using joinedComponent.induct with
  | case1 => exact absurd rfl h
  | case2 p => exact ⟨.last p, fun rest hrest => .cons (by decide) hrest⟩
  | case3 p q rest ih =>
    obtain ⟨hlast, hcomma⟩ := ih (List.cons_ne_nil _ _)
    exact ⟨.cons (by decide) hlast, fun more hmore => .cons (by decide) (hcomma more hmore)⟩

theorem wellJoined_joined {components : List RelativeName} (h : components ≠ []) :
    WellJoined (joined components) := by
  induction components using joined.induct with
  | case1 => exact absurd rfl h
  | case2 r => exact (wellJoined_joinedComponent r.nonempty).1
  | case3 r s rest ih =>
    exact (wellJoined_joinedComponent r.nonempty).2 _ (ih (List.cons_ne_nil _ _))

theorem joinedText_joinedComponent (joint : Joint) {pairs : List TypedValue} (h : pairs ≠ []) :
    joinedText (joinedComponent joint pairs)
      = ['+'].intercalate (pairs.map TypedValue.text) ++ joint.text := by
  induction pairs using joinedComponent.induct with
  | case1 => exact absurd rfl h
  | case2 p => simp [joinedComponent, joinedText, JoinedPair.text]
  | case3 p q rest ih =>
    rw [joinedComponent, joinedText_cons, ih (List.cons_ne_nil _ _)]
    simp only [List.map_cons, List.intercalate_cons_cons, Joint.text, List.append_assoc]

/-- The text of a name's pairs is the written form of the name. -/
theorem joinedText_joined (components : List RelativeName) :
    joinedText (joined components) = [','].intercalate (components.map RelativeName.text) := by
  induction components using joined.induct with
  | case1 => rfl
  | case2 r => simp [joined, joinedText_joinedComponent .last r.nonempty, Joint.text,
      RelativeName.text]
  | case3 r s rest ih =>
    have happend : joinedText (joined (r :: s :: rest))
        = joinedText (joinedComponent .comma r.pairs) ++ joinedText (joined (s :: rest)) :=
      List.flatMap_append
    rw [happend, ih, joinedText_joinedComponent .comma r.nonempty]
    simp only [List.map_cons, List.intercalate_cons_cons, Joint.text, RelativeName.text]

theorem group_joinedComponent {joint : Joint} (hjoint : joint ≠ .plus) {pairs : List TypedValue}
    (h : pairs ≠ []) (rest : List JoinedPair) :
    group (joinedComponent joint pairs ++ rest) = ⟨pairs, h⟩ :: group rest := by
  induction pairs using joinedComponent.induct with
  | case1 => exact absurd rfl h
  | case2 p => exact group_cons_of_ne_plus hjoint p rest
  | case3 p q more ih =>
    rw [joinedComponent, List.cons_append, group, ih (List.cons_ne_nil _ _)]
    rfl

/-- The pairs of some components are grouped into the components. -/
theorem group_joined (components : List RelativeName) : group (joined components) = components := by
  induction components using joined.induct with
  | case1 => rfl
  | case2 r =>
    rw [joined, ← List.append_nil (joinedComponent _ _),
      group_joinedComponent (by decide) r.nonempty]
    rfl
  | case3 r s rest ih => rw [joined, group_joinedComponent (by decide) r.nonempty, ih]

theorem group_map (f : TypedValue → TypedValue) (pairs : List JoinedPair) :
    group (pairs.map (JoinedPair.map f)) = (group pairs).map (RelativeName.map f) := by
  induction pairs with
  | nil => rfl
  | cons p rest ih =>
    rcases p with ⟨pair, - | - | -⟩ <;> rcases hgroup : group rest with - | ⟨r, more⟩ <;>
      simp [group, JoinedPair.map, RelativeName.map, RelativeName.cons, RelativeName.single, ih,
        hgroup]

/-- Pairs that are written one after another are read one by one. -/
theorem readPairs_joinedText {pairs : List JoinedPair} (hjoined : WellJoined pairs)
    (hlegible : ∀ p ∈ pairs, p.pair.Legible) {f : TypedValue → TypedValue}
    (hread : ∀ p ∈ pairs, readPair p.pair.text = .ok (f p.pair)) :
    readPairs (joinedText pairs) = .ok (pairs.map (JoinedPair.map f)) := by
  refine readPairs_of_pairs ?_ ?_
  · exact List.map_eq_nil_iff.not.mpr hjoined.ne_nil
  · rw [pieces_joinedText hjoined hlegible, List.forall₂_map_left_iff,
      List.forall₂_map_right_iff, List.forall₂_same]
    intro p hp
    exact ⟨hread p hp, rfl⟩

end Name

namespace DistinguishedName

open Name

/-! ### Pair by pair -/

theorem toList_toString (dn : DistinguishedName) :
    (toString dn).toList = joinedText (joined dn.components) := by
  rw [joinedText_joined]
  exact String.toList_ofList

theorem forall_mem_joined {dn : DistinguishedName} {P : TypedValue → Prop}
    (h : ∀ r ∈ dn.components, ∀ p ∈ r.pairs, P p) : ∀ p ∈ joined dn.components, P p.pair := by
  intro p hp
  have hmem : p.pair ∈ dn.components.flatMap RelativeName.pairs := by
    rw [← map_pair_joined]
    exact List.mem_map_of_mem hp
  obtain ⟨r, hr, hpair⟩ := List.mem_flatMap.mp hmem
  exact h r hr _ hpair

/-- **A name that is written is read pair by pair.** -/
theorem parse_toString_of_pairs {dn : DistinguishedName} (hne : dn.components ≠ [])
    (hlegible : ∀ r ∈ dn.components, ∀ p ∈ r.pairs, p.Legible) {f : TypedValue → TypedValue}
    (hread : ∀ r ∈ dn.components, ∀ p ∈ r.pairs, readPair p.text = .ok (f p)) :
    parse (some (toString dn)) = .ok (dn.map f) := by
  have hpairs := readPairs_joinedText (wellJoined_joined hne) (forall_mem_joined hlegible)
    (forall_mem_joined hread)
  rw [parse, Option.getD_some, toList_toString, hpairs]
  simp only [group_map, group_joined]
  rfl

/-- A name is read from its written form only if each pair is. -/
theorem readPair_of_parse_toString {dn stored : DistinguishedName}
    (hlegible : ∀ r ∈ dn.components, ∀ p ∈ r.pairs, p.Legible)
    (h : parse (some (toString dn)) = .ok stored) :
    ∀ r ∈ dn.components, ∀ p ∈ r.pairs, ∃ q, readPair p.text = .ok q := by
  intro r hr p hp
  obtain ⟨pairs, hpairs, -⟩ := eq_group_of_parse h
  rw [Option.getD_some, toList_toString] at hpairs
  have hread := (pairs_of_readPairs hpairs).2
  -- What was read piece by piece were the written pairs.
  rw [pieces_joinedText (wellJoined_joined (List.ne_nil_of_mem hr)) (forall_mem_joined hlegible),
    List.forall₂_map_left_iff] at hread
  have hmem : p ∈ (joined dn.components).map JoinedPair.pair := by
    rw [map_pair_joined]
    exact List.mem_flatMap.mpr ⟨r, hr, hp⟩
  obtain ⟨joint, hjoint, rfl⟩ := List.mem_map.mp hmem
  obtain ⟨q, -, hq, -⟩ := exists_counterpart hread.flip hjoint
  exact ⟨q.pair, hq⟩

/-! ### Proper names -/

/-- A name as reading may give it. -/
structure Proper (dn : DistinguishedName) : Prop where
  nonempty : dn.components ≠ []
  pairs : ∀ r ∈ dn.components, ∀ p ∈ r.pairs, p.Proper

theorem proper_of_parse {written : Option String} {dn : DistinguishedName}
    (h : parse written = .ok dn) : dn.Proper := by
  refine ⟨components_ne_nil h, ?_⟩
  intro r hr p hp
  obtain ⟨item, hread⟩ := exists_readPair h hr hp
  exact proper_of_readPair hread

/-- A proper name that is written is read as itself. -/
theorem Proper.parse_toString {dn : DistinguishedName} (h : dn.Proper) :
    parse (some (toString dn)) = .ok dn := by
  have hread := parse_toString_of_pairs h.nonempty (fun r hr p hp => (h.pairs r hr p hp).legible)
    (f := id) fun r hr p hp => readPair_text (h.pairs r hr p hp)
  rw [hread, map_id]

/-- **Reading undoes writing just for the names that reading may give.** -/
theorem parse_toString_iff {dn : DistinguishedName} :
    parse (some (toString dn)) = .ok dn ↔ dn.Proper :=
  ⟨proper_of_parse, Proper.parse_toString⟩

/-- **Names that were read, written and read again.**

A name that was read from some text is read from its written form again, and so two
names that were read are the same just if they are written in the same way. -/
theorem parse_toString_of_parse :
    (∀ {written dn}, parse written = .ok dn → parse (some (toString dn)) = .ok dn)
      ∧ ∀ {written written' dn dn'}, parse written = .ok dn → parse written' = .ok dn' →
        (dn = dn' ↔ toString dn = toString dn') := by
  have hround : ∀ {written dn}, parse written = .ok dn → parse (some (toString dn)) = .ok dn :=
    fun h => (proper_of_parse h).parse_toString
  refine ⟨hround, ?_⟩
  intro written written' dn dn' h h'
  refine ⟨congrArg toString, ?_⟩
  intro htext
  have hagain := hround h
  rw [htext, hround h'] at hagain
  exact (Except.ok.inj hagain).symm

/-- Blanks around an escaped comma, an escaped equals sign before a joint, a run of
backslashes, and an attribute with a bracket. -/
theorem parse_toString_of_spaced_name :
    let written := some " cn = a\\, b\\\\+ uid=x\\= , <GUID=\\2C\\\\ "
    let written' := some "cn=a\\, b\\\\+uid=x\\=,<GUID=\\2c\\\\"
    let dn : DistinguishedName :=
      ⟨[.cons ⟨"cn", "a\\, b\\\\"⟩ (.single ⟨"uid", "x\\="⟩), .single ⟨"<GUID", "\\2C\\\\"⟩]⟩
    let dn' : DistinguishedName :=
      ⟨[.cons ⟨"cn", "a\\, b\\\\"⟩ (.single ⟨"uid", "x\\="⟩), .single ⟨"<GUID", "\\2c\\\\"⟩]⟩
    parse written = .ok dn ∧ parse written' = .ok dn'
      ∧ parse (some (toString dn)) = .ok dn ∧ (dn = dn' ↔ toString dn = toString dn') := by
  intro written written' dn dn'
  have hparse : parse written = .ok dn := by decide +kernel
  have hparse' : parse written' = .ok dn' := by decide +kernel
  exact ⟨hparse, hparse', parse_toString_of_parse.1 hparse,
    parse_toString_of_parse.2 hparse hparse'⟩

end DistinguishedName

end DirectoryGroups
