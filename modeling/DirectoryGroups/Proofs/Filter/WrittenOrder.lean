/-
DirectoryGroups/Proofs/Filter/WrittenOrder.lean

Identifiers and the order in which the pairs of a leaf are written.

A component of several pairs has one bare value, that of its primary pair.  The pairs may be
written in any order, and which of them is primary can hang on that, as pairs with different
values may rank alike.  The bare value, and with it the identifier of a name and the filter
that looks for it, is the same in every order just if all pairs that rank least have the same
bare value (`RelativeName.TiesAgree`).  They do if no two attributes differ in case alone.

Main result: `RelativeName.bareValue_in_any_order`.
-/
import DirectoryGroups.Proofs.Filter.Identifier

namespace DirectoryGroups

/-! ### Leaves -/

/-- The filters for two leaves are the same just if their bare values are, where groups list
identifiers. -/
theorem Config.membershipFilter_eq_iff_of_identifiers {config : Config}
    (hattr : config.membershipAttribute = some memberUid) (r r' : RelativeName)
    (others : List RelativeName) :
    config.membershipFilter ⟨r' :: others⟩ = config.membershipFilter ⟨r :: others⟩
      ↔ r'.bareValue = r.bareValue := by
  have hfilter : ∀ leaf : RelativeName, config.membershipFilter ⟨leaf :: others⟩
      = .ok ("(&" ++ config.groupFilter ++ "(memberUid=" ++ leaf.bareValue ++ "))") :=
    fun leaf => membershipFilter_of_identifiers hattr rfl
  rw [hfilter, hfilter]
  constructor
  · intro h
    -- What stands around the identifier is the same in both filters.
    have hchars := congrArg String.toList (Except.ok.inj h)
    simp only [String.toList_append, List.append_cancel_right_eq,
      List.append_cancel_left_eq] at hchars
    exact String.toList_inj.mp hchars
  · intro h
    rw [h]

namespace RelativeName

/-- Whether all pairs of the component that rank least have the same bare value. -/
def TiesAgree (r : RelativeName) : Prop :=
  ∀ p q, r.Foremost p → r.Foremost q → p.bareValue = q.bareValue

/-- Whatever tells bare values apart is the same in every order of the pairs just if the pairs
that rank least agree. -/
theorem forall_perm_iff_tiesAgree (r : RelativeName) {same : RelativeName → Prop}
    (hsame : ∀ r', same r' ↔ r'.bareValue = r.bareValue) :
    (∀ r' : RelativeName, r'.pairs.Perm r.pairs → same r') ↔ r.TiesAgree := by
  simp only [hsame]
  exact r.forall_perm_iff TypedValue.bareValue

/-- If no two attributes differ in case alone, there is no tie. -/
theorem tiesAgree_of_nodup {r : RelativeName}
    (h : (r.pairs.map fun p => Text.upper p.attr.toList).Nodup) : r.TiesAgree := by
  intro p q hp hq
  rw [hp.unique h hq]

/-- **The bare value of a component and the order of its pairs.**

The primary pair ranks least, by its attribute in upper case and then by its bare value in
lower case, and each pair in front of it ranks higher.  Its bare value is the same for every
order in which the pairs may be written just if all pairs that rank least have one bare value.
The same goes for the identifier of a name with this leaf, and for the filter where groups list
identifiers.  It is so whenever the attributes in upper case are all different. -/
theorem bareValue_in_any_order (r : RelativeName) :
    (∃ front back, r.pairs = front ++ r.primary :: back
        ∧ (∀ q ∈ front, r.primary.rank < q.rank) ∧ ∀ q ∈ r.pairs, r.primary.rank ≤ q.rank)
      ∧ ((∀ r' : RelativeName, r'.pairs.Perm r.pairs → r'.bareValue = r.bareValue)
        ↔ r.TiesAgree)
      ∧ (∀ others : List RelativeName,
        (∀ r' : RelativeName, r'.pairs.Perm r.pairs →
            DistinguishedName.leafValue ⟨r' :: others⟩
              = DistinguishedName.leafValue ⟨r :: others⟩)
          ↔ r.TiesAgree)
      ∧ (∀ (others : List RelativeName) (config : Config),
        config.membershipAttribute = some memberUid →
          ((∀ r' : RelativeName, r'.pairs.Perm r.pairs →
              config.membershipFilter ⟨r' :: others⟩ = config.membershipFilter ⟨r :: others⟩)
            ↔ r.TiesAgree))
      ∧ ((r.pairs.map fun p => Text.upper p.attr.toList).Nodup →
        ∀ r' : RelativeName, r'.pairs.Perm r.pairs → r'.bareValue = r.bareValue) := by
  have hvalue : (∀ r' : RelativeName, r'.pairs.Perm r.pairs → r'.bareValue = r.bareValue)
      ↔ r.TiesAgree :=
    r.forall_perm_iff_tiesAgree fun _ => Iff.rfl
  refine ⟨?_, hvalue, ?_, ?_, ?_⟩
  · obtain ⟨front, back, hpairs, hfront⟩ := r.primary_first
    exact ⟨front, back, hpairs, hfront, r.foremost_primary.le⟩
  · intro others
    -- Both the identifier and the filter tell leaves apart by their bare values alone.
    apply r.forall_perm_iff_tiesAgree
    intro r'
    show Except.ok r'.bareValue = Except.ok r.bareValue ↔ _
    rw [Except.ok.injEq]
  · intro others config hattr
    apply r.forall_perm_iff_tiesAgree
    intro r'
    exact Config.membershipFilter_eq_iff_of_identifiers hattr r r' others
  · intro hdistinct
    exact hvalue.mpr (tiesAgree_of_nodup hdistinct)

/-- Two attributes that differ give one value in both orders.  Two that differ in case alone tie,
and the value is the one that is written first, unless the values are spellings of one. -/
theorem bareValue_in_any_order_of_ties :
    let uid : TypedValue := ⟨"uid", "42"⟩
    let upper : TypedValue := ⟨"CN", "Alice"⟩
    let lower : TypedValue := ⟨"cn", "alice"⟩
    let r : RelativeName := .cons uid (.single lower)
    let tied : RelativeName := .cons uid (.cons upper (.single lower))
    let config : Config :=
      { groupBases := [], groupFilter := "(objectClass=posixGroup)", groupNameAttribute := "cn",
        membershipAttribute := some memberUid, userBases := [], userFilter := "(uid=?)" }
    (r.pairs.map fun p => Text.upper p.attr.toList).Nodup
      ∧ r.bareValue = "alice" ∧ (RelativeName.cons lower (.single uid)).bareValue = "alice"
      ∧ config.membershipAttribute = some memberUid
      ∧ ¬ tied.TiesAgree
      ∧ ¬ ∀ r' : RelativeName, r'.pairs.Perm tied.pairs →
        config.membershipFilter ⟨[r']⟩ = config.membershipFilter ⟨[tied]⟩ := by
  intro uid upper lower r tied config
  have hdistinct : (r.pairs.map fun p => Text.upper p.attr.toList).Nodup := by decide +kernel
  have hvalue : r.bareValue = "alice" := by decide +kernel
  have hswapped : (RelativeName.cons lower (.single uid)).pairs.Perm r.pairs :=
    List.Perm.swap uid lower []
  have hother : (RelativeName.cons lower (.single uid)).bareValue = "alice" :=
    ((bareValue_in_any_order r).2.2.2.2 hdistinct _ hswapped).trans hvalue
  have hties : ¬ tied.TiesAgree := by
    intro h
    -- The last two pairs tie, and the one that is written first is primary.
    have hperm : (RelativeName.cons uid (.cons lower (.single upper))).pairs.Perm tied.pairs :=
      (List.Perm.swap upper lower []).cons uid
    have hsame : (RelativeName.cons uid (.cons lower (.single upper))).bareValue
        = tied.bareValue :=
      (bareValue_in_any_order tied).2.1.mpr h _ hperm
    exact absurd hsame (by decide +kernel)
  refine ⟨hdistinct, hvalue, hother, rfl, hties, ?_⟩
  intro h
  exact hties (((bareValue_in_any_order tied).2.2.2.1 [] config rfl).mp h)

end RelativeName

end DirectoryGroups
