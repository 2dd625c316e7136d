/-
DirectoryGroups/Proofs/Filter/Membership.lean

When there is a filter for a user's groups.

Without a membership attribute there is none for anybody (`LacksMembership`).  With one there
is a filter for every name, with one exception: where groups list bare identifiers, the name
without components has no leaf to take one from (`membershipFilter_eq_error_iff`).
-/
import DirectoryGroups.Filter.Membership

namespace DirectoryGroups.Config

/-! ### The membership attribute -/

/-- Whether no membership attribute is configured. -/
def LacksMembership (config : Config) : Prop :=
  config.membershipAttribute = none ∨ config.membershipAttribute = some ""

theorem requiredMembership_eq_error_iff (config : Config) :
    config.requiredMembership = .error .membershipUnset ↔ config.LacksMembership := by
  unfold requiredMembership LacksMembership
  rcases config.membershipAttribute with - | s
  · simp
  · by_cases hs : s = "" <;> simp [hs]

variable {config : Config}

theorem exists_requiredMembership (h : ¬ config.LacksMembership) :
    ∃ attr, config.requiredMembership = .ok attr := by
  unfold requiredMembership
  rcases hattr : config.membershipAttribute with - | s
  · exact absurd (.inl hattr) h
  · have hs : s.isEmpty = false := by
      rw [String.isEmpty_eq_false_iff]
      rintro rfl
      exact h (.inr hattr)
    exact ⟨s, by simp only [hs, Bool.false_eq_true, if_false]⟩

/-! ### The value and the filter -/

variable {dn : DistinguishedName}

/-- The filter is put together from the attribute and the value. -/
theorem membershipFilter_of_value {attr value : String}
    (hattr : config.requiredMembership = .ok attr) (hvalue : config.memberValue dn = .ok value) :
    config.membershipFilter dn
      = .ok ("(&" ++ config.groupFilter ++ "(" ++ attr ++ "=" ++ value ++ "))") := by
  rw [membershipFilter, hattr, hvalue]
  rfl

/-- The value is missing just where an identifier is taken from a name without components. -/
theorem memberValue_eq_error_iff {error : NameError} :
    config.memberValue dn = .error error
      ↔ config.listsIdentifiers = true ∧ dn.components = [] ∧ error = .noLeaf := by
  unfold memberValue DistinguishedName.leafValue DistinguishedName.leaf?
  cases config.listsIdentifiers with
  | false => simp
  | true =>
    rcases dn.components with - | ⟨r, rest⟩
    · simp [eq_comm]
    · simp

/-- With a membership attribute, the filter is missing just where the value is. -/
theorem membershipFilter_eq_error_iff (h : ¬ config.LacksMembership) {failure : Failure} :
    config.membershipFilter dn = .error failure
      ↔ config.listsIdentifiers = true ∧ dn.components = [] ∧ failure = .name .noLeaf := by
  obtain ⟨attr, hattr⟩ := exists_requiredMembership h
  rcases hvalue : config.memberValue dn with error | value
  · obtain ⟨hlists, hnone, rfl⟩ := memberValue_eq_error_iff.mp hvalue
    have hfilter : config.membershipFilter dn = .error (.name .noLeaf) := by
      rw [membershipFilter, hattr, hvalue]
      rfl
    rw [hfilter]
    constructor
    · intro hfailure
      exact ⟨hlists, hnone, (Except.error.inj hfailure).symm⟩
    · rintro ⟨-, -, rfl⟩
      rfl
  · -- There is a filter, and for the same reason a component.
    rw [membershipFilter_of_value hattr hvalue]
    constructor
    · exact nofun
    · rintro ⟨hlists, hnone, -⟩
      rw [memberValue_eq_error_iff.mpr ⟨hlists, hnone, rfl⟩] at hvalue
      cases hvalue

/-- With a membership attribute, any name but the empty one has a filter. -/
theorem exists_membershipFilter {attr : String} (hattr : config.requiredMembership = .ok attr)
    (hdn : dn.components ≠ []) : ∃ filter, config.membershipFilter dn = .ok filter := by
  have hset : ¬ config.LacksMembership := by
    rw [← requiredMembership_eq_error_iff, hattr]
    exact nofun
  rcases hfilter : config.membershipFilter dn with failure | filter
  · exact absurd ((membershipFilter_eq_error_iff hset).mp hfilter).2.1 hdn
  · exact ⟨filter, rfl⟩

end DirectoryGroups.Config
