/-
DirectoryGroups/Proofs/Config/LastGiven.lean

Configurations from named values.

Named values may come in any order and under keys of either spelling, some of them may mean no
setting at all, and several of them the same one.  What is made of them hangs on the last value
that each setting is given, and on nothing else (`Config.ofPairs_eq_ofValues`); whether it is a
configuration or a fault, and which fault if there are several, is then up to the order in which
settings are checked.  So there are many ways to say the same (`Setting.Edit`).

Settings make a configuration just if each of them has a value that suits it, and this value can
be told from the configuration (`Config.ofValues_eq_ok_iff`).  Hence a configuration can be
written down as named values and read back.

Main result: `Config.ofPairs_by_last_given`.
-/
import DirectoryGroups.Config
import DirectoryGroups.Proofs.Results
import Mathlib.Data.List.Induction
import Mathlib.Logic.Relation

namespace DirectoryGroups

/-! ### Values given to a setting -/

namespace Setting

/-- Whether a named value is meant for the setting. -/
def isMeantBy (setting : Setting) (pair : String × Value) : Bool :=
  pair.1 == setting.key || pair.1 == setting.capitalKey

/-- The values that a setting is given, in order. -/
def valuesGiven (pairs : List (String × Value)) (setting : Setting) : List Value :=
  (pairs.filter setting.isMeantBy).map (·.2)

/-- The last value that a setting is given, if it is given any. -/
def lastGiven (pairs : List (String × Value)) (setting : Setting) : Option Value :=
  (valuesGiven pairs setting).getLast?

/-- The value of a setting that is given none. -/
def fallback : Setting → Value
  | groupBases => .list []
  | groupFilter => .text "(objectClass=groupOfNames)"
  | groupNameAttribute => .text "cn"
  | membershipAttribute => .text "member"
  | userBases => .list []
  | userFilter => .text "(&(objectClass=person)(uid=?))"

section Given

variable {setting : Setting} {pair : String × Value} {pairs : List (String × Value)}

/-- A key means a setting just if it is one of the two spellings of it. -/
theorem ofKey?_eq_some_iff {key : String} :
    ofKey? key = some setting ↔ key = setting.key ∨ key = setting.capitalKey := by
  constructor
  · intro h
    simpa using List.find?_some h
  · -- No key is a spelling of two settings.
    rintro (rfl | rfl) <;> cases setting <;> decide

theorem isMeantBy_iff : setting.isMeantBy pair = true ↔ ofKey? pair.1 = some setting := by
  rw [ofKey?_eq_some_iff]
  simp [isMeantBy]

/-- A key means one setting at most. -/
theorem isMeantBy_eq_of_isMeantBy {other : Setting} (h : setting.isMeantBy pair = true)
    {later : String × Value} (hlater : setting.isMeantBy later = true) :
    other.isMeantBy pair = other.isMeantBy later := by
  rw [Bool.eq_iff_iff, isMeantBy_iff, isMeantBy_iff, isMeantBy_iff.mp h, isMeantBy_iff.mp hlater]

theorem valuesGiven_append (pairs more : List (String × Value)) (setting : Setting) :
    valuesGiven (pairs ++ more) setting
      = valuesGiven pairs setting ++ valuesGiven more setting := by
  rw [valuesGiven, List.filter_append, List.map_append]
  rfl

theorem valuesGiven_cons_of_meant (h : setting.isMeantBy pair = true) :
    valuesGiven (pair :: pairs) setting = pair.2 :: valuesGiven pairs setting := by
  rw [valuesGiven, List.filter_cons_of_pos h, List.map_cons]
  rfl

theorem valuesGiven_cons_of_not_meant (h : setting.isMeantBy pair = false) :
    valuesGiven (pair :: pairs) setting = valuesGiven pairs setting := by
  rw [valuesGiven, List.filter_cons_of_neg (by simp [h])]
  rfl

theorem assign_apply (given : Setting → Option Value) (pair : String × Value)
    (setting : Setting) :
    assign given pair setting = if setting.isMeantBy pair then some pair.2 else given setting := by
  rcases hkey : ofKey? pair.1 with - | meant
  · have hnot : ¬ setting.isMeantBy pair = true := by simp [isMeantBy_iff, hkey]
    rw [if_neg hnot]
    simp only [assign, hkey]
  · have hiff : setting.isMeantBy pair = true ↔ setting = meant := by
      rw [isMeantBy_iff, hkey, Option.some.injEq, eq_comm]
    simp only [assign, hkey, hiff]

/-- **Of the values given to a setting, the last one is assigned.** -/
theorem foldl_assign (pairs : List (String × Value)) :
    pairs.foldl assign (fun _ => none) = lastGiven pairs := by
  -- From the end: the last value decides its own setting and leaves the others alone.
  induction pairs using List.reverseRecOn with
  | nil => rfl
  | append_singleton pairs pair ih =>
    funext setting
    rw [List.foldl_append, List.foldl_cons, List.foldl_nil, assign_apply, ih, lastGiven, lastGiven,
      valuesGiven_append]
    by_cases h : setting.isMeantBy pair
    · rw [if_pos h, valuesGiven_cons_of_meant h]
      exact List.getLast?_concat.symm
    · rw [if_neg h, valuesGiven_cons_of_not_meant (by simpa using h)]
      exact (congrArg List.getLast? (List.append_nil _)).symm

end Given

/-! ### Saying the same in other words -/

/-- A change to named values after which each setting is still given the same last value. -/
inductive Edit : List (String × Value) → List (String × Value) → Prop
  /-- A value comes in whose key means no setting. -/
  | unknown {before after pair} : ofKey? pair.1 = none →
      Edit (before ++ after) (before ++ pair :: after)
  /-- A key is written in the other spelling. -/
  | respelled {before after value} (setting : Setting) :
      Edit (before ++ (setting.key, value) :: after)
        (before ++ (setting.capitalKey, value) :: after)
  /-- Values change places, but those for one setting keep their order. -/
  | reordered {pairs pairs'} : pairs'.Perm pairs →
      (∀ setting : Setting, pairs'.filter setting.isMeantBy = pairs.filter setting.isMeantBy) →
      Edit pairs pairs'
  /-- A value is dropped that a later one for the same setting overrides. -/
  | overridden {before after pair later} {setting : Setting} : setting.isMeantBy pair →
      later ∈ after → setting.isMeantBy later → Edit (before ++ pair :: after) (before ++ after)

/-- A value in front of others counts for nothing if one of those is for the same setting. -/
theorem lastGiven_of_overridden {before after : List (String × Value)}
    {pair later : String × Value} {meant : Setting}
    (h : meant.isMeantBy pair = true) (hmem : later ∈ after)
    (hlater : meant.isMeantBy later = true) (setting : Setting) :
    lastGiven (before ++ pair :: after) setting = lastGiven (before ++ after) setting := by
  rw [lastGiven, lastGiven, valuesGiven_append, valuesGiven_append]
  by_cases hpair : setting.isMeantBy pair
  · -- The later value has the last word, with or without this one.
    have hne : valuesGiven after setting ≠ [] := by
      rw [isMeantBy_eq_of_isMeantBy h hlater] at hpair
      exact List.ne_nil_of_mem (List.mem_map_of_mem (List.mem_filter.mpr ⟨hmem, hpair⟩))
    rw [valuesGiven_cons_of_meant hpair, List.getLast?_append_of_ne_nil _ hne,
      List.getLast?_append_of_ne_nil _ (List.cons_ne_nil _ _), List.getLast?_cons_of_ne_nil hne]
  · rw [valuesGiven_cons_of_not_meant (by simpa using hpair)]

/-- **An edit leaves the last value given to each setting.** -/
theorem Edit.lastGiven_eq {pairs pairs' : List (String × Value)} (h : Edit pairs pairs') :
    lastGiven pairs = lastGiven pairs' := by
  funext setting
  cases h with
  | @unknown before after pair hkey =>
    have hnot : setting.isMeantBy pair = false := by
      rw [Bool.eq_false_iff]
      intro hmeant
      cases hkey.symm.trans (isMeantBy_iff.mp hmeant)
    rw [lastGiven, lastGiven, valuesGiven_append, valuesGiven_append,
      valuesGiven_cons_of_not_meant hnot]
  | @respelled before after value respelled =>
    -- Both spellings mean the same setting, so the value stays in its place.
    have hkey : respelled.isMeantBy (respelled.key, value) = true := by simp [isMeantBy]
    have hcapital : respelled.isMeantBy (respelled.capitalKey, value) = true := by
      simp [isMeantBy]
    rw [lastGiven, lastGiven, valuesGiven_append, valuesGiven_append]
    by_cases h : setting.isMeantBy (respelled.key, value)
    · have h' := (isMeantBy_eq_of_isMeantBy hkey hcapital).symm.trans h
      rw [valuesGiven_cons_of_meant h, valuesGiven_cons_of_meant h']
    · have h' := (isMeantBy_eq_of_isMeantBy hkey hcapital).symm.trans (Bool.eq_false_iff.mpr h)
      rw [valuesGiven_cons_of_not_meant (Bool.eq_false_iff.mpr h),
        valuesGiven_cons_of_not_meant h']
  | reordered _ hsame => rw [lastGiven, lastGiven, valuesGiven, valuesGiven, hsame]
  | overridden h hmem hlater => exact lastGiven_of_overridden h hmem hlater setting

/-- So do any number of edits, made or undone. -/
theorem lastGiven_eq_of_edits {pairs pairs' : List (String × Value)}
    (h : Relation.EqvGen Edit pairs pairs') : lastGiven pairs = lastGiven pairs' :=
  (eq_equivalence.comap lastGiven).eqvGen_iff.mp (h.mono fun _ _ hedit => hedit.lastGiven_eq)

end Setting

/-! ### Values that suit a setting -/

section Values

variable {setting : Setting} {value : Value}

theorem Value.asText_eq_ok_iff {s : String} : value.asText setting = .ok s ↔ value = .text s := by
  cases value <;> simp [asText]

theorem Value.asOptionalText_eq_ok_iff {s : Option String} :
    value.asOptionalText setting = .ok s ↔ value = s.elim .null .text := by
  rcases s with - | s <;> cases value <;> simp [asOptionalText, asText, Functor.map, Except.map]

theorem Value.mapM_asText_eq_ok_iff {items : List Value} {texts : List String} :
    items.mapM (asText setting) = .ok texts ↔ items = texts.map .text := by
  have hforall : List.Forall₂ (fun item s => item.asText setting = .ok s) items texts
      ↔ items = texts.map .text := by
    simp only [asText_eq_ok_iff]
    rw [← List.forall₂_map_right_iff, List.forall₂_eq_eq_eq]
  rw [← hforall]
  exact ⟨mapM_eq_ok, mapM_of_forall₂⟩

end Values

/-! ### Configurations -/

namespace Config

/-- `config.suits setting value`: the value makes the setting what it is in the
configuration. -/
def suits (config : Config) : Setting → Value → Prop
  | .groupBases, value => value.members = .ok (config.groupBases.map .text)
  | .groupFilter, value => value = .text config.groupFilter
  | .groupNameAttribute, value => value = .text config.groupNameAttribute
  | .membershipAttribute, value => value = config.membershipAttribute.elim .null .text
  | .userBases, value => value.members = .ok (config.userBases.map .text)
  | .userFilter, value => value = .text config.userFilter

/-- The value of a setting of the configuration, a search base as a list. -/
def value (config : Config) : Setting → Value
  | .groupBases => .list (config.groupBases.map .text)
  | .groupFilter => .text config.groupFilter
  | .groupNameAttribute => .text config.groupNameAttribute
  | .membershipAttribute => config.membershipAttribute.elim .null .text
  | .userBases => .list (config.userBases.map .text)
  | .userFilter => .text config.userFilter

/-- The settings of the configuration as named values, in some order and under some keys. -/
def pairs (config : Config) (order : List Setting) (spelling : Setting → String) :
    List (String × Value) :=
  order.map fun setting => (spelling setting, config.value setting)

theorem suits_value (config : Config) (setting : Setting) :
    config.suits setting (config.value setting) := by
  cases setting <;> rfl

/-- What is made of given values is made of them and the fallbacks of all other settings. -/
theorem ofValues_getD_fallback (given : Setting → Option Value) :
    ofValues (fun setting => some ((given setting).getD setting.fallback)) = ofValues given := by
  -- A search base that is missing is read as null, which has no members either.
  have hbase : ∀ base : Option Value,
      (base.getD (.list [])).members = (base.getD .null).members := by
    rintro (- | base) <;> rfl
  simp only [ofValues, Setting.fallback, Option.getD_some, hbase]

/-- **Values make a configuration just if each setting has one that suits it.** -/
theorem ofValues_eq_ok_iff {given : Setting → Option Value} {config : Config} :
    ofValues given = .ok config
      ↔ ∀ setting, config.suits setting ((given setting).getD setting.fallback) := by
  rw [← ofValues_getD_fallback]
  generalize hvalues : (fun setting => (given setting).getD setting.fallback) = values
  replace hvalues := fun setting => congrFun hvalues setting
  simp only [hvalues]
  constructor
  · -- Every check has passed, and its outcome tells the value.
    intro h
    obtain ⟨groupMembers, hgroupMembers, h⟩ := bind_eq_ok h
    obtain ⟨userMembers, huserMembers, h⟩ := bind_eq_ok h
    obtain ⟨groupBases, hgroupBases, h⟩ := bind_eq_ok h
    obtain ⟨groupFilter, hgroupFilter, h⟩ := bind_eq_ok h
    obtain ⟨groupNameAttribute, hgroupNameAttribute, h⟩ := bind_eq_ok h
    obtain ⟨membershipAttribute, hmembershipAttribute, h⟩ := bind_eq_ok h
    obtain ⟨userBases, huserBases, h⟩ := bind_eq_ok h
    obtain ⟨userFilter, huserFilter, h⟩ := bind_eq_ok h
    obtain rfl := Except.ok.inj h
    rw [Value.mapM_asText_eq_ok_iff] at hgroupBases huserBases
    intro setting
    cases setting with
    | groupBases => exact hgroupMembers.trans (congrArg Except.ok hgroupBases)
    | groupFilter => exact Value.asText_eq_ok_iff.mp hgroupFilter
    | groupNameAttribute => exact Value.asText_eq_ok_iff.mp hgroupNameAttribute
    | membershipAttribute => exact Value.asOptionalText_eq_ok_iff.mp hmembershipAttribute
    | userBases => exact huserMembers.trans (congrArg Except.ok huserBases)
    | userFilter => exact Value.asText_eq_ok_iff.mp huserFilter
  · -- Conversely no check can fail, whichever comes first.
    intro h
    have hgroupMembers : (values .groupBases).members = _ := h .groupBases
    have huserMembers : (values .userBases).members = _ := h .userBases
    have htext : ∀ setting s, values setting = .text s →
        (values setting).asText setting = .ok s := fun _ _ => Value.asText_eq_ok_iff.mpr
    have hmembership : (values .membershipAttribute).asOptionalText .membershipAttribute
        = .ok config.membershipAttribute :=
      Value.asOptionalText_eq_ok_iff.mpr (h .membershipAttribute)
    have hbases : ∀ setting (texts : List String),
        (texts.map Value.text).mapM (Value.asText setting) = .ok texts :=
      fun _ _ => Value.mapM_asText_eq_ok_iff.mpr rfl
    simp only [ofValues, Option.getD_some, hgroupMembers, huserMembers, hmembership,
      htext _ _ (h .groupFilter), htext _ _ (h .groupNameAttribute), htext _ _ (h .userFilter),
      bind, Except.bind, hbases]
    rfl

/-! ### Reading back -/

/-- What is made of named values is made of the last value that each setting is given. -/
theorem ofPairs_eq_ofValues (pairs : List (String × Value)) :
    ofPairs pairs = ofValues (Setting.lastGiven pairs) := by
  rw [ofPairs, Setting.foldl_assign]

/-- A configuration that is written down gives each setting its value. -/
theorem lastGiven_pairs {config : Config} {order : List Setting} {spelling : Setting → String}
    (horder : order.Perm Setting.all)
    (hspelling : ∀ setting : Setting,
      spelling setting = setting.key ∨ spelling setting = setting.capitalKey)
    (setting : Setting) :
    Setting.lastGiven (config.pairs order spelling) setting = some (config.value setting) := by
  have hmeant : ∀ other : Setting,
      setting.isMeantBy (spelling other, config.value other) = decide (other = setting) := by
    intro other
    rw [Bool.eq_iff_iff, Setting.isMeantBy_iff, decide_eq_true_iff,
      Setting.ofKey?_eq_some_iff.mpr (hspelling other), Option.some.injEq]
  -- However they are ordered, each setting comes once.
  have honce : order.filter (fun other => decide (other = setting)) = [setting] := by
    have hperm := horder.filter fun other => decide (other = setting)
    rw [← List.perm_singleton]
    refine hperm.trans (List.Perm.of_eq ?_)
    cases setting <;> decide
  rw [Setting.lastGiven, Setting.valuesGiven, pairs, List.filter_map, List.map_map,
    show setting.isMeantBy ∘ _ = _ from funext hmeant, honce]
  rfl

/-- **A configuration that is written down is read back**, in whatever order and under
whichever keys. -/
theorem ofPairs_pairs {config : Config} {order : List Setting} {spelling : Setting → String}
    (horder : order.Perm Setting.all)
    (hspelling : ∀ setting : Setting,
      spelling setting = setting.key ∨ spelling setting = setting.capitalKey) :
    ofPairs (config.pairs order spelling) = .ok config := by
  rw [ofPairs_eq_ofValues, ofValues_eq_ok_iff]
  intro setting
  rw [lastGiven_pairs horder hspelling, Option.getD_some]
  exact config.suits_value setting

/-! ### The main result -/

/-- **What is made of named values hangs on the last value that each setting is given.**

It is what is made of these values and, for settings that are given none, of the fallbacks, be
that a configuration or a fault.  So it is the same after any edits: values come in or go whose
keys mean no setting, keys are respelled, values for different settings change places, and values
are dropped that others override.  No key need be written once only for this.

In a configuration each search base has the members of the value it was given, all of which are
texts.  If its settings are written down, each under either key and in any order, then the same
configuration is made of them. -/
theorem ofPairs_by_last_given (pairs : List (String × Value)) :
    ofPairs pairs
        = ofValues (fun setting =>
            some ((Setting.lastGiven pairs setting).getD setting.fallback))
      ∧ (∀ pairs', Relation.EqvGen Setting.Edit pairs pairs' → ofPairs pairs' = ofPairs pairs)
      ∧ ∀ config, ofPairs pairs = .ok config →
        ((Setting.lastGiven pairs .groupBases).getD Setting.groupBases.fallback).members
            = .ok (config.groupBases.map .text)
          ∧ ((Setting.lastGiven pairs .userBases).getD Setting.userBases.fallback).members
            = .ok (config.userBases.map .text)
          ∧ ∀ (order : List Setting) (spelling : Setting → String), order.Perm Setting.all →
            (∀ setting : Setting,
              spelling setting = setting.key ∨ spelling setting = setting.capitalKey) →
            ofPairs (config.pairs order spelling) = .ok config := by
  refine ⟨?_, ?_, ?_⟩
  · rw [ofValues_getD_fallback, ofPairs_eq_ofValues]
  · intro pairs' hedits
    rw [ofPairs_eq_ofValues, ofPairs_eq_ofValues, Setting.lastGiven_eq_of_edits hedits]
  · intro config hconfig
    rw [ofPairs_eq_ofValues, ofValues_eq_ok_iff] at hconfig
    exact ⟨hconfig .groupBases, hconfig .userBases,
      fun _ _ horder hspelling => ofPairs_pairs horder hspelling⟩

/-- A search base under one key that is overridden under the other, a key that means nothing and
a membership attribute that is null; the same without the first two, and with other spellings in
another order. -/
theorem ofPairs_by_last_given_mixed :
    let bases : Value := .tuple [.text "ou=a", .text "ou=b"]
    let pairs := [("groupSearchBase", .int 1), ("colour", .flag true),
      ("membershipAttribute", .null), ("group_search_base", bases)]
    let pairs' := [("group_search_base", bases), ("membership_attribute", .null)]
    let config : Config :=
      { groupBases := ["ou=a", "ou=b"], groupFilter := "(objectClass=groupOfNames)",
        groupNameAttribute := "cn", membershipAttribute := none, userBases := [],
        userFilter := "(&(objectClass=person)(uid=?))" }
    Relation.EqvGen Setting.Edit pairs pairs'
      ∧ ofPairs pairs = .ok config
      ∧ ofPairs pairs' = .ok config
      ∧ bases.members = .ok (config.groupBases.map .text)
      ∧ ofPairs (config.pairs Setting.all.reverse Setting.capitalKey) = .ok config := by
  intro bases pairs pairs' config
  have hedits : Relation.EqvGen Setting.Edit pairs pairs' := by
    -- The overridden base goes first, then the unknown key; the respelled attribute is moved.
    have hdropped : Setting.Edit pairs pairs.tail :=
      @Setting.Edit.overridden [] pairs.tail _ ("group_search_base", bases) .groupBases rfl
        (by simp [pairs]) rfl
    have hknown : Setting.Edit (pairs.drop 2) pairs.tail :=
      @Setting.Edit.unknown [] (pairs.drop 2) ("colour", .flag true) rfl
    have hspelled : Setting.Edit [("membership_attribute", .null), ("group_search_base", bases)]
        (pairs.drop 2) :=
      @Setting.Edit.respelled [] [("group_search_base", bases)] .null .membershipAttribute
    have hswapped : Setting.Edit [("membership_attribute", .null), ("group_search_base", bases)]
        pairs' :=
      .reordered (.swap _ _ _) fun setting => by cases setting <;> rfl
    exact .trans _ _ _ (.rel _ _ hdropped) (.trans _ _ _ (.symm _ _ (.rel _ _ hknown))
      (.trans _ _ _ (.symm _ _ (.rel _ _ hspelled)) (.rel _ _ hswapped)))
  have hconfig : ofPairs pairs = .ok config := rfl
  obtain ⟨-, hsame, hread⟩ := ofPairs_by_last_given pairs
  obtain ⟨hmembers, -, hback⟩ := hread config hconfig
  exact ⟨hedits, hconfig, (hsame pairs' hedits).trans hconfig, hmembers,
    hback _ _ (List.reverse_perm _) fun _ => .inr rfl⟩

end Config

end DirectoryGroups
