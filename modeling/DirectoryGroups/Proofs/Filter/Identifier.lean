/-
DirectoryGroups/Proofs/Filter/Identifier.lean

The bare values of a name that was read, and the identifier of its leaf.

A value is read in two ways: the check goes through it in three states, and resolving its
escapes looks up to two characters ahead.  On a value that passed the check both see the same
tokens, so that no backslash is left to stand for itself (`TypedValue.MadeOf`).  The bare value
is the text of the octets of these tokens, be they well formed or not.  There are some, as a
value that passed is not empty, and no octets are without text.  So no pair of a name that was
read has an empty bare value.  Its leaf is there and has one of these pairs for its primary
pair, and groups that list identifiers are never looked for by an empty one.

Main result: `identifier_of_parse`.
-/
import DirectoryGroups.Proofs.Filter.Membership
import DirectoryGroups.Proofs.Name.Primary
import DirectoryGroups.Proofs.Name.Spelling
import DirectoryGroups.Proofs.Text.Boundary

namespace DirectoryGroups

/-! ### Values that are not empty -/

namespace Name

@[simp] theorem tokens_eq_nil_iff {s : List Char} : tokens s = [] ↔ s = [] := by
  refine ⟨?_, ?_⟩
  · intro h
    rw [← flatMap_text_tokens s, h, List.flatMap_nil]
  · rintro rfl
    rfl

/-- Every token stands for an octet at least. -/
theorem Token.octets_ne_nil (t : Token) : t.octets ≠ [] := by
  cases t <;> simp [Token.octets]

@[simp] theorem octets_eq_nil_iff {s : List Char} : octets s = [] ↔ s = [] := by
  -- Each token stands for an octet at least, so without octets there is no token.
  have hnone : (∀ t ∈ tokens s, t.octets = []) ↔ tokens s = [] := by
    simp only [Token.octets_ne_nil, imp_false, ← List.eq_nil_iff_forall_not_mem]
  rw [octets, List.flatMap_eq_nil_iff, hnone, tokens_eq_nil_iff]

/-- **Resolving its escapes leaves something of every value** that is not empty. -/
theorem unescape_eq_empty_iff {s : String} : unescape s = "" ↔ s = "" := by
  rw [← String.toList_eq_nil_iff, unescape, String.toList_ofList, unescapeChars_eq_decode,
    Utf8.decode_eq_nil_iff, octets_eq_nil_iff, String.toList_eq_nil_iff]

theorem ne_nil_of_checkValue {item s : List Char} (h : checkValue item s = .ok ()) : s ≠ [] := by
  rintro rfl
  cases h

end Name

/-! ### Values token by token -/

namespace TypedValue

/-- The tokens that the value of a pair is made up of.  Each may stand in a value, and resolving
the escapes finds just these tokens and takes none of them for a lone backslash. -/
structure MadeOf (p : TypedValue) (ts : List Name.Token) : Prop where
  nonempty : ts ≠ []
  written : ∀ t ∈ ts, t.Written
  text : p.value.toList = ts.flatMap Name.Token.text
  read : Name.tokens p.value.toList = ts
  backslash : .plain '\\' ∉ ts
  bareValue : p.bareValue = .ofList (Utf8.decode (ts.flatMap Name.Token.octets))

theorem madeOf_of_checkValue {p : TypedValue} {item : List Char}
    (h : Name.checkValue item p.value.toList = .ok ()) :
    p.MadeOf (Name.tokens p.value.toList) where
  nonempty := by
    rw [ne_eq, Name.tokens_eq_nil_iff]
    exact Name.ne_nil_of_checkValue h
  written := Name.written_of_checkValue h
  text := (Name.flatMap_text_tokens _).symm
  read := rfl
  backslash := by
    -- The check lets no backslash pass that stands for itself.
    intro hmem
    exact (Name.written_of_checkValue h _ hmem).1 rfl
  bareValue := by
    rw [TypedValue.bareValue, Name.unescape, Name.unescapeChars_eq_decode, Name.octets]

theorem MadeOf.bareValue_ne_empty {p : TypedValue} {ts : List Name.Token} (h : p.MadeOf ts) :
    p.bareValue ≠ "" := by
  intro hempty
  have hvalue : p.value = "" := Name.unescape_eq_empty_iff.mp hempty
  apply h.nonempty
  rw [← h.read, Name.tokens_eq_nil_iff, String.toList_eq_nil_iff]
  exact hvalue

end TypedValue

/-! ### Groups that list identifiers -/

/-- Groups that list identifiers are found by the bare value of the leaf. -/
theorem Config.membershipFilter_of_identifiers {config : Config}
    (hattr : config.membershipAttribute = some memberUid)
    {dn : DistinguishedName} {v : String} (hleaf : dn.leafValue = .ok v) :
    config.membershipFilter dn
      = .ok ("(&" ++ config.groupFilter ++ "(memberUid=" ++ v ++ "))") := by
  have hrequired : config.requiredMembership = .ok memberUid := by
    simp only [Config.requiredMembership, hattr]
    rfl
  have hvalue : config.memberValue dn = .ok v := by
    simp [Config.memberValue, Config.listsIdentifiers, hattr, hleaf]
  have hassertion : "(memberUid=" = "(" ++ (memberUid ++ "=") := rfl
  rw [membershipFilter_of_value hrequired hvalue, hassertion]
  simp only [String.append_assoc]

/-! ### Names that were read -/

namespace DistinguishedName

variable {written : Option String} {dn : DistinguishedName}

/-- Each value of a name that was read is made up of its tokens. -/
theorem exists_madeOf_of_parse (h : parse written = .ok dn) {r : RelativeName}
    (hr : r ∈ dn.components) {p : TypedValue} (hp : p ∈ r.pairs) : ∃ ts, p.MadeOf ts := by
  obtain ⟨-, item, hvalue⟩ := pair_checked h hr hp
  exact ⟨_, TypedValue.madeOf_of_checkValue hvalue⟩

/-- A name that was read has a leaf, and the leaf has a bare value. -/
theorem exists_leaf_of_parse (h : parse written = .ok dn) :
    ∃ leaf, dn.leaf? = some leaf ∧ dn.leafValue = .ok leaf.bareValue ∧ leaf.bareValue ≠ "" := by
  rcases hcomponents : dn.components with - | ⟨leaf, others⟩
  · exact absurd hcomponents (components_ne_nil h)
  · have hleaf : dn.leaf? = some leaf := by rw [leaf?, hcomponents, List.head?_cons]
    have hmem : leaf ∈ dn.components := by
      rw [hcomponents]
      exact List.mem_cons_self
    -- The primary pair is one of those that were read, whichever it is.
    obtain ⟨ts, hts⟩ := exists_madeOf_of_parse h hmem leaf.primary_mem
    exact ⟨leaf, hleaf, by rw [leafValue, hleaf], hts.bareValue_ne_empty⟩

/-- **A name that was read has an identifier to look for.**

A name that was read has components, and these have pairs.  The value of each pair is made up of
tokens that may stand in a value, the same that are found when its escapes are resolved, and its
bare value is the text of their octets and not empty.  So the name has a leaf with a bare value
that is not empty, and where groups list identifiers, they are looked for by that value. -/
theorem identifier_of_parse (h : parse written = .ok dn) :
    dn.components ≠ []
      ∧ (∀ r ∈ dn.components, r.pairs ≠ []
        ∧ ∀ p ∈ r.pairs, (∃ ts, p.MadeOf ts) ∧ p.bareValue ≠ "")
      ∧ ∃ leaf v, dn.leaf? = some leaf ∧ leaf.bareValue = v ∧ dn.leafValue = .ok v ∧ v ≠ ""
        ∧ ∀ config : Config, config.membershipAttribute = some memberUid →
          config.membershipFilter dn
            = .ok ("(&" ++ config.groupFilter ++ "(memberUid=" ++ v ++ "))") := by
  refine ⟨components_ne_nil h, ?_, ?_⟩
  · intro r hr
    refine ⟨r.nonempty, ?_⟩
    intro p hp
    obtain ⟨ts, hts⟩ := exists_madeOf_of_parse h hr hp
    exact ⟨⟨ts, hts⟩, hts.bareValue_ne_empty⟩
  · obtain ⟨leaf, hleaf, hvalue, hne⟩ := exists_leaf_of_parse h
    exact ⟨leaf, leaf.bareValue, hleaf, rfl, hvalue, hne,
      fun config hattr => Config.membershipFilter_of_identifiers hattr hvalue⟩

/-- The beginning of a character before an escaped comma, in a leaf of two pairs. -/
theorem identifier_of_parse_broken :
    let config : Config :=
      { groupBases := [], groupFilter := "(objectClass=posixGroup)", groupNameAttribute := "cn",
        membershipAttribute := some memberUid, userBases := [], userFilter := "(uid=?)" }
    let written := some "uid = \\c3\\, + x=\\5C, dc=z"
    let dn : DistinguishedName :=
      ⟨[.cons ⟨"uid", "\\c3\\,"⟩ (.single ⟨"x", "\\5C"⟩), .single ⟨"dc", "z"⟩]⟩
    parse written = .ok dn ∧ config.membershipAttribute = some memberUid
      ∧ dn.leafValue = .ok "\ufffd,"
      ∧ config.membershipFilter dn
        = .ok "(&(objectClass=posixGroup)(memberUid=\ufffd,))" := by
  intro config written dn
  have hparse : parse written = .ok dn := by decide +kernel
  have hleaf : dn.leafValue = .ok "\ufffd," := by decide +kernel
  obtain ⟨-, -, leaf, v, -, -, hvalue, -, hfilter⟩ := identifier_of_parse hparse
  obtain rfl : v = "\ufffd," := Except.ok.inj (hvalue.symm.trans hleaf)
  exact ⟨hparse, rfl, hleaf, hfilter config rfl⟩

end DistinguishedName

end DirectoryGroups
