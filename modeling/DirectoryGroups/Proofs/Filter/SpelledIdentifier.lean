/-
DirectoryGroups/Proofs/Filter/SpelledIdentifier.lean

Identifiers that are spelled octet by octet.

Where groups list bare identifiers, the value of a name's most specific component goes into
the filter as it is.  A name may spell that value octet by octet, each as two hexadecimal
digits after a backslash.  Such a spelling passes the check of values whatever it stands for,
has no blanks that trimming could take (`OctetSpelling.proper`), and is resolved to the text
of its octets.  So there is no identifier, apart from the empty one, that the name of an
entry could not put into the filter, be it with parentheses, stars, backslashes or NULs.

Main result: `Config.membershipFilter_of_spelled`.
-/
import DirectoryGroups.Proofs.Filter.Identifier
import DirectoryGroups.Proofs.Name.Prefixed

namespace DirectoryGroups

namespace Name

/-! ### Spelled values -/

theorem isBlank_of_isDigit {c : Char} (h : Hex.isDigit c = true) : Text.isBlank c = false := by
  -- Digits and letters of either case are three ranges of visible characters.
  unfold Hex.isDigit Hex.value? at h
  simp only [Char.le_def, UInt32.le_iff_toNat_le] at h
  split at h
  · rename_i hdigit
    exact Text.isBlank_of_mark (Nat.le_trans (by decide) hdigit.1)
      (Nat.le_trans hdigit.2 (by decide))
  · split at h
    · rename_i hlower
      exact Text.isBlank_of_mark (Nat.le_trans (by decide) hlower.1)
        (Nat.le_trans hlower.2 (by decide))
    · split at h
      · rename_i hupper
        exact Text.isBlank_of_mark (Nat.le_trans (by decide) hupper.1)
          (Nat.le_trans hupper.2 (by decide))
      · cases h

namespace OctetSpelling

variable {v : String} (spelling : OctetSpelling v)

theorem isBlank_of_mem {c : Char} (hc : c ∈ spelling.text.toList) : Text.isBlank c = false := by
  rw [toList_text] at hc
  obtain ⟨t, ht, hmem⟩ := List.mem_flatMap.mp hc
  refine spelling.forall_mem_tokens (P := fun t => c ∈ t.text → Text.isBlank c = false) ?_ t ht hmem
  intro high low hhigh hlow hmem
  simp only [Token.text, List.mem_cons, List.not_mem_nil, or_false] at hmem
  rcases hmem with rfl | rfl | rfl
  · decide
  · exact isBlank_of_isDigit hhigh
  · exact isBlank_of_isDigit hlow

theorem tokens_ne_nil (hv : v ≠ "") : spelling.tokens ≠ [] := by
  intro hnil
  have hdigits : spelling.digits = [] := List.map_eq_nil_iff.mp hnil
  have hnone : Utf8.encode v.toList = [] := by rw [← spelling.octets, hdigits, List.map_nil]
  have hempty : v.toList = [] := by
    rw [← Utf8.decode_encode v.toList, hnone]
    rfl
  exact hv (String.toList_eq_nil_iff.mp hempty)

/-- A pair whose value is spelled octet by octet is proper. -/
theorem proper (hv : v ≠ "") {attr : String} (hattr : checkAttribute attr.toList = .ok ()) :
    (⟨attr, spelling.text⟩ : TypedValue).Proper where
  attr := hattr
  value := by
    rw [toList_text]
    exact checkValue_flatMap_text (spelling.tokens_ne_nil hv) spelling.written
  trimmed := Text.trim_of_no_blanks fun _ => spelling.isBlank_of_mem

end OctetSpelling

end Name

namespace Config

open Name DistinguishedName

variable {config : Config}

/-- **A name puts any identifier into the filter.**

Let groups list bare identifiers, and let a name spell some text other than the empty one
octet by octet as its user identifier, alone or with a comma and any name behind it.  Then
the name is read, its leaf has just that text for its value, and the filter for the user's
groups holds the text as it is. -/
theorem membershipFilter_of_spelled (hattr : config.membershipAttribute = some memberUid)
    {v : String} (hv : v ≠ "") (spelling : OctetSpelling v) {written : String}
    (hwritten : written = "uid=" ++ spelling.text
      ∨ ∃ rest dn, parse (some rest) = .ok dn
        ∧ written = "uid=" ++ spelling.text ++ "," ++ rest) :
    ∃ dn, parse (some written) = .ok dn ∧ dn.leafValue = .ok v
      ∧ config.membershipFilter dn
        = .ok ("(&" ++ config.groupFilter ++ "(memberUid=" ++ v ++ "))") := by
  have hproper : (⟨"uid", spelling.text⟩ : TypedValue).Proper := spelling.proper hv (by decide)
  have htext : String.ofList (⟨"uid", spelling.text⟩ : TypedValue).text
      = "uid=" ++ spelling.text := by
    rw [← String.toList_inj]
    simp [TypedValue.text]
  -- The spelled pair is the leaf, whatever is read behind the comma.
  have hread : ∃ others, parse (some written) = .ok ⟨.single ⟨"uid", spelling.text⟩ :: others⟩ := by
    rcases hwritten with rfl | ⟨rest, dn, hrest, rfl⟩
    · rw [← htext]
      exact ⟨[], parse_pair hproper⟩
    · rw [← htext]
      exact ⟨dn.components, parse_pair_comma hproper hrest⟩
  obtain ⟨others, hparse⟩ := hread
  have hleaf : (⟨.single ⟨"uid", spelling.text⟩ :: others⟩ : DistinguishedName).leafValue
      = .ok v := by
    refine congrArg Except.ok ?_
    exact spelling.unescape_text
  exact ⟨_, hparse, hleaf, membershipFilter_of_identifiers hattr hleaf⟩

/-- Signs of filters and names, a NUL and a character of two octets, in digits of either
case, before a component that begins with a blank. -/
theorem membershipFilter_of_spelled_hostile :
    let config : Config :=
      { groupBases := [], groupFilter := "(objectClass=posixGroup)", groupNameAttribute := "cn",
        membershipAttribute := some memberUid, userBases := [], userFilter := "(uid=?)" }
    let v := ")(*\\\x00é"
    let written := "uid=\\29\\28\\2A\\5c\\00\\c3\\A9, ou=a\\,b+cn=c"
    config.membershipAttribute = some memberUid ∧ v ≠ ""
      ∧ ∃ dn, parse (some written) = .ok dn ∧ dn.leafValue = .ok v
        ∧ config.membershipFilter dn = .ok "(&(objectClass=posixGroup)(memberUid=)(*\\\x00é))" := by
  intro config v written
  have hv : v ≠ "" := by decide
  let spelling : OctetSpelling v :=
    { digits := [('2', '9'), ('2', '8'), ('2', 'A'), ('5', 'c'), ('0', '0'), ('c', '3'), ('A', '9')]
      areDigits := by decide
      octets := by decide }
  have hrest : parse (some " ou=a\\,b+cn=c")
      = .ok ⟨[.cons ⟨"ou", "a\\,b"⟩ (.single ⟨"cn", "c"⟩)]⟩ := by decide +kernel
  have hwritten : written = "uid=" ++ spelling.text ++ "," ++ " ou=a\\,b+cn=c" := by decide +kernel
  exact ⟨rfl, hv, @membershipFilter_of_spelled config rfl v hv spelling written
    (.inr ⟨_, _, hrest, hwritten⟩)⟩

end Config

end DirectoryGroups
