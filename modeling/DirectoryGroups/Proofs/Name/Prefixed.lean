/-
DirectoryGroups/Proofs/Name/Prefixed.lean

A pair that is written in front of a name.

Nothing of a text is lost when it is divided: its pieces, each with its joint, make up the
text (`flatMap_whole_pieces`).  So a text that is read begins with what was read first, and
as that piece has an attribute, the text begins as a pair does (`opens_of_readPairs`).  A
pair that is written in front of it, with a joint between the two, is therefore cut off, and
what comes after the joint is read as it would be alone.

Main result: the name of a pair, a comma and a text that is read is the component of the
pair and then the components of the text (`parse_pair_comma`).
-/
import DirectoryGroups.Proofs.Name.RoundTrip

namespace DirectoryGroups

namespace Name

/-! ### Nothing is lost -/

/-- A piece and its joint. -/
def Piece.whole (piece : Piece) : List Char :=
  piece.text ++ piece.joint.text

theorem Piece.whole_join (p q : Piece) : (p.join q).whole = p.whole ++ q.whole := by
  simp only [whole, join, List.append_assoc]

theorem getElem?_of_mem_placesFrom {c : Char} {g : Guard} {i j : Nat} {s : List Char}
    (h : j ∈ placesFrom c g i s) : s[j - i]? = some c := by
  induction s generalizing g i with
  | nil => cases h
  | cons d s ih =>
    have hlater : j ∈ placesFrom c (g.after d) (i + 1) s → (d :: s)[j - i]? = some c := by
      intro hmem
      have hle := le_of_mem_placesFrom hmem
      have hnext : j - i = j - (i + 1) + 1 := by omega
      rw [hnext, List.getElem?_cons_succ]
      exact ih hmem
    rw [placesFrom] at h
    split at h
    · rename_i hfree
      rcases List.mem_cons.mp h with rfl | hmem
      · rw [Nat.sub_self, List.getElem?_cons_zero, hfree.2]
      · exact hlater hmem
    · exact hlater h

/-- What a division leaves on its two sides, with the joint between them, is the text. -/
theorem take_drop_of_division {s : List Char} {i : Nat} {joint : Joint}
    (h : division s = some (i, joint)) : s.take i ++ (joint.text ++ s.drop (i + 1)) = s := by
  obtain ⟨c, -, hjoint, hplace, -⟩ := mem_of_division h
  have hchar : s[i]? = some c := getElem?_of_mem_placesFrom hplace
  obtain ⟨hlt, hc⟩ := List.getElem?_eq_some_iff.mp hchar
  rw [hjoint, ← hc, List.singleton_append, ← List.drop_eq_getElem_cons hlt, List.take_append_drop]

/-- The parts of a divided text, with their joints, make up the text. -/
theorem flatMap_whole_divide (s : List Char) : (divide s).flatMap Piece.whole = s := by
  induction s using divide.induct with
  | case1 => rw [divide, List.flatMap_nil]
  | case2 c rest i joint hdivision ih =>
    have hwhole := take_drop_of_division hdivision
    rw [divide_of_division hdivision (List.cons_ne_nil _ _), List.flatMap_cons]
    rw [List.drop_succ_cons] at hwhole ⊢
    rw [ih, Piece.whole, List.append_assoc, hwhole]
  | case3 c rest hdivision =>
    rw [divide_of_division_none hdivision (List.cons_ne_nil _ _)]
    simp [Piece.whole, Joint.text]

theorem flatMap_whole_gather (current : Piece) (rest : List Piece) :
    (gather current rest).flatMap Piece.whole = current.whole ++ rest.flatMap Piece.whole := by
  induction rest generalizing current with
  | nil => rw [gather, List.flatMap_singleton, List.flatMap_nil, List.append_nil]
  | cons piece rest ih =>
    rw [gather]
    -- A part without an equals sign is put behind the piece before it, joint and all.
    split
    · rw [List.flatMap_cons, ih, List.flatMap_cons]
    · rw [ih, Piece.whole_join, List.flatMap_cons, List.append_assoc]

/-- **Nothing is lost: the pieces of a text, with their joints, make up the text.** -/
theorem flatMap_whole_pieces (s : List Char) : (pieces s).flatMap Piece.whole = s := by
  have hdivide := flatMap_whole_divide s
  unfold pieces
  split
  · rename_i hnone
    rwa [hnone] at hdivide
  · rename_i piece rest hparts
    rwa [flatMap_whole_gather, ← List.flatMap_cons, ← hparts]

/-! ### Texts that are read -/

theorem eq_of_splitAfter {c : Char} {s left right : List Char}
    (h : splitAfter c s = some (left, right)) : s = left ++ '=' :: right := by
  induction s generalizing c left with
  | nil => cases h
  | cons d s ih =>
    rw [splitAfter] at h
    split at h
    · rename_i hequal
      obtain ⟨rfl, rfl⟩ := Prod.mk.inj (Option.some.inj h)
      rw [hequal.1, List.nil_append]
    · obtain ⟨⟨front, back⟩, hsplit, hhalves⟩ := Option.map_eq_some_iff.mp h
      obtain ⟨rfl, rfl⟩ := Prod.mk.inj hhalves
      rw [List.cons_append, ← ih hsplit]

theorem eq_of_split {s left right : List Char} (h : split s = some (left, right)) :
    s = left ++ '=' :: right := by
  rcases s with - | ⟨c, s⟩
  · cases h
  · rw [split] at h
    split at h
    · cases h
    · obtain ⟨⟨front, back⟩, hsplit, hhalves⟩ := Option.map_eq_some_iff.mp h
      obtain ⟨rfl, rfl⟩ := Prod.mk.inj hhalves
      rw [List.cons_append, ← eq_of_splitAfter hsplit]

/-- What trims to an attribute is the attribute and blanks, and so may stand before an
equals sign. -/
theorem front_of_trim {s : List Char} (h : checkAttribute (Text.trim s) = .ok ()) : Front s := by
  have hnot : ∀ c, ¬ (isAttributeChar c = true ∨ c = '<') → Text.isBlank c = false → c ∉ s :=
    fun c hc hblank hmem =>
      hc (mem_of_checkAttribute h (Text.mem_trim_of_not_blank hmem hblank))
  refine ⟨?_, hnot _ (by decide) (by decide), hnot _ (by decide) (by decide), ?_⟩
  · rintro rfl
    cases h
  · rintro c (rfl | rfl)
    · exact hnot _ (by decide) (by decide)
    · exact hnot _ (by decide) (by decide)

/-- A piece that is read begins as a pair does. -/
theorem opens_of_readPair {item : List Char} {p : TypedValue} (h : readPair item = .ok p) :
    Opens item := by
  unfold readPair at h
  split at h
  · cases h
  · rename_i left right hsplit
    obtain ⟨_, hattr, -⟩ := bind_eq_ok h
    exact ⟨left, right, eq_of_split hsplit, front_of_trim hattr⟩

/-- A text that is read begins as a pair does. -/
theorem opens_of_readPairs {s : List Char} {pairs : List JoinedPair}
    (h : readPairs s = .ok pairs) : Opens s := by
  obtain ⟨hne, hpairs⟩ := pairs_of_readPairs h
  have hwhole := flatMap_whole_pieces s
  rcases hpieces : pieces s with - | ⟨piece, more⟩
  · rw [hpieces, List.forall₂_nil_left_iff] at hpairs
    exact absurd hpairs hne
  · -- The text begins with its first piece, and that one was read as a pair.
    obtain ⟨p, rest, ⟨hread, -⟩, -, -⟩ := List.forall₂_cons_left_iff.mp (hpieces ▸ hpairs)
    rw [hpieces, List.flatMap_cons, Piece.whole, List.append_assoc] at hwhole
    rw [← hwhole]
    exact (opens_of_readPair hread).append _

/-! ### Pairs in front -/

/-- A pair in front of a text that is read is read first, and the rest as it was. -/
theorem readPairs_pair_append {p q : TypedValue} (hp : p.Legible) (hread : readPair p.text = .ok q)
    {joint : Joint} (hjoint : joint ≠ .last) {s : List Char} {pairs : List JoinedPair}
    (h : readPairs s = .ok pairs) :
    readPairs (p.text ++ (joint.text ++ s)) = .ok (⟨q, joint⟩ :: pairs) := by
  refine readPairs_of_pairs (List.cons_ne_nil _ _) ?_
  rw [pieces_pair_append hp hjoint (opens_of_readPairs h)]
  exact .cons ⟨hread, rfl⟩ (pairs_of_readPairs h).2

end Name

namespace DistinguishedName

open Name

theorem parse_pair {p : TypedValue} (hp : p.Proper) :
    parse (some (.ofList p.text)) = .ok ⟨[.single p]⟩ := by
  have hproper : (⟨[.single p]⟩ : DistinguishedName).Proper := by
    refine ⟨List.cons_ne_nil _ _, ?_⟩
    intro r hr q hq
    obtain rfl := List.mem_singleton.mp hr
    obtain rfl := List.mem_singleton.mp hq
    exact hp
  have htext : toString (⟨[.single p]⟩ : DistinguishedName) = .ofList p.text := by
    refine congrArg String.ofList ?_
    simp [text, RelativeName.text, RelativeName.single]
  rw [← htext, hproper.parse_toString]

/-- **A proper pair and a comma in front of a text that is read add a component and leave
the others as they are.** -/
theorem parse_pair_comma {p : TypedValue} (hp : p.Proper) {rest : String} {dn : DistinguishedName}
    (h : parse (some rest) = .ok dn) :
    parse (some (.ofList p.text ++ "," ++ rest)) = .ok ⟨.single p :: dn.components⟩ := by
  obtain ⟨pairs, hpairs, hgroup⟩ := eq_group_of_parse h
  have htext : (String.ofList p.text ++ "," ++ rest).toList
      = p.text ++ (Joint.comma.text ++ rest.toList) := by
    rw [String.toList_append, String.toList_append, String.toList_ofList, List.append_assoc]
    rfl
  rw [Option.getD_some] at hpairs
  rw [parse, Option.getD_some, htext,
    readPairs_pair_append hp.legible (readPair_text hp) (by decide) hpairs, hgroup]
  rfl

end DistinguishedName

end DirectoryGroups
