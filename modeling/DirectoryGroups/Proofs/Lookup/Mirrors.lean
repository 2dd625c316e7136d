/-
DirectoryGroups/Proofs/Lookup/Mirrors.lean

Collecting values over sessions that mirror one another.

If a session mirrors another, then values are collected from it in the same way: the same bases
are searched, and either both return what related entries hold, or both fail with the same
failure.

Main result: `Session.Mirrors.collect`.
-/
import DirectoryGroups.Proofs.Lookup.Aggregation
import DirectoryGroups.Proofs.Session.Mirrors

namespace DirectoryGroups

theorem ResultsAgree.raisedBy_eq {α β : Type} {values : α → β → Prop}
    {result : Except Failure α} {result' : Except Failure β}
    (h : ResultsAgree Eq values result result') : raisedBy result = raisedBy result' := by
  cases h with
  | ok _ => rfl
  | error hfailure => exact congrArg some hfailure.eq

namespace Session.Mirrors

variable {σ σ' κ κ' : Type} {session : Session σ κ} {session' : Session σ' κ'}
  {entries : Entry → Entry → Prop} {states : σ → σ' → Prop} {cursors : κ × σ → κ' × σ' → Prop}

/-- How collecting ends is mirrored; `values` is what becomes of related entries. -/
theorem collects (h : session.Mirrors session' entries states cursors) {attr : String}
    {values : List String → List String → Prop}
    (hvalues : ∀ {lists lists'}, List.Forall₂ (List.Forall₂ entries) lists lists' →
      values (lists.flatMap fun entries => entries.flatMap (Entry.valueList attr))
        (lists'.flatMap fun entries => entries.flatMap (Entry.valueList attr)))
    {query : String → Query} {bases asked : List String} {result : Except Failure (List String)}
    {s t : σ} {s' : σ'} (hcollects : session.Collects attr query bases s asked result t)
    (hs : states s s') :
    ∃ result' t', session'.Collects attr query bases s' asked result' t'
      ∧ ResultsAgree Eq values result result' := by
  cases hcollects with
  | returns hlists =>
    obtain ⟨lists', t', hlists', -, hrelated⟩ := h.bringsInTurn hlists hs
    exact ⟨_, _, .returns hlists', .ok (hvalues hrelated)⟩
  | raises hbases hbefore hfails =>
    obtain ⟨lists', s₁', hbefore', hs₁, -⟩ := h.bringsInTurn hbefore hs
    obtain ⟨given', t', hfails', -, hgiven⟩ := h.brings hfails hs₁
    -- A search that fails is mirrored by one that fails.
    rcases hgiven with - | hfailure
    exact ⟨_, _, .raises hbases hbefore' hfails', .error hfailure⟩

/-- **Collecting ends alike.** -/
theorem collect (h : session.Mirrors session' entries states cursors) {attr : String}
    {values : List String → List String → Prop}
    (hvalues : ∀ {lists lists'}, List.Forall₂ (List.Forall₂ entries) lists lists' →
      values (lists.flatMap fun entries => entries.flatMap (Entry.valueList attr))
        (lists'.flatMap fun entries => entries.flatMap (Entry.valueList attr)))
    (bases : List String) (filter : String) {s : σ} {s' : σ'} (hs : states s s') :
    ResultsAgree Eq values (session.collect bases filter attr s).result
      (session'.collect bases filter attr s').result := by
  obtain ⟨asked, hcollects, -⟩ := session.collects_valuesBelowAll filter attr bases s
  obtain ⟨result', t', hcollects', hagree⟩ := h.collects hvalues hcollects hs
  rw [collect_eq, collect_eq, valuesBelowAll_of_collects hcollects']
  exact hagree

end Session.Mirrors

end DirectoryGroups
