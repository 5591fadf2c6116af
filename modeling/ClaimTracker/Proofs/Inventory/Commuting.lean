import Mathlib.Data.List.Pairwise
import ClaimTracker.Proofs.Inventory.Separate

/-!
# Replacements that commute

Two calls for different partitions that list no key in common lead to the same table in either order,
whoever holds the keys before: what one of them overwrites, the other has to leave alone or would evict
anyway. So independent replacements may come in any order, and those of claims and of composites are
always independent.
-/

namespace ClaimTracker

namespace Table

variable {ρ : Type} [Record ρ]

/-- Two calls are for different partitions and list no key in common. -/
def Independent (c d : Call ρ) : Prop :=
  c.1 ≠ d.1 ∧ ∀ r ∈ c.2, ∀ s ∈ d.2, Record.key r ≠ Record.key s

lemma Independent.symm {c d : Call ρ} (h : Independent c d) : Independent d c :=
  ⟨Ne.symm h.1, fun s hs r hr => Ne.symm (h.2 r hr s hs)⟩

instance : Std.Symm (Independent : Call ρ → Call ρ → Prop) := ⟨fun _ _ h => h.symm⟩

/-- Any two of the calls are the same one or independent. -/
lemma eq_or_independent {calls : List (Call ρ)} (h : calls.Pairwise Independent) {c d : Call ρ}
    (hc : c ∈ calls) (hd : d ∈ calls) : c = d ∨ Independent c d := by
  by_cases same : c = d
  · exact Or.inl same
  · exact Or.inr (h.forall hc hd same)

lemma separate_of_pairwise {calls : List (Call ρ)} (h : calls.Pairwise Independent) :
    Separate calls := by
  constructor
  · intro c hc d hd partition
    rcases eq_or_independent h hc hd with rfl | apart
    · rfl
    · exact absurd partition apart.1
  · intro c hc d hd r hr s hs key
    rcases eq_or_independent h hc hd with rfl | apart
    · rfl
    · exact absurd key (apart.2 r hr s hs)

variable [LawfulRecord ρ]

/-- Independent calls lead to the same table in every order. -/
lemma replaceAll_perm {calls others : List (Call ρ)} (perm : calls.Perm others)
    (h : calls.Pairwise Independent) (t : Table ρ) : t.replaceAll calls = t.replaceAll others := by
  have h' : others.Pairwise Independent := (perm.pairwise_iff Independent.symm).mp h
  have among : ∀ {l l' : List (Call ρ)}, l.Perm l' → Matched l l' := fun perm c hc =>
    ⟨c, perm.mem_iff.mp hc, rfl, fun _ => rfl⟩
  exact replaceAll_eq_of_matched (separate_of_pairwise h) (separate_of_pairwise h')
    (among perm) (among perm.symm)

/-- Two independent replacements commute. -/
lemma replace_comm {p q : String} (distinct : p ≠ q) {a b : List ρ}
    (apart : ∀ r ∈ a, ∀ s ∈ b, Record.key r ≠ Record.key s) (t : Table ρ) :
    (t.replace p a).replace q b = (t.replace q b).replace p a :=
  replaceAll_perm (.swap (q, b) (p, a) []) (List.pairwise_pair.mpr ⟨distinct, apart⟩) t

end Table

namespace Inventory

/-- Two replacements change different tables, or their calls are independent. -/
def Replacement.Independent : Replacement → Replacement → Prop
  | .claims p a, .claims q b => Table.Independent (p, a) (q, b)
  | .composites p a, .composites q b => Table.Independent (p, a) (q, b)
  | _, _ => True

/-- Independent replacements lead to the same inventory in every order. -/
lemma replaceAll_perm {history other : List Replacement} (perm : history.Perm other)
    (h : history.Pairwise Replacement.Independent) (i : Inventory) :
    i.replaceAll history = i.replaceAll other := by
  have claims : (history.filterMap Replacement.claimCall?).Pairwise Table.Independent := by
    refine h.filterMap _ fun r s apart c hc d hd => ?_
    rw [Replacement.claimCall?_eq_some_iff] at hc hd
    subst hc hd
    exact apart
  have composites : (history.filterMap Replacement.compositeCall?).Pairwise Table.Independent := by
    refine h.filterMap _ fun r s apart c hc d hd => ?_
    rw [Replacement.compositeCall?_eq_some_iff] at hc hd
    subst hc hd
    exact apart
  rw [replaceAll_eq, replaceAll_eq,
    Table.replaceAll_perm (perm.filterMap Replacement.claimCall?) claims,
    Table.replaceAll_perm (perm.filterMap Replacement.compositeCall?) composites]

/-- Replacements of different partitions that have no identity key in common commute, whoever holds
their keys before, and a replacement of claims commutes with every one of composites. So all
replacements that are independent of each other may come in any order. -/
theorem independent_replacements_commute (i : Inventory) (p q : String) :
    (∀ a b : List Claim, p ≠ q → (∀ c ∈ a, ∀ d ∈ b, Record.key c ≠ Record.key d) →
      (i.replaceClaims p a).replaceClaims q b = (i.replaceClaims q b).replaceClaims p a) ∧
    (∀ a b : List Composite, p ≠ q → (∀ x ∈ a, ∀ y ∈ b, Record.key x ≠ Record.key y) →
      (i.replaceComposites p a).replaceComposites q b =
        (i.replaceComposites q b).replaceComposites p a) ∧
    (∀ (a : List Claim) (b : List Composite),
      (i.replaceClaims p a).replaceComposites q b = (i.replaceComposites q b).replaceClaims p a) ∧
    (∀ history other, history.Perm other → history.Pairwise Replacement.Independent →
      i.replaceAll history = i.replaceAll other) := by
  refine ⟨fun a b distinct apart => ?_, fun a b distinct apart => ?_, fun a b => rfl,
    fun history other perm h => replaceAll_perm perm h i⟩
  · have claims := Table.replace_comm distinct apart i.claims
    exact congrArg (fun t => { i with claims := t }) claims
  · have composites := Table.replace_comm distinct apart i.composites
    exact congrArg (fun t => { i with composites := t }) composites

/-- Each of two types takes over a claim that the other one holds, in either order. -/
theorem exchanged_in_either_order :
    let i := (∅ : Inventory).replaceAll
      [.claims "g/v1/widgets" [sharedClaim, { sharedClaim with name := "w3" }],
        .claims "g/v1/gadgets" [{ sharedClaim with name := "w2" }]]
    let a : List Claim := [{ sharedClaim with name := "w2" }]
    let b : List Claim := [sharedClaim]
    ("g/v1/widgets" ≠ "g/v1/gadgets" ∧ ∀ c ∈ a, ∀ d ∈ b, Record.key c ≠ Record.key d) ∧
      (i.replaceClaims "g/v1/widgets" a).replaceClaims "g/v1/gadgets" b =
        (i.replaceClaims "g/v1/gadgets" b).replaceClaims "g/v1/widgets" a := by
  intro i a b
  have distinct : "g/v1/widgets" ≠ "g/v1/gadgets" := by decide
  have apart : ∀ c ∈ a, ∀ d ∈ b, Record.key c ≠ Record.key d := by decide
  exact ⟨⟨distinct, apart⟩, (independent_replacements_commute i _ _).1 a b distinct apart⟩

end Inventory

end ClaimTracker
