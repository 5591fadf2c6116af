import ClaimTracker.Proofs.Inventory.Operations

/-!
# What enrichment does

A claim refers to a composite by the key under which the composite is stored. Once an inventory has
been enriched, every claim in it has the composition of the composite that it refers to, and none if it
refers to nothing or nothing is stored there. Apart from the compositions of its claims, enrichment
leaves an inventory as it is.
-/

namespace ClaimTracker

def Claim.bare (c : Claim) : Claim :=
  { c with composition := "" }

namespace Inventory

/-- Every claim has the composition of the composite stored under the key that it refers to. It has
none if there is no such composite, or if it refers to nothing. -/
structure Enriched (i : Inventory) : Prop where
  found : ∀ (k : String) (c : Claim) (x : Composite), i.claims[k]? = some c →
    c.compositeName ≠ "" → i.composites[c.compositeName]? = some x → c.composition = x.composition
  absent : ∀ (k : String) (c : Claim), i.claims[k]? = some c →
    c.compositeName = "" ∨ i.composites[c.compositeName]? = none → c.composition = ""

section Lookup

variable {composites : Table Composite} {name : String} {x : Composite}

lemma compositionOf_of_found (named : name ≠ "") (stored : composites[name]? = some x) :
    compositionOf composites name = x.composition := by
  simp [compositionOf, named, stored]

lemma compositionOf_of_absent (absent : name = "" ∨ composites[name]? = none) :
    compositionOf composites name = "" := by
  rcases absent with rfl | absent
  · rfl
  · simp [compositionOf, absent]

end Lookup

variable {i : Inventory}

lemma enriched_iff :
    i.Enriched ↔ ∀ (k : String) (c : Claim), i.claims[k]? = some c →
      c.composition = compositionOf i.composites c.compositeName := by
  constructor
  · intro h k c hc
    by_cases named : c.compositeName = ""
    · rw [h.absent k c hc (Or.inl named), compositionOf_of_absent (Or.inl named)]
    cases stored : i.composites[c.compositeName]? with
    | none => rw [h.absent k c hc (Or.inr stored), compositionOf_of_absent (Or.inr stored)]
    | some x => rw [h.found k c x hc named stored, compositionOf_of_found named stored]
  · intro h
    constructor
    · intro k c x hc named stored
      rw [h k c hc, compositionOf_of_found named stored]
    · intro k c hc absent
      rw [h k c hc, compositionOf_of_absent absent]

lemma enriched_enrich (i : Inventory) : i.enrich.Enriched := by
  refine enriched_iff.mpr fun k c hc => ?_
  rw [getElem?_enrich_claims] at hc
  obtain ⟨b, -, rfl⟩ := Option.map_eq_some_iff.mp hc
  rfl

lemma enriched_empty : Enriched ∅ := by
  refine enriched_iff.mpr fun k c hc => ?_
  have claims : (∅ : Inventory).claims = ∅ := rfl
  rw [claims, Std.ExtTreeMap.getElem?_empty] at hc
  cases hc

/-- Under every key stands the same claim as before, but for its composition. -/
lemma bare_enrich (i : Inventory) (k : String) :
    i.enrich.claims[k]?.map Claim.bare = i.claims[k]?.map Claim.bare := by
  rw [getElem?_enrich_claims, Option.map_map]
  rfl

section Recomposed

variable {t u : Table Claim} (composites : Table Composite)

/-- Enrichment makes nothing of the compositions that claims have had before. -/
lemma enrich_congr (same : ∀ k : String, t[k]?.map Claim.bare = u[k]?.map Claim.bare) :
    Inventory.enrich ⟨t, composites⟩ = Inventory.enrich ⟨u, composites⟩ := by
  have recomposed : ∀ o : Option Claim,
      o.map (fun c => { c with composition := compositionOf composites c.compositeName }) =
        (o.map Claim.bare).map
          fun c => { c with composition := compositionOf composites c.compositeName } := by
    intro o
    rw [Option.map_map]
    rfl
  have claims : (Inventory.enrich ⟨t, composites⟩).claims =
      (Inventory.enrich ⟨u, composites⟩).claims := by
    refine Std.ExtTreeMap.ext_getElem? fun {k} => ?_
    rw [getElem?_enrich_claims, getElem?_enrich_claims]
    exact (recomposed _).trans ((congrArg _ (same k)).trans (recomposed _).symm)
  exact congrArg (Inventory.mk · composites) claims

/-- Replacements make nothing of compositions either. -/
lemma bare_replaceAll (same : ∀ k : String, t[k]?.map Claim.bare = u[k]?.map Claim.bare)
    (calls : List (Table.Call Claim)) (k : String) :
    (t.replaceAll calls)[k]?.map Claim.bare = (u.replaceAll calls)[k]?.map Claim.bare := by
  induction calls generalizing t u with
  | nil => exact same k
  | cons c calls ih =>
    -- The partition by which a claim stays or goes is that of the claim without its composition.
    have kept : ∀ o : Option Claim, (o.filter fun r => Record.partition r != c.1).map Claim.bare =
        (o.map Claim.bare).filter fun r => Record.partition r != c.1 := by
      intro o
      cases o with
      | none => rfl
      | some b =>
        have partition : Record.partition b.bare = Record.partition b := rfl
        by_cases hp : Record.partition b = c.1 <;> simp [Option.filter, partition, hp]
    refine ih fun k => ?_
    rw [Table.getElem?_replace, Table.getElem?_replace]
    cases c.2.reverse.find? fun r => Record.key r == k with
    | some r => rfl
    | none => rw [Option.map_none, Option.none_or, Option.none_or, kept, kept, same]

end Recomposed

end Inventory

end ClaimTracker
