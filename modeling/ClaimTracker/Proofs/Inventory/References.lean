import ClaimTracker.Proofs.Inventory.Enrichment
import ClaimTracker.Proofs.Inventory.Isolation

/-!
# References by name

A claim refers to its composite by name alone, and the composite is looked up under this name as its
key. The name is the key of a composite without a namespace; one that has a namespace stands under its
namespace and name, and is found by claims that refer to both. So references resolve by name as long as
the composites that they are about have no namespace, and otherwise only where the compositions happen
to be the same.
-/

namespace ClaimTracker

lemma objectKey_of_no_ns (name : String) : objectKey "" name = name := rfl

namespace Inventory

/-- The composite is stored, and no other one that is stored has its name. -/
structure OnlyNamed (i : Inventory) (name : String) (x : Composite) : Prop where
  stored : x ∈ i.compositeList
  named : x.name = name
  only : ∀ y ∈ i.compositeList, y.name = name → y = x

/-- A claim that refers to the name of exactly one composite has the composition of that composite,
whatever its namespace is, and a claim that refers to nothing or to the name of no composite has none. -/
structure ResolvesByName (i : Inventory) : Prop where
  resolved : ∀ c ∈ i.claimList, c.compositeName ≠ "" → ∀ x, i.OnlyNamed c.compositeName x →
    c.composition = x.composition
  unresolved : ∀ c ∈ i.claimList,
    c.compositeName = "" ∨ (∀ x ∈ i.compositeList, x.name ≠ c.compositeName) → c.composition = ""

/-- The composition found under a name as a key is what the name itself stands for: that of the only
composite of the name also if this one has a namespace, and none if no composite has the name. -/
structure KeyedByName (i : Inventory) (name : String) : Prop where
  named : ∀ x, i.OnlyNamed name x → x.ns ≠ "" → compositionOf i.composites name = x.composition
  unnamed : (∀ x ∈ i.compositeList, x.name ≠ name) →
    ∀ x ∈ i.compositeList, Record.key x = name → x.composition = ""

lemma onlyNamed_enrich {i : Inventory} {name : String} {x : Composite} :
    i.enrich.OnlyNamed name x ↔ i.OnlyNamed name x :=
  ⟨fun h => ⟨h.stored, h.named, h.only⟩, fun h => ⟨h.stored, h.named, h.only⟩⟩

lemma mem_claimList_enrich {i : Inventory} {c : Claim} :
    c ∈ i.enrich.claimList ↔ ∃ b ∈ i.claimList,
      c = { b with composition := compositionOf i.composites b.compositeName } := by
  simp only [claimList, Table.mem_records, getElem?_enrich_claims, Option.map_eq_some_iff]
  constructor
  · rintro ⟨k, b, hb, rfl⟩
    exact ⟨b, ⟨k, hb⟩, rfl⟩
  · rintro ⟨b, ⟨k, hb⟩, rfl⟩
    exact ⟨k, b, hb, rfl⟩

lemma key_of_no_ns {x : Composite} (h : x.ns = "") : Record.key x = x.name := by
  show objectKey x.ns x.name = x.name
  rw [h, objectKey_of_no_ns]

lemma resolvesByName_enrich_iff {i : Inventory} (keyed : i.Keyed) :
    i.enrich.ResolvesByName ↔
      ∀ c ∈ i.claimList, c.compositeName ≠ "" → i.KeyedByName c.compositeName := by
  have under : ∀ x ∈ i.compositeList, i.composites[Record.key x]? = some x :=
    fun x hx => (Table.mem_records_iff keyed.composites).mp hx
  constructor
  · intro h c hc refers
    have shown := mem_claimList_enrich.mpr ⟨c, hc, rfl⟩
    refine ⟨fun x only _ => ?_, fun none x hx hkey => ?_⟩
    · exact h.resolved _ shown refers x (onlyNamed_enrich.mpr only)
    · have empty := h.unresolved _ shown (Or.inr none)
      have found := under x hx
      rw [hkey] at found
      exact (compositionOf_of_found refers found).symm.trans empty
  · intro h
    constructor
    · intro c hc refers x only
      obtain ⟨b, hb, rfl⟩ := mem_claimList_enrich.mp hc
      rw [onlyNamed_enrich] at only
      by_cases hns : x.ns = ""
      · have found := under x only.stored
        rw [key_of_no_ns hns, only.named] at found
        exact compositionOf_of_found refers found
      · exact (h b hb refers).named x only hns
    · intro c hc absent
      obtain ⟨b, hb, rfl⟩ := mem_claimList_enrich.mp hc
      rcases absent with refersNot | none
      · exact compositionOf_of_absent (Or.inl refersNot)
      by_cases refers : b.compositeName = ""
      · exact compositionOf_of_absent (Or.inl refers)
      cases stored : i.composites[b.compositeName]? with
      | none => exact compositionOf_of_absent (Or.inr stored)
      | some x =>
        have listed : x ∈ i.compositeList := Table.mem_records.mpr ⟨_, stored⟩
        have hkey := keyed.composites _ x stored
        exact (compositionOf_of_found refers stored).trans ((h b hb refers).unnamed none x listed hkey)

lemma keyedByName_of_no_ns {i : Inventory} (plain : ∀ x ∈ i.compositeList, x.ns = "")
    (name : String) : i.KeyedByName name := by
  constructor
  · intro x only hns
    exact absurd (plain x only.stored) hns
  · intro none x hx hkey
    rw [key_of_no_ns (plain x hx)] at hkey
    exact absurd hkey (none x hx)

/-- Whatever has been done to an inventory, once it is enriched its references resolve by name if and
only if names and keys lead to the same compositions. They do if no composite has a namespace. -/
theorem resolvesByName_iff (ops : List Operation) :
    let i := (∅ : Inventory).run ops
    (i.enrich.ResolvesByName ↔
        ∀ c ∈ i.claimList, c.compositeName ≠ "" → i.KeyedByName c.compositeName) ∧
      ((∀ x ∈ i.compositeList, x.ns = "") → i.enrich.ResolvesByName) := by
  intro i
  have exactly := resolvesByName_enrich_iff (keyed_run ops)
  exact ⟨exactly, fun plain => exactly.mpr fun c _ _ => keyedByName_of_no_ns plain _⟩

def sharedComposite : Composite where
  partition := ""
  group := "g"
  kind := "XWidget"
  ns := ""
  name := "x1"
  composition := "prod"
  origin := .central
  ready := true
  reason := ""
  createdAt := none

/-- A composite is recorded, and two claims: one refers to the name of the composite, and one to a
namespace as well. -/
def referrals (x : Composite) : List Operation :=
  [.replace (.composites "g/v1/xwidgets" [x]),
    .replace (.claims "g/v1/widgets" [{ sharedClaim with compositeName := "x1" },
      { sharedClaim with name := "w2", compositeName := "team-a/x1" }])]

lemma getElem?_composites_referrals {x y : Composite} {k : String} :
    ((∅ : Inventory).run (referrals x)).composites[k]? = some y ↔
      Record.key x = k ∧ { x with partition := "g/v1/xwidgets" } = y := by
  have composites : ((∅ : Inventory).run (referrals x)).composites =
      (∅ : Table Composite).replace "g/v1/xwidgets" [x] := rfl
  by_cases hkey : Record.key x = k <;>
    simp [composites, Table.getElem?_replace, hkey, Record.assign]

lemma mem_compositeList_referrals {x y : Composite} :
    y ∈ ((∅ : Inventory).run (referrals x)).compositeList ↔
      { x with partition := "g/v1/xwidgets" } = y := by
  simp [compositeList, Table.mem_records, getElem?_composites_referrals]

/-- A composite without a namespace is found by its name. -/
theorem plain_references_resolved :
    (∀ x ∈ ((∅ : Inventory).run (referrals sharedComposite)).compositeList, x.ns = "") ∧
      ((∅ : Inventory).run (referrals sharedComposite)).enrich.ResolvesByName := by
  have plain : ∀ x ∈ ((∅ : Inventory).run (referrals sharedComposite)).compositeList,
      x.ns = "" := by
    intro x hx
    obtain rfl := mem_compositeList_referrals.mp hx
    rfl
  exact ⟨plain, (resolvesByName_iff (referrals sharedComposite)).2 plain⟩

/-- A composite with a namespace is not found by its name, although no other one has this name. It is
found by its namespace and name together, although that is the name of no composite. -/
theorem namespaced_composite_missed :
    let i := (∅ : Inventory).run (referrals { sharedComposite with ns := "team-a" })
    (∃ x, i.OnlyNamed "x1" x ∧ x.composition = "prod") ∧
      i.enrich.claims["team-a/w1"]?.map Claim.composition = some "" ∧
      (∀ x ∈ i.compositeList, x.name ≠ "team-a/x1") ∧
      i.enrich.claims["team-a/w2"]?.map Claim.composition = some "prod" ∧
      ¬ i.enrich.ResolvesByName := by
  intro i
  have stored : ∀ y : Composite, y ∈ i.compositeList ↔
      { sharedComposite with ns := "team-a", partition := "g/v1/xwidgets" } = y :=
    fun y => mem_compositeList_referrals
  have only : i.OnlyNamed "x1"
      { sharedComposite with ns := "team-a", partition := "g/v1/xwidgets" } :=
    ⟨(stored _).mpr rfl, rfl, fun y hy _ => ((stored y).mp hy).symm⟩
  have unnamed : ∀ x ∈ i.compositeList, x.name ≠ "team-a/x1" := by
    intro x hx
    obtain rfl := (stored x).mp hx
    decide
  have missed : compositionOf i.composites "x1" = "" := by
    refine compositionOf_of_absent (Or.inr (Option.eq_none_iff_forall_ne_some.mpr fun y hy => ?_))
    obtain ⟨hkey, -⟩ := getElem?_composites_referrals.mp hy
    revert hkey
    decide
  have found : compositionOf i.composites "team-a/x1" = "prod" :=
    compositionOf_of_found (by decide) (getElem?_composites_referrals.mpr ⟨by decide, rfl⟩)
  have first : i.claims["team-a/w1"]? =
      some { sharedClaim with partition := "g/v1/widgets", compositeName := "x1" } :=
    Table.getElem?_replace_eq_some_iff.mpr (Or.inl rfl)
  have second : i.claims["team-a/w2"]? = some { sharedClaim with
      partition := "g/v1/widgets", name := "w2", compositeName := "team-a/x1" } :=
    Table.getElem?_replace_eq_some_iff.mpr (Or.inl rfl)
  refine ⟨⟨_, only, rfl⟩, ?_, unnamed, ?_, fun resolves => ?_⟩
  · rw [getElem?_enrich_claims, first]
    exact congrArg some missed
  · rw [getElem?_enrich_claims, second]
    exact congrArg some found
  · have listed := mem_claimList_enrich.mpr ⟨_, Table.mem_records.mpr ⟨_, first⟩, rfl⟩
    have resolved := resolves.resolved _ listed (by decide) _ (onlyNamed_enrich.mpr only)
    rw [missed] at resolved
    revert resolved
    decide

end Inventory

end ClaimTracker
