import ClaimTracker.Proofs.Durable.Restoring
import ClaimTracker.Proofs.Inventory.Listed
import ClaimTracker.Proofs.Inventory.Writers

/-!
# One document for one inventory

An inventory comes about by replacements, enrichments and restores. Whichever they were, and in whichever
order its entries are gone through, only one list of claims and one of composites can come of it. So
inventories with the same entries are written as the same document, but for the moment of writing.
-/

namespace ClaimTracker

namespace Snapshot

open ClaimTracker.Json (namedTokens octets tokens_object_cons restTokens restTokens_cons)

/-- The tokens of a document up to the moment at which it was written. -/
def leading (claims : List Claim) (composites : List Composite) : List Json.Token :=
  .openBrace ::
    (namedTokens (SnapshotField.claims.label, .array (claims.map Claim.toJson)) ++
      .comma ::
        (namedTokens (SnapshotField.composites.label, .array (composites.map Composite.toJson)) ++
          [.comma, .text (some SnapshotField.persistedAt.label), .colon]))

def stamp (now : Instant) : Octets := octets [.text (some now.text)]

lemma encode_eq (s : Snapshot) :
    s.encode = octets (leading s.claims s.composites) ++ stamp s.persistedAt ++
      octets [.closeBrace] := by
  have tokens : s.toJson.tokens =
      leading s.claims s.composites ++ [.text (some s.persistedAt.text)] ++ [.closeBrace] := by
    rw [toJson, tokens_object_cons, restTokens_cons, restTokens_cons, restTokens, leading]
    simp [namedTokens, Json.tokens]
  rw [encode, Json.write, tokens]
  simp only [stamp, octets, Text.Utf8.encode, List.flatMap_append]

end Snapshot

namespace Inventory

/-- Under every key stands the same in both inventories. -/
structure SameEntries (i j : Inventory) : Prop where
  claims : ∀ k : String, i.claims[k]? = j.claims[k]?
  composites : ∀ k : String, i.composites[k]? = j.composites[k]?

lemma SameEntries.eq {i j : Inventory} (h : i.SameEntries j) : i = j := by
  obtain ⟨claims, composites⟩ := i
  obtain ⟨claims', composites'⟩ := j
  congr
  · exact Std.ExtTreeMap.ext_getElem? fun {k} => h.claims k
  · exact Std.ExtTreeMap.ext_getElem? fun {k} => h.composites k

end Inventory

namespace Durable

/-- What is done to a durable inventory: an operation, or a restore of what a keep then holds. -/
inductive Use (κ : Type) where
  | operate (op : Inventory.Operation)
  | restore (keep : κ) (limit : Nat)

section Uses

variable {κ : Type} [Keep κ]

namespace Use

def apply (i : Inventory) : Use κ → Inventory
  | .operate op => op.apply i
  | .restore keep limit => (Durable.restore ⟨i, keep, limit, false⟩).2.inventory

/-- The operations that a use comes to. A restore that takes a snapshot in makes those of the snapshot. -/
def operations : Use κ → List Inventory.Operation
  | .operate op => [op]
  | .restore keep limit =>
    match (Keep.get limit keep).1 with
    | .ok (some body) =>
      match readDocument limit body with
      | .ok s => Durable.operations s
      | .error _ => []
    | _ => []

lemma apply_eq (i : Inventory) (u : Use κ) : u.apply i = i.run u.operations := by
  cases u with
  | operate op => rfl
  | restore keep limit =>
    cases found : (Keep.get limit keep).1 with
    | error e => simp [apply, operations, Durable.restore, found, Inventory.run]
    | ok body? =>
      cases body? with
      | none => simp [apply, operations, Durable.restore, found, Inventory.run]
      | some body =>
        cases read : readDocument limit body with
        | error e => simp [apply, operations, Durable.restore, found, read, Inventory.run]
        | ok s => simp [apply, operations, Durable.restore, found, read, run_operations]

end Use

def inventoryAfter (uses : List (Use κ)) : Inventory :=
  uses.foldl Use.apply ∅

def replacementsOf (uses : List (Use κ)) : List Inventory.Replacement :=
  (uses.flatMap Use.operations).filterMap Inventory.Operation.replacement?

lemma inventoryAfter_eq (uses : List (Use κ)) :
    inventoryAfter uses = (∅ : Inventory).run (uses.flatMap Use.operations) := by
  have run : ∀ i : Inventory, uses.foldl Use.apply i = i.run (uses.flatMap Use.operations) := by
    induction uses with
    | nil => exact fun i => rfl
    | cons u uses ih =>
      intro i
      rw [List.foldl_cons, ih, List.flatMap_cons, Inventory.run_append, Use.apply_eq]
  exact run ∅

lemma keyed_inventoryAfter (uses : List (Use κ)) : (inventoryAfter uses).Keyed := by
  rw [inventoryAfter_eq]
  exact Inventory.keyed_run _

lemma writtenBy_inventoryAfter (uses : List (Use κ)) :
    (inventoryAfter uses).WrittenBy (replacementsOf uses) := by
  rw [inventoryAfter_eq]
  exact Inventory.writtenBy_run _

end Uses

/-- The documents of an inventory begin and end in the same way, and have the moment of writing between:
whatever lists come of the inventory, and whichever keep it is persisted to. -/
structure WritesBetween (i : Inventory) (front back : Octets) : Prop where
  encoded : ∀ l m, i.claims.ListedAs l → i.composites.ListedAs m → ∀ now,
    Snapshot.encode ⟨l, m, now⟩ = front ++ Snapshot.stamp now ++ back
  persisted : ∀ {κ : Type} [Keep κ] (keep : κ) (limit : Nat) (now : Instant),
    ((⟨i, keep, limit, false⟩ : Durable κ).persist now).2.keep =
      (Keep.put (front ++ Snapshot.stamp now ++ back) keep).2

lemma writesBetween {i : Inventory} (keyed : i.Keyed) :
    WritesBetween i (Json.octets (Snapshot.leading i.claimList i.compositeList))
      (Json.octets [.closeBrace]) where
  encoded l m hl hm now := by
    rw [hl.eq_records keyed.claims, hm.eq_records keyed.composites, Snapshot.encode_eq]
    rfl
  persisted keep limit now := by
    rw [persist_of_unlocked rfl, document, Snapshot.encode_eq]

/-- However an inventory has come about, its records stand under their own keys and in the partitions of
the calls that have written them last. Whichever way it is listed, all its records are listed, once each,
in strictly ascending order. Inventories with the same entries are listed in the same way, and their
documents are the same but for the moment. -/
theorem listings_canonical {κ : Type} [Keep κ] (uses : List (Use κ)) :
    let i := inventoryAfter uses
    i.WrittenBy (replacementsOf uses) ∧
    i.claims.ListedAs i.claimList ∧ i.composites.ListedAs i.compositeList ∧
    (∀ l, i.claims.ListedAs l → i.claims.IsCanonical l ∧ l.length = i.claimCount) ∧
    (∀ m, i.composites.ListedAs m → i.composites.IsCanonical m ∧ m.length = i.compositeCount) ∧
    ∃ front back, ∀ {κ' : Type} [Keep κ'] (others : List (Use κ')),
      let j := inventoryAfter others
      i.SameEntries j →
        (∀ l, j.claims.ListedAs l → l = i.claimList) ∧
        (∀ m, j.composites.ListedAs m → m = i.compositeList) ∧ WritesBetween j front back := by
  intro i
  have keyed : i.Keyed := keyed_inventoryAfter uses
  refine ⟨writtenBy_inventoryAfter uses, Table.listedAs_records _, Table.listedAs_records _,
    fun l h => ⟨h.isCanonical keyed.claims, h.length_eq⟩,
    fun m h => ⟨h.isCanonical keyed.composites, h.length_eq⟩,
    Json.octets (Snapshot.leading i.claimList i.compositeList), Json.octets [.closeBrace], ?_⟩
  intro κ' _ others j same
  rw [← same.eq]
  exact ⟨fun l h => h.eq_records keyed.claims, fun m h => h.eq_records keyed.composites,
    writesBetween keyed⟩

end Durable

end ClaimTracker
