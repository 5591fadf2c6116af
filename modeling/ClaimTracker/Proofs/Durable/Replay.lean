import ClaimTracker.Durable
import ClaimTracker.Proofs.Inventory.Operations
import ClaimTracker.Proofs.Inventory.Separate

/-!
# Replaying what was listed

The listed records of a table are sorted into partitions, and the partitions are replaced one after
the other in an empty table. No record has the key of another, so no partition takes a record from
another, and the table is the one that was listed. An inventory that is replayed is the same but for
the compositions, which are looked up anew.
-/

namespace ClaimTracker.Durable

section Parts

variable {ρ : Type} [Record ρ]

lemma mem_byPartition {l : List ρ} {p : String} {items : List ρ} :
    (p, items) ∈ byPartition l ↔
      (∃ r ∈ l, Record.partition r = p) ∧ items = l.filter fun r => Record.partition r == p := by
  simp only [byPartition, List.mem_map, List.mem_mergeSort, List.mem_eraseDups, Prod.mk.injEq]
  constructor
  · rintro ⟨q, hq, rfl, rfl⟩
    exact ⟨hq, rfl⟩
  · rintro ⟨hp, rfl⟩
    exact ⟨p, hp, rfl, rfl⟩

/-- Parts of records of different keys do not meet. -/
lemma separate_byPartition {l : List ρ}
    (unique : ∀ r ∈ l, ∀ s ∈ l, Record.key r = Record.key s → r = s) :
    Table.Separate (byPartition l) where
  items := by
    rintro ⟨p, items⟩ hc ⟨q, others⟩ hd rfl
    rw [(mem_byPartition.mp hc).2, (mem_byPartition.mp hd).2]
  keys := by
    rintro ⟨p, items⟩ hc ⟨q, others⟩ hd r hr s hs same
    rw [(mem_byPartition.mp hc).2] at hr
    rw [(mem_byPartition.mp hd).2] at hs
    obtain ⟨hr, hp⟩ := List.mem_filter.mp hr
    obtain ⟨hs, hq⟩ := List.mem_filter.mp hs
    obtain rfl := unique r hr s hs same
    exact (eq_of_beq hp).symm.trans (eq_of_beq hq)

variable [LawfulRecord ρ]

/-- Records of different keys are all found again. -/
lemma getElem?_replaceAll_byPartition {l : List ρ}
    (unique : ∀ r ∈ l, ∀ s ∈ l, Record.key r = Record.key s → r = s) {k : String} {r : ρ} :
    ((∅ : Table ρ).replaceAll (byPartition l))[k]? = some r ↔ r ∈ l ∧ Record.key r = k := by
  constructor
  · intro h
    obtain ⟨items, call, s, hs, hkey, hr⟩ := Table.exists_call_of_replaceAll h
    rw [(mem_byPartition.mp call).2] at hs
    obtain ⟨hl, hp⟩ := List.mem_filter.mp hs
    rw [← eq_of_beq hp, LawfulRecord.assign_partition] at hr
    exact hr ▸ ⟨hl, hkey⟩
  · rintro ⟨hr, rfl⟩
    have call := mem_byPartition.mpr ⟨⟨r, hr, rfl⟩, rfl⟩
    have last : Table.lastOf (Record.key r)
        (l.filter fun s => Record.partition s == Record.partition r) = some r := by
      refine (Table.lastOf_eq_some_iff fun u hu v hv => ?_).mpr
        ⟨List.mem_filter.mpr ⟨hr, beq_self_eq_true _⟩, rfl⟩
      exact unique u (List.mem_filter.mp hu).1 v (List.mem_filter.mp hv).1
    refine (separate_byPartition unique).getElem?_replaceAll_iff.mpr (Or.inl ⟨_, call, ?_⟩)
    rw [last, Option.map_some, LawfulRecord.assign_partition]

/-- The records listed from a table make up the table again. -/
lemma replaceAll_byPartition_records {t : Table ρ} (h : t.Keyed) :
    (∅ : Table ρ).replaceAll (byPartition t.records) = t := by
  refine Std.ExtTreeMap.ext_getElem? fun {k} => Option.ext fun r => ?_
  rw [getElem?_replaceAll_byPartition fun r hr s hs => Table.eq_of_key_eq h hr hs,
    Table.mem_records_iff h]
  constructor
  · rintro ⟨hr, rfl⟩
    exact hr
  · intro hr
    obtain rfl := h k r hr
    exact ⟨hr, rfl⟩

end Parts

/-- Each table sees the parts of its own records, and the claims are enriched at the end. -/
lemma replay_eq (i : Inventory) (s : Snapshot) :
    replay i s = Inventory.enrich ⟨i.claims.replaceAll (byPartition s.claims),
      i.composites.replaceAll (byPartition s.composites)⟩ := by
  have composites : ∀ (calls : List (Table.Call Composite)) (i : Inventory),
      calls.foldl (fun i c => i.replaceComposites c.1 c.2) i =
        ⟨i.claims, i.composites.replaceAll calls⟩ := by
    intro calls
    induction calls with
    | nil => exact fun i => rfl
    | cons c calls ih => exact fun i => ih _
  have claims : ∀ (calls : List (Table.Call Claim)) (i : Inventory),
      calls.foldl (fun i c => i.replaceClaims c.1 c.2) i =
        ⟨i.claims.replaceAll calls, i.composites⟩ := by
    intro calls
    induction calls with
    | nil => exact fun i => rfl
    | cons c calls ih => exact fun i => ih _
  simp only [replay, composites, claims]

/-- What was listed from an inventory is replayed as the inventory, enriched. -/
lemma replay_records {i : Inventory} (h : i.Keyed) (now : Instant) :
    replay ∅ ⟨i.claimList, i.compositeList, now⟩ = i.enrich := by
  have whole : Inventory.mk ((∅ : Table Claim).replaceAll (byPartition i.claimList))
      ((∅ : Table Composite).replaceAll (byPartition i.compositeList)) = i := by
    rw [Inventory.claimList, Inventory.compositeList, replaceAll_byPartition_records h.claims,
      replaceAll_byPartition_records h.composites]
  rw [replay_eq]
  exact congrArg Inventory.enrich whole

end ClaimTracker.Durable
