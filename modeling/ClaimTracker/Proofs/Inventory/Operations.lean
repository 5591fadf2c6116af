import ClaimTracker.Proofs.Inventory.Replacement

/-!
# Inventories in use

An inventory is replaced part by part and enriched, in any order. Whatever is done to the empty one,
every record stands under its own identity key, so the listed records tell everything that is
stored. Enriching twice does no more than enriching once.
-/

namespace ClaimTracker

namespace Table

variable {ρ : Type} [Record ρ]

def Keyed (t : Table ρ) : Prop :=
  ∀ (k : String) (r : ρ), t[k]? = some r → Record.key r = k

lemma keyed_empty : Keyed (∅ : Table ρ) := by
  intro k r h
  simp at h

/-- What is listed is what is stored. -/
lemma mem_records {t : Table ρ} {r : ρ} : r ∈ t.records ↔ ∃ k : String, t[k]? = some r := by
  simp [records]

lemma length_records (t : Table ρ) : t.records.length = t.size := by
  rw [records, List.length_mergeSort, List.length_map, Std.ExtTreeMap.length_toList]

lemma records_empty : (∅ : Table ρ).records = [] := by
  rw [List.eq_nil_iff_forall_not_mem]
  simp [mem_records]

/-- Where a partition is replaced by something, something is listed. -/
lemma records_replace_ne_nil {t : Table ρ} {p : String} {items : List ρ} {r : ρ} (h : r ∈ items) :
    (t.replace p items).records ≠ [] := by
  intro empty
  obtain ⟨s, last⟩ := exists_lastOf_of_mem h
  have stored : (t.replace p items)[Record.key r]? = some (Record.assign p s) :=
    getElem?_replace_eq_some_iff.mpr (Or.inl (by rw [last]; rfl))
  have listed := mem_records.mpr ⟨_, stored⟩
  rw [empty] at listed
  cases listed

lemma mem_records_iff {t : Table ρ} (h : t.Keyed) {r : ρ} :
    r ∈ t.records ↔ t[Record.key r]? = some r := by
  rw [mem_records]
  constructor
  · rintro ⟨k, hk⟩
    rwa [h k r hk]
  · intro hr
    exact ⟨_, hr⟩

/-- Of one key at most one record is listed. -/
lemma eq_of_key_eq {t : Table ρ} (h : t.Keyed) {r s : ρ} (hr : r ∈ t.records) (hs : s ∈ t.records)
    (heq : Record.key r = Record.key s) : r = s := by
  rw [mem_records_iff h] at hr hs
  rw [heq, hs] at hr
  exact (Option.some.inj hr).symm

variable [LawfulRecord ρ]

lemma keyed_replace {t : Table ρ} (h : t.Keyed) (p : String) (items : List ρ) :
    (t.replace p items).Keyed := by
  intro k r hr
  rcases getElem?_replace_eq_some_iff.mp hr with hr | ⟨-, hr, -⟩
  · obtain ⟨s, hs, rfl⟩ := Option.map_eq_some_iff.mp hr
    exact (LawfulRecord.key_assign p s).trans (mem_of_lastOf hs).2
  · exact h k r hr

end Table

namespace Inventory

structure Keyed (i : Inventory) : Prop where
  claims : i.claims.Keyed
  composites : i.composites.Keyed

inductive Operation where
  | replace (r : Replacement)
  | enrich

def Operation.apply (i : Inventory) : Operation → Inventory
  | .replace r => r.apply i
  | .enrich => i.enrich

def run (i : Inventory) (ops : List Operation) : Inventory :=
  ops.foldl Operation.apply i

lemma run_append (i : Inventory) (first second : List Operation) :
    i.run (first ++ second) = (i.run first).run second :=
  List.foldl_append

lemma keyed_empty : Keyed ∅ :=
  ⟨Table.keyed_empty, Table.keyed_empty⟩

lemma Keyed.enrich {i : Inventory} (h : i.Keyed) : i.enrich.Keyed := by
  refine ⟨fun k c hc => ?_, h.composites⟩
  rw [getElem?_enrich_claims] at hc
  obtain ⟨b, hb, rfl⟩ := Option.map_eq_some_iff.mp hc
  exact h.claims k b hb

lemma Keyed.apply {i : Inventory} (h : i.Keyed) (op : Operation) : (op.apply i).Keyed := by
  cases op with
  | replace r =>
    cases r with
    | claims p items => exact ⟨Table.keyed_replace h.claims p items, h.composites⟩
    | composites p items => exact ⟨h.claims, Table.keyed_replace h.composites p items⟩
  | enrich => exact h.enrich

/-- Whatever is done to the empty inventory, every record stands under its own key. -/
lemma keyed_run (ops : List Operation) : ((∅ : Inventory).run ops).Keyed := by
  have preserved : ∀ i : Inventory, i.Keyed → (i.run ops).Keyed := by
    induction ops with
    | nil => exact fun i h => h
    | cons op ops ih => exact fun i h => ih _ (h.apply op)
  exact preserved ∅ keyed_empty

lemma enrich_enrich (i : Inventory) : i.enrich.enrich = i.enrich := by
  have claims : i.enrich.enrich.claims = i.enrich.claims := by
    refine Std.ExtTreeMap.ext_getElem? fun {k} => ?_
    rw [getElem?_enrich_claims, getElem?_enrich_claims]
    cases i.claims[k]? <;> rfl
  calc i.enrich.enrich = ⟨i.enrich.enrich.claims, i.composites⟩ := rfl
    _ = i.enrich := by rw [claims]; rfl

end Inventory

end ClaimTracker
