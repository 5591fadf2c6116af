import ClaimTracker.Proofs.Inventory.Isolation

/-!
# Calls that keep apart

As long as no call for another partition lists a key of a partition, old or new, a call for the
partition makes it what the call lists, and without such a call it stays what it is.
-/

namespace ClaimTracker.Table

variable {ρ : Type} [Record ρ]

/-- No call for another partition lists a key that a record of the partition or one of the items has.
-/
def Apart (t : Table ρ) (p : String) (items : List ρ) (calls : List (Call ρ)) : Prop :=
  ∀ c ∈ calls, c.1 ≠ p → ∀ s ∈ c.2,
    (∀ r, t[Record.key s]? = some r → Record.partition r ≠ p) ∧
      ∀ r ∈ items, Record.key s ≠ Record.key r

omit [Record ρ] in
lemma exists_last_call {calls : List (Call ρ)} {p : String} {items : List ρ}
    (call : (p, items) ∈ calls) (only : ∀ c ∈ calls, c.1 = p → c.2 = items) :
    ∃ later, Latest p items later calls := by
  obtain ⟨after, before, heq, hnot⟩ := List.eq_append_cons_of_mem (List.mem_reverse.mpr call)
  have split : calls = before.reverse ++ (p, items) :: after.reverse := by
    have := congrArg List.reverse heq
    simpa using this
  refine ⟨after.reverse, before.reverse, split, fun c hc hp => ?_⟩
  have member : c ∈ calls := by
    rw [split]
    exact List.mem_append_right _ (List.mem_cons_of_mem _ hc)
  have same : c = (p, items) := Prod.ext hp (only c member hp)
  exact hnot (same ▸ List.mem_reverse.mp hc)

variable [LawfulRecord ρ] {t : Table ρ} {p : String} {items : List ρ} {calls : List (Call ρ)}

/-- If all calls for a partition list the same, the partition holds it. -/
lemma holds_of_replaced (apart : Apart t p items calls) (call : (p, items) ∈ calls)
    (only : ∀ c ∈ calls, c.1 = p → c.2 = items) : (t.replaceAll calls).Holds p items := by
  intro k r
  rw [getElem?_replaceAll_eq_some_iff]
  constructor
  · rintro ⟨⟨before, q, l, after, heq, hr, -⟩ | ⟨-, spared⟩, hp⟩
    · obtain ⟨s, -, rfl⟩ := Option.map_eq_some_iff.mp hr
      rw [LawfulRecord.partition_assign] at hp
      subst hp
      have member : (q, l) ∈ calls := by
        rw [heq]
        exact List.mem_append_right _ List.mem_cons_self
      obtain rfl : l = items := only _ member rfl
      exact hr
    · exact absurd hp.symm (spared _ call).1
  · intro hr
    obtain ⟨later, before, heq, hlast⟩ := exists_last_call call only
    obtain ⟨u, hu, rfl⟩ := Option.map_eq_some_iff.mp hr
    obtain ⟨listed, hkey⟩ := mem_of_lastOf hu
    refine ⟨Or.inl ⟨before, p, items, later, heq, hr, fun c hc => ⟨hlast c hc, ?_⟩⟩,
      LawfulRecord.partition_assign p u⟩
    refine lastOf_eq_none_iff.mpr fun s hs hk => ?_
    have member : c ∈ calls := by
      rw [heq]
      exact List.mem_append_right _ (List.mem_cons_of_mem _ hc)
    exact (apart c member (hlast c hc) s hs).2 u listed (hk.trans hkey.symm)

/-- Without a call for a partition, its records stay, and there are no others. -/
lemma kept_of_not_replaced (apart : Apart t p items calls) (others : ∀ c ∈ calls, c.1 ≠ p)
    {k : String} {r : ρ} (hr : Record.partition r = p) :
    (t.replaceAll calls)[k]? = some r ↔ t[k]? = some r := by
  constructor
  · intro h
    rcases item_or_spared h with ⟨l, call, -⟩ | ⟨ht, -⟩
    · exact absurd hr (others _ call)
    · exact ht
  · intro ht
    refine getElem?_replaceAll_eq_some_iff.mpr (Or.inr ⟨ht, fun c hc => ⟨hr ▸ others c hc, ?_⟩⟩)
    refine lastOf_eq_none_iff.mpr fun s hs hk => ?_
    subst hk
    exact (apart c hc (others c hc) s hs).1 r ht hr

end ClaimTracker.Table
