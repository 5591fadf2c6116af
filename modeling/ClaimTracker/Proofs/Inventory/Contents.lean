import ClaimTracker.Proofs.Inventory.Isolation

/-!
# What stands under a key

Of all calls on an empty table, only the last one that lists a key can have left a record under it:
the last of its items of that key. The record is still there unless a later call was for the same
partition. Calls on one of the two tables of an inventory are of no consequence for the other.
-/

namespace ClaimTracker

namespace Table

variable {ρ : Type} [Record ρ]

structure LastListing (k : String) (calls : List (Call ρ)) (j : Nat) (p : String)
    (items : List ρ) : Prop where
  call : calls[j]? = some (p, items)
  listed : ∃ r ∈ items, Record.key r = k
  last : ∀ c ∈ calls.drop (j + 1), ∀ r ∈ c.2, Record.key r ≠ k

/-- Every key holds the last item of that key in the last call that lists it, unless a later call
was for the same partition. A key that no call lists holds nothing. -/
def LeftBy (calls : List (Call ρ)) (t : Table ρ) : Prop :=
  ∀ k : String,
    (∀ j p items, LastListing k calls j p items →
      t[k]? = if p ∈ (calls.drop (j + 1)).map Prod.fst then none
        else (lastOf k items).map (Record.assign p)) ∧
    ((∀ c ∈ calls, ∀ r ∈ c.2, Record.key r ≠ k) → t[k]? = none)

lemma LastListing.eq_append {k : String} {calls : List (Call ρ)} {j : Nat} {p : String}
    {items : List ρ} (h : LastListing k calls j p items) :
    calls = calls.take j ++ (p, items) :: calls.drop (j + 1) := by
  obtain ⟨hj, hget⟩ := List.getElem?_eq_some_iff.mp h.call
  rw [← hget, ← List.drop_eq_getElem_cons hj, List.take_append_drop]

variable [LawfulRecord ρ]

/-- Calls that do not list a key leave its record, unless one of them is for the partition of the
record. -/
lemma getElem?_replaceAll_of_unlisted {t : Table ρ} {calls : List (Call ρ)} {k : String} {r : ρ}
    (unlisted : ∀ c ∈ calls, ∀ s ∈ c.2, Record.key s ≠ k) :
    (t.replaceAll calls)[k]? = some r ↔
      t[k]? = some r ∧ ∀ c ∈ calls, c.1 ≠ Record.partition r := by
  constructor
  · intro h
    rcases item_or_spared h with ⟨items, call, s, hs, hkey, -⟩ | ⟨ht, spared⟩
    · exact absurd hkey (unlisted _ call s hs)
    · exact ⟨ht, fun c hc => (spared c hc).1⟩
  · rintro ⟨ht, hp⟩
    have spared : Spares k (Record.partition r) calls :=
      fun c hc => ⟨hp c hc, lastOf_eq_none_iff.mpr (unlisted c hc)⟩
    exact getElem?_replaceAll_eq_some_iff.mpr (Or.inr ⟨ht, spared⟩)

/-- What the last call that lists a key leaves under it, as the calls after it see it. -/
lemma getElem?_of_lastListing {calls : List (Call ρ)} {k p : String} {j : Nat} {items : List ρ}
    (h : LastListing k calls j p items) :
    ((∅ : Table ρ).replaceAll calls)[k]? =
      if p ∈ (calls.drop (j + 1)).map Prod.fst then none
        else (lastOf k items).map (Record.assign p) := by
  obtain ⟨r, hr, rfl⟩ := h.listed
  obtain ⟨s, hs⟩ := exists_lastOf_of_mem hr
  refine Option.ext fun u => ?_
  rw [h.eq_append, replaceAll_append, replaceAll_cons, getElem?_replaceAll_of_unlisted h.last,
    ← h.eq_append, getElem?_replace_eq_some_iff, hs, Option.map_some]
  -- The record is of the partition of the call, so a later call for it would have taken it away.
  have later : (∀ c ∈ calls.drop (j + 1), c.1 ≠ p) ↔ p ∉ (calls.drop (j + 1)).map Prod.fst := by
    simp only [List.mem_map, not_exists, not_and]
  constructor
  · rintro ⟨placed | ⟨unlisted, -⟩, kept⟩
    · obtain rfl := Option.some.inj placed
      rw [LawfulRecord.partition_assign] at kept
      rw [if_neg (later.mp kept)]
    · cases unlisted
  · intro held
    by_cases again : p ∈ (calls.drop (j + 1)).map Prod.fst
    · rw [if_pos again] at held
      cases held
    · rw [if_neg again] at held
      obtain rfl := Option.some.inj held
      refine ⟨Or.inl rfl, ?_⟩
      rw [LawfulRecord.partition_assign]
      exact later.mpr again

lemma leftBy_replaceAll (calls : List (Call ρ)) : LeftBy calls ((∅ : Table ρ).replaceAll calls) := by
  intro k
  constructor
  · intro j p items h
    exact getElem?_of_lastListing h
  · intro unlisted
    refine Option.eq_none_iff_forall_ne_some.mpr fun r hr => ?_
    have stored := ((getElem?_replaceAll_of_unlisted unlisted).mp hr).1
    simp at stored

end Table

namespace Inventory

lemma claimCalls_filter (history : List Replacement) :
    (history.filter fun r => r.family = .claims).filterMap Replacement.claimCall? =
      history.filterMap Replacement.claimCall? := by
  rw [List.filterMap_filter]
  congr 1
  funext r
  cases r <;> rfl

lemma compositeCalls_filter (history : List Replacement) :
    (history.filter fun r => r.family = .composites).filterMap Replacement.compositeCall? =
      history.filterMap Replacement.compositeCall? := by
  rw [List.filterMap_filter]
  congr 1
  funext r
  cases r <;> rfl

/-- After any replacements, each of the two tables holds what its own calls have left, and would
hold the same if there had been no others. -/
theorem contents_of_replaceAll (history : List Replacement) :
    Table.LeftBy (history.filterMap Replacement.claimCall?)
        ((∅ : Inventory).replaceAll history).claims ∧
      Table.LeftBy (history.filterMap Replacement.compositeCall?)
        ((∅ : Inventory).replaceAll history).composites ∧
      ((∅ : Inventory).replaceAll history).claims =
        ((∅ : Inventory).replaceAll (history.filter fun r => r.family = .claims)).claims ∧
      ((∅ : Inventory).replaceAll history).composites =
        ((∅ : Inventory).replaceAll (history.filter fun r => r.family = .composites)).composites := by
  simp only [replaceAll_eq, claimCalls_filter, compositeCalls_filter]
  exact ⟨Table.leftBy_replaceAll _, Table.leftBy_replaceAll _, trivial, trivial⟩

/-- A claim taken over by another type stays when its first type is replaced by nothing, and one that
was not taken over goes. -/
theorem contents_after_takeover :
    let history : List Replacement :=
      [.claims "g/v1/widgets" [{ sharedClaim with name := "w2" }, sharedClaim],
        .composites "g/v1/gadgets" [],
        .claims "g/v1/gadgets" [sharedClaim, { sharedClaim with ready := false }],
        .claims "g/v1/widgets" []]
    let claims := ((∅ : Inventory).replaceAll history).claims
    claims["team-a/w1"]? = some { sharedClaim with partition := "g/v1/gadgets", ready := false } ∧
      claims["team-a/w2"]? = none := by
  intro history claims
  have left := (contents_of_replaceAll history).1
  have taken : Table.LastListing "team-a/w1" (history.filterMap Replacement.claimCall?) 1
      "g/v1/gadgets" [sharedClaim, { sharedClaim with ready := false }] :=
    ⟨rfl, ⟨sharedClaim, List.mem_cons_self, by decide⟩, by decide⟩
  have gone : Table.LastListing "team-a/w2" (history.filterMap Replacement.claimCall?) 0
      "g/v1/widgets" [{ sharedClaim with name := "w2" }, sharedClaim] :=
    ⟨rfl, ⟨{ sharedClaim with name := "w2" }, List.mem_cons_self, by decide⟩, by decide⟩
  exact ⟨(left _).1 _ _ _ taken, (left _).1 _ _ _ gone⟩

end Inventory

end ClaimTracker
