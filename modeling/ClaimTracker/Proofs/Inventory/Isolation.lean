import ClaimTracker.Proofs.Inventory.Replacement

/-!
# When partitions keep apart

A table knows its records by their identity keys alone, so a replacement of one partition takes over
the records of others whose keys it lists. What remains of a partition after any replacements are
the records of the latest call for it whose keys no later call lists. So the partition is what that
call made it exactly as long as no later call lists one of its keys.
-/

namespace ClaimTracker

namespace Table

variable {ρ : Type} [Record ρ]

/-- A partition consists of items, of equal keys the last, and of nothing else. -/
def Holds (t : Table ρ) (p : String) (items : List ρ) : Prop :=
  ∀ k r, t[k]? = some r ∧ Record.partition r = p ↔
    (lastOf k items).map (Record.assign p) = some r

/-- The latest call for a partition listed these items, and these calls came after it. -/
def Latest (p : String) (items : List ρ) (later calls : List (Call ρ)) : Prop :=
  ∃ before, calls = before ++ (p, items) :: later ∧ ∀ c ∈ later, c.1 ≠ p

def Clear (items : List ρ) (calls : List (Call ρ)) : Prop :=
  ∀ c ∈ calls, ∀ s ∈ c.2, ∀ r ∈ items, Record.key s ≠ Record.key r

lemma spares_iff_of_partition {k p : String} {calls : List (Call ρ)} (hp : ∀ c ∈ calls, c.1 ≠ p) :
    Spares k p calls ↔ ∀ c ∈ calls, ∀ s ∈ c.2, Record.key s ≠ k := by
  constructor
  · intro h c hc
    exact lastOf_eq_none_iff.mp (h c hc).2
  · intro h c hc
    exact ⟨hp c hc, lastOf_eq_none_iff.mpr (h c hc)⟩

variable [LawfulRecord ρ]

/-- The records of a partition are those of the latest call for it whose keys no later call lists.
-/
lemma getElem?_and_partition_iff {calls later : List (Call ρ)} {p : String} {items : List ρ}
    (latest : Latest p items later calls) (k : String) (r : ρ) :
    ((∅ : Table ρ).replaceAll calls)[k]? = some r ∧ Record.partition r = p ↔
      (lastOf k items).map (Record.assign p) = some r ∧
        ∀ c ∈ later, ∀ s ∈ c.2, Record.key s ≠ k := by
  obtain ⟨before, rfl, hp⟩ := latest
  rw [← spares_iff_of_partition hp, getElem?_replaceAll_empty]
  constructor
  · rintro ⟨⟨b, q, l, a, heq, hr, hs⟩, hq⟩
    have hqp : q = p := by
      obtain ⟨s, -, rfl⟩ := Option.map_eq_some_iff.mp hr
      simpa using hq
    subst hqp
    -- The call that left the record is for the partition, so it can only be the latest one.
    obtain ⟨c, rfl, hc⟩ | ⟨c, rfl, hc⟩ := List.append_eq_append_iff.mp heq
    · cases c with
      | nil =>
        obtain ⟨hcall, rfl⟩ := List.cons.inj hc
        cases hcall
        exact ⟨hr, hs⟩
      | cons d c =>
        obtain ⟨-, rfl⟩ := List.cons.inj hc
        exact absurd rfl (hp (q, l) (List.mem_append_right c List.mem_cons_self))
    · cases c with
      | nil =>
        obtain ⟨hcall, rfl⟩ := List.cons.inj hc
        cases hcall
        exact ⟨hr, hs⟩
      | cons d c =>
        obtain ⟨-, rfl⟩ := List.cons.inj hc
        exact absurd rfl (hs (q, items) (List.mem_append_right c List.mem_cons_self)).1
  · rintro ⟨hr, hs⟩
    refine ⟨⟨before, p, items, later, rfl, hr, hs⟩, ?_⟩
    obtain ⟨s, -, rfl⟩ := Option.map_eq_some_iff.mp hr
    exact LawfulRecord.partition_assign p s

/-- A partition is what the latest call for it made it exactly if no later call lists one of its
keys. -/
lemma holds_iff_clear {calls later : List (Call ρ)} {p : String} {items : List ρ}
    (latest : Latest p items later calls) :
    ((∅ : Table ρ).replaceAll calls).Holds p items ↔ Clear items later := by
  constructor
  · intro h c hc s hs r hr heq
    obtain ⟨u, hu⟩ := exists_lastOf_of_mem hr
    have stored := (h (Record.key r) (Record.assign p u)).mpr (by rw [hu, Option.map_some])
    have spared := ((getElem?_and_partition_iff latest _ _).mp stored).2
    exact spared c hc s hs heq
  · intro h k r
    rw [getElem?_and_partition_iff latest]
    constructor
    · exact And.left
    · intro hr
      refine ⟨hr, fun c hc s hs heq => ?_⟩
      obtain ⟨u, hu, -⟩ := Option.map_eq_some_iff.mp hr
      obtain ⟨hmem, hkey⟩ := mem_of_lastOf hu
      exact h c hc s hs u hmem (heq.trans hkey.symm)

end Table

namespace Inventory

/-- For each partition ever replaced: what is stored of it are the records of the latest call for it
whose keys no later call lists, and it is what that call made it exactly if there are no others. -/
theorem partition_holds_latest_iff (history : List Replacement) (p : String) :
    (∀ items later, Table.Latest p items later (history.filterMap Replacement.claimCall?) →
      (∀ k (c : Claim), ((∅ : Inventory).replaceAll history).claims[k]? = some c ∧ c.partition = p ↔
        (Table.lastOf k items).map (Record.assign p) = some c ∧
          ∀ call ∈ later, ∀ s ∈ call.2, Record.key s ≠ k) ∧
      (((∅ : Inventory).replaceAll history).claims.Holds p items ↔ Table.Clear items later)) ∧
    (∀ items later, Table.Latest p items later (history.filterMap Replacement.compositeCall?) →
      (∀ k (x : Composite),
        ((∅ : Inventory).replaceAll history).composites[k]? = some x ∧ x.partition = p ↔
          (Table.lastOf k items).map (Record.assign p) = some x ∧
            ∀ call ∈ later, ∀ s ∈ call.2, Record.key s ≠ k) ∧
      (((∅ : Inventory).replaceAll history).composites.Holds p items ↔
        Table.Clear items later)) := by
  rw [replaceAll_eq]
  constructor
  · intro items later latest
    exact ⟨Table.getElem?_and_partition_iff latest, Table.holds_iff_clear latest⟩
  · intro items later latest
    exact ⟨Table.getElem?_and_partition_iff latest, Table.holds_iff_clear latest⟩

/-- A claim, listed under this type or that. -/
def sharedClaim : Claim where
  partition := ""
  group := "g"
  kind := "Widget"
  ns := "team-a"
  name := "w1"
  creator := none
  team := none
  composition := ""
  origin := .central
  ready := true
  reason := ""
  createdAt := none
  compositeName := ""

/-- Another type that lists other claims does not matter, nor does what was listed before. -/
theorem partition_held_beside_other :
    Table.Latest "g/v1/widgets" [sharedClaim] [("g/v1/gadgets", [{ sharedClaim with name := "w2" }])]
        ([.claims "g/v1/gadgets" [sharedClaim], .claims "g/v1/widgets" [sharedClaim],
          .composites "g/v1/xwidgets" [],
          .claims "g/v1/gadgets" [{ sharedClaim with name := "w2" }]].filterMap
            Replacement.claimCall?) ∧
      ((∅ : Inventory).replaceAll [.claims "g/v1/gadgets" [sharedClaim],
        .claims "g/v1/widgets" [sharedClaim], .composites "g/v1/xwidgets" [],
        .claims "g/v1/gadgets" [{ sharedClaim with name := "w2" }]]).claims.Holds
          "g/v1/widgets" [sharedClaim] := by
  have latest : Table.Latest "g/v1/widgets" [sharedClaim]
      [("g/v1/gadgets", [{ sharedClaim with name := "w2" }])]
      [("g/v1/gadgets", [sharedClaim]), ("g/v1/widgets", [sharedClaim]),
        ("g/v1/gadgets", [{ sharedClaim with name := "w2" }])] :=
    ⟨[("g/v1/gadgets", [sharedClaim])], rfl, by simp⟩
  have clear :
      Table.Clear [sharedClaim] [("g/v1/gadgets", [{ sharedClaim with name := "w2" }])] := by
    simp only [Table.Clear, List.forall_mem_singleton]
    decide
  exact ⟨latest, ((partition_holds_latest_iff _ _).1 _ _ latest).2.mpr clear⟩

/-- Listed under another type, a claim is gone from the partition that was replaced by it before. -/
theorem partition_lost_to_shared_key :
    Table.Latest "g/v1/widgets" [sharedClaim] [("g/v1/gadgets", [sharedClaim])]
        ([.claims "g/v1/widgets" [sharedClaim], .claims "g/v1/gadgets" [sharedClaim]].filterMap
          Replacement.claimCall?) ∧
      ¬ ((∅ : Inventory).replaceAll [.claims "g/v1/widgets" [sharedClaim],
        .claims "g/v1/gadgets" [sharedClaim]]).claims.Holds "g/v1/widgets" [sharedClaim] := by
  have latest : Table.Latest "g/v1/widgets" [sharedClaim] [("g/v1/gadgets", [sharedClaim])]
      [("g/v1/widgets", [sharedClaim]), ("g/v1/gadgets", [sharedClaim])] :=
    ⟨[], rfl, by simp⟩
  refine ⟨latest, ?_⟩
  rw [replaceAll_eq]
  intro holds
  have clear := (Table.holds_iff_clear latest).mp holds
  exact clear _ List.mem_cons_self _ List.mem_cons_self _ List.mem_cons_self rfl

end Inventory

end ClaimTracker
