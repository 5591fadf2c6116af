import ClaimTracker.Inventory
import Mathlib.Tactic.Lemma

/-!
# Tables after many replacements

A record found under a key was put there by the last call that lists the key, and no later call was
for the same partition; or it was there before all calls, none of which lists the key or is for its
partition. The calls may come in any number and share keys in any way.
-/

namespace ClaimTracker

/-- Assigning a partition changes nothing else. -/
class LawfulRecord (ρ : Type) [Record ρ] : Prop where
  partition_assign : ∀ (p : String) (r : ρ), Record.partition (Record.assign p r) = p
  key_assign : ∀ (p : String) (r : ρ), Record.key (Record.assign p r) = Record.key r
  assign_partition : ∀ r : ρ, Record.assign (Record.partition r) r = r

instance : LawfulRecord Claim := ⟨fun _ _ => rfl, fun _ _ => rfl, fun _ => rfl⟩

instance : LawfulRecord Composite := ⟨fun _ _ => rfl, fun _ _ => rfl, fun _ => rfl⟩

attribute [simp] LawfulRecord.partition_assign LawfulRecord.key_assign
  LawfulRecord.assign_partition

namespace Table

variable {ρ : Type} [Record ρ]

def lastOf (k : String) (items : List ρ) : Option ρ :=
  items.reverse.find? fun r => Record.key r == k

/-- The partition and the items that a replacement was asked for with. -/
abbrev Call (ρ : Type) := String × List ρ

def replaceAll (t : Table ρ) (calls : List (Call ρ)) : Table ρ :=
  calls.foldl (fun t c => t.replace c.1 c.2) t

/-- Calls that neither list a key nor are for a partition. -/
def Spares (k p : String) (calls : List (Call ρ)) : Prop :=
  ∀ c ∈ calls, c.1 ≠ p ∧ lastOf k c.2 = none

@[simp] lemma replaceAll_nil (t : Table ρ) : t.replaceAll [] = t := rfl

@[simp] lemma replaceAll_cons (t : Table ρ) (c : Call ρ) (calls : List (Call ρ)) :
    t.replaceAll (c :: calls) = (t.replace c.1 c.2).replaceAll calls := rfl

lemma replaceAll_append (t : Table ρ) (calls more : List (Call ρ)) :
    t.replaceAll (calls ++ more) = (t.replaceAll calls).replaceAll more :=
  List.foldl_append

lemma lastOf_eq_none_iff {k : String} {items : List ρ} :
    lastOf k items = none ↔ ∀ r ∈ items, Record.key r ≠ k := by
  simp [lastOf]

@[simp] lemma lastOf_nil (k : String) : lastOf k ([] : List ρ) = none := rfl

lemma mem_of_lastOf {k : String} {items : List ρ} {r : ρ} (h : lastOf k items = some r) :
    r ∈ items ∧ Record.key r = k := by
  refine ⟨List.mem_reverse.mp (List.mem_of_find?_eq_some h), ?_⟩
  simpa using List.find?_some h

lemma exists_lastOf_of_mem {items : List ρ} {r : ρ} (h : r ∈ items) :
    ∃ s, lastOf (Record.key r) items = some s := by
  cases hl : lastOf (Record.key r) items with
  | some s => exact ⟨s, rfl⟩
  | none => exact absurd rfl (lastOf_eq_none_iff.mp hl r h)

lemma spares_nil (k p : String) : Spares k p ([] : List (Call ρ)) := by
  intro c hc
  cases hc

lemma spares_cons {k p : String} {c : Call ρ} {calls : List (Call ρ)} :
    Spares k p (c :: calls) ↔ (c.1 ≠ p ∧ lastOf k c.2 = none) ∧ Spares k p calls := by
  simp [Spares]

/-- A replacement leaves under a key the last new record of the key, or the old one if it is of
another partition and no item has its key. -/
lemma getElem?_replace_eq_some_iff {t : Table ρ} {p k : String} {items : List ρ} {r : ρ} :
    (t.replace p items)[k]? = some r ↔
      (lastOf k items).map (Record.assign p) = some r ∨
        lastOf k items = none ∧ t[k]? = some r ∧ Record.partition r ≠ p := by
  rw [getElem?_replace]
  cases h : lastOf k items with
  | some s =>
    rw [lastOf] at h
    simp [h]
  | none =>
    rw [lastOf] at h
    cases t[k]? <;> simp [h, Option.filter]
    constructor
    · rintro ⟨hp, rfl⟩
      exact ⟨rfl, hp⟩
    · rintro ⟨rfl, hp⟩
      exact ⟨hp, rfl⟩

def clearing (partitions : List String) : List (Call ρ) :=
  partitions.map fun p => (p, [])

lemma spares_clearing {k p : String} {partitions : List String} :
    Spares k p (clearing partitions : List (Call ρ)) ↔ p ∉ partitions := by
  constructor
  · intro h hp
    exact (h (p, []) (List.mem_map_of_mem hp)).1 rfl
  · intro h c hc
    obtain ⟨q, hq, rfl⟩ := List.mem_map.mp hc
    exact ⟨fun heq => h (heq ▸ hq), rfl⟩

variable [LawfulRecord ρ]

/-- What is found under a key after any calls, by where it came from. -/
lemma getElem?_replaceAll_eq_some_iff {t : Table ρ} {calls : List (Call ρ)} {k : String} {r : ρ} :
    (t.replaceAll calls)[k]? = some r ↔
      (∃ before p items after, calls = before ++ (p, items) :: after ∧
        (lastOf k items).map (Record.assign p) = some r ∧ Spares k p after) ∨
      t[k]? = some r ∧ Spares k (Record.partition r) calls := by
  induction calls generalizing t with
  | nil => simp [spares_nil]
  | cons c calls ih =>
    rw [replaceAll_cons, ih, getElem?_replace_eq_some_iff]
    constructor
    · rintro (⟨before, p, items, after, rfl, hr, hs⟩ | ⟨hr | ⟨hn, ht, hp⟩, hs⟩)
      · exact Or.inl ⟨c :: before, p, items, after, rfl, hr, hs⟩
      · obtain ⟨s, -, rfl⟩ := Option.map_eq_some_iff.mp hr
        rw [LawfulRecord.partition_assign] at hs
        exact Or.inl ⟨[], c.1, c.2, calls, rfl, hr, hs⟩
      · exact Or.inr ⟨ht, spares_cons.mpr ⟨⟨Ne.symm hp, hn⟩, hs⟩⟩
    · rintro (⟨before, p, items, after, heq, hr, hs⟩ | ⟨ht, hs⟩)
      · cases before with
        | nil =>
          obtain ⟨rfl, rfl⟩ := List.cons.inj heq
          refine Or.inr ⟨Or.inl hr, ?_⟩
          obtain ⟨s, -, rfl⟩ := Option.map_eq_some_iff.mp hr
          rwa [LawfulRecord.partition_assign]
        | cons b before =>
          obtain ⟨-, rfl⟩ := List.cons.inj heq
          exact Or.inl ⟨before, p, items, after, rfl, hr, hs⟩
      · obtain ⟨⟨hp, hn⟩, hs⟩ := spares_cons.mp hs
        exact Or.inr ⟨Or.inr ⟨hn, ht, Ne.symm hp⟩, hs⟩

/-- The same calls once more change nothing: what the first time has left was listed last, or has been
spared by all of them. -/
lemma replaceAll_replaceAll (t : Table ρ) (calls : List (Call ρ)) :
    (t.replaceAll calls).replaceAll calls = t.replaceAll calls := by
  refine Std.ExtTreeMap.ext_getElem? fun {k} => Option.ext fun r => ?_
  rw [getElem?_replaceAll_eq_some_iff]
  constructor
  · rintro (listed | ⟨left, -⟩)
    · exact getElem?_replaceAll_eq_some_iff.mpr (Or.inl listed)
    · exact left
  · intro left
    rcases getElem?_replaceAll_eq_some_iff.mp left with listed | ⟨-, spared⟩
    · exact Or.inl listed
    · exact Or.inr ⟨left, spared⟩

/-- What is found under a key after any calls is an item of a call for its partition, or was there
before and all calls have spared it. -/
lemma item_or_spared {t : Table ρ} {calls : List (Call ρ)} {k : String} {r : ρ}
    (h : (t.replaceAll calls)[k]? = some r) :
    (∃ items, (Record.partition r, items) ∈ calls ∧
      ∃ s ∈ items, Record.key s = k ∧ r = Record.assign (Record.partition r) s) ∨
      t[k]? = some r ∧ Spares k (Record.partition r) calls := by
  rcases getElem?_replaceAll_eq_some_iff.mp h with ⟨before, p, items, after, rfl, hr, -⟩ | spared
  · obtain ⟨s, hs, rfl⟩ := Option.map_eq_some_iff.mp hr
    obtain ⟨listed, hkey⟩ := mem_of_lastOf hs
    rw [LawfulRecord.partition_assign]
    exact Or.inl ⟨items, List.mem_append_right _ List.mem_cons_self, s, listed, hkey, rfl⟩
  · exact Or.inr spared

/-- Whatever is found under a key after calls on an empty table was listed by one of them. -/
lemma getElem?_replaceAll_empty {calls : List (Call ρ)} {k : String} {r : ρ} :
    ((∅ : Table ρ).replaceAll calls)[k]? = some r ↔
      ∃ before p items after, calls = before ++ (p, items) :: after ∧
        (lastOf k items).map (Record.assign p) = some r ∧ Spares k p after := by
  simp [getElem?_replaceAll_eq_some_iff]

/-- A record found after calls on an empty table is an item of a call for its partition. -/
lemma exists_call_of_replaceAll {calls : List (Call ρ)} {k : String} {r : ρ}
    (h : ((∅ : Table ρ).replaceAll calls)[k]? = some r) :
    ∃ items, (Record.partition r, items) ∈ calls ∧
      ∃ s ∈ items, Record.key s = k ∧ r = Record.assign (Record.partition r) s := by
  rcases item_or_spared h with listed | ⟨stored, -⟩
  · exact listed
  · simp at stored

/-- Emptying partitions takes their records away and leaves all others. -/
lemma getElem?_replaceAll_clearing {t : Table ρ} {partitions : List String} {k : String} {r : ρ} :
    (t.replaceAll (clearing partitions))[k]? = some r ↔
      t[k]? = some r ∧ Record.partition r ∉ partitions := by
  rw [getElem?_replaceAll_eq_some_iff, spares_clearing]
  constructor
  · rintro (⟨before, p, items, after, heq, hr, -⟩ | kept)
    · -- None of the calls lists anything, so none of them has left the record.
      have call : (p, items) ∈ (clearing partitions : List (Call ρ)) := by
        rw [heq]
        exact List.mem_append_right _ List.mem_cons_self
      obtain ⟨q, -, hq⟩ := List.mem_map.mp call
      cases hq
      cases hr
    · exact kept
  · exact Or.inr

/-- A record that is there after calls is of the partition of one of them, or was there before and
is of none of their partitions. -/
lemma partition_of_replaceAll {t : Table ρ} {calls : List (Call ρ)} {k : String} {r : ρ}
    (h : (t.replaceAll calls)[k]? = some r) :
    (∃ c ∈ calls, c.1 = Record.partition r) ∨
      t[k]? = some r ∧ ∀ c ∈ calls, c.1 ≠ Record.partition r := by
  rcases item_or_spared h with ⟨items, call, -⟩ | ⟨ht, hs⟩
  · exact Or.inl ⟨_, call, rfl⟩
  · exact Or.inr ⟨ht, fun c hc => (hs c hc).1⟩

/-- Calls and the emptying of other partitions forget a table all of whose records are of these
partitions. -/
lemma replaceAll_forgets {t : Table ρ} {calls : List (Call ρ)} {retired : List String}
    (covered : ∀ (k : String) (r : ρ), t[k]? = some r →
      (∃ c ∈ calls, c.1 = Record.partition r) ∨ Record.partition r ∈ retired)
    (apart : ∀ c ∈ calls, c.1 ∉ retired) :
    t.replaceAll (calls ++ clearing retired) = (∅ : Table ρ).replaceAll calls := by
  rw [replaceAll_append]
  refine Std.ExtTreeMap.ext_getElem? fun {k} => Option.ext fun r => ?_
  rw [getElem?_replaceAll_clearing, getElem?_replaceAll_empty, getElem?_replaceAll_eq_some_iff]
  constructor
  · rintro ⟨listed | ⟨ht, hs⟩, kept⟩
    · exact listed
    · rcases covered k r ht with ⟨c, hc, hp⟩ | gone
      · exact absurd hp (hs c hc).1
      · exact absurd gone kept
  · intro listed
    refine ⟨Or.inl listed, ?_⟩
    obtain ⟨before, p, items, after, rfl, hr, -⟩ := listed
    obtain ⟨s, -, rfl⟩ := Option.map_eq_some_iff.mp hr
    rw [LawfulRecord.partition_assign]
    exact apart (p, items) (List.mem_append_right _ List.mem_cons_self)

end Table

namespace Inventory

lemma getElem?_enrich_claims (i : Inventory) (k : String) :
    i.enrich.claims[k]? = i.claims[k]?.map fun c =>
      { c with composition := compositionOf i.composites c.compositeName } :=
  Std.ExtTreeMap.getElem?_map

@[simp] lemma enrich_composites (i : Inventory) : i.enrich.composites = i.composites := rfl

inductive Family where
  | claims
  | composites
deriving DecidableEq

/-- A replacement that a client asks for. -/
inductive Replacement where
  | claims (partition : String) (items : List Claim)
  | composites (partition : String) (items : List Composite)

namespace Replacement

def apply (i : Inventory) : Replacement → Inventory
  | .claims p items => i.replaceClaims p items
  | .composites p items => i.replaceComposites p items

def family : Replacement → Family
  | .claims _ _ => .claims
  | .composites _ _ => .composites

def partition : Replacement → String
  | .claims p _ => p
  | .composites p _ => p

def claimCall? : Replacement → Option (Table.Call Claim)
  | .claims p items => some (p, items)
  | .composites _ _ => none

def compositeCall? : Replacement → Option (Table.Call Composite)
  | .claims _ _ => none
  | .composites p items => some (p, items)

lemma claimCall?_eq_some_iff {r : Replacement} {c : Table.Call Claim} :
    r.claimCall? = some c ↔ r = .claims c.1 c.2 := by
  obtain ⟨p, items⟩ := c
  cases r <;> simp [claimCall?]

lemma compositeCall?_eq_some_iff {r : Replacement} {c : Table.Call Composite} :
    r.compositeCall? = some c ↔ r = .composites c.1 c.2 := by
  obtain ⟨p, items⟩ := c
  cases r <;> simp [compositeCall?]

def clearing (claims composites : List String) : List Replacement :=
  claims.map (.claims · []) ++ composites.map (.composites · [])

lemma claimCalls_clearing (claims composites : List String) :
    (clearing claims composites).filterMap claimCall? = Table.clearing claims := by
  have others : composites.filterMap (claimCall? ∘ (.composites · [])) = [] :=
    List.filterMap_eq_nil_iff.mpr fun _ _ => rfl
  rw [clearing, List.filterMap_append, List.filterMap_map, List.filterMap_map, others,
    List.append_nil]
  exact congrFun List.filterMap_eq_map claims

lemma compositeCalls_clearing (claims composites : List String) :
    (clearing claims composites).filterMap compositeCall? = Table.clearing composites := by
  have others : claims.filterMap (compositeCall? ∘ (.claims · [])) = [] :=
    List.filterMap_eq_nil_iff.mpr fun _ _ => rfl
  rw [clearing, List.filterMap_append, List.filterMap_map, List.filterMap_map, others,
    List.nil_append]
  exact congrFun List.filterMap_eq_map composites

end Replacement

def replaceAll (i : Inventory) (history : List Replacement) : Inventory :=
  history.foldl Replacement.apply i

/-- Each of the two tables sees its own calls only. -/
lemma replaceAll_eq (i : Inventory) (history : List Replacement) :
    i.replaceAll history =
      ⟨i.claims.replaceAll (history.filterMap Replacement.claimCall?),
        i.composites.replaceAll (history.filterMap Replacement.compositeCall?)⟩ := by
  induction history generalizing i with
  | nil => rfl
  | cons r history ih => cases r <;> exact ih _

end Inventory

end ClaimTracker
