import Mathlib.Data.List.Induction
import ClaimTracker.Proofs.Inventory.Contents
import ClaimTracker.Proofs.Inventory.Operations

/-!
# Which call has written a record

Whatever has been done to an inventory, a record stands under its own key, and its partition is that of
the last call that listed the key. Calls that do not list the key, for its own partition or for others,
leave the record as it is or take it away, and enrichment changes neither its key nor its partition.
-/

namespace ClaimTracker

namespace Table

variable {ρ : Type} [Record ρ]

/-- Every record stands under its own key, and is of the partition for which the last call that lists the
key was. -/
def WrittenBy (t : Table ρ) (calls : List (Call ρ)) : Prop :=
  ∀ (k : String) (r : ρ), t[k]? = some r →
    Record.key r = k ∧ ∃ j items, LastListing k calls j (Record.partition r) items

variable {k p q : String} {items : List ρ} {calls : List (Call ρ)} {t : Table ρ}

lemma LastListing.append {j : Nat} {listed : List ρ} (h : LastListing k calls j q listed)
    (unlisted : ∀ r ∈ items, Record.key r ≠ k) :
    LastListing k (calls ++ [(p, items)]) j q listed where
  call := by
    have bound := (List.getElem?_eq_some_iff.mp h.call).1
    rw [List.getElem?_append_left bound]
    exact h.call
  listed := h.listed
  last := by
    have bound := (List.getElem?_eq_some_iff.mp h.call).1
    rw [List.drop_append_of_le_length bound]
    intro c hc
    rcases List.mem_append.mp hc with before | here
    · exact h.last c before
    · rw [List.mem_singleton.mp here]
      exact unlisted

lemma lastListing_append_self (calls : List (Call ρ)) {r : ρ} (h : r ∈ items) :
    LastListing (Record.key r) (calls ++ [(p, items)]) calls.length p items where
  call := by simp
  listed := ⟨r, h, rfl⟩
  last := by simp

lemma writtenBy_empty (calls : List (Call ρ)) : (∅ : Table ρ).WrittenBy calls := by
  intro k r h
  simp at h

/-- A call writes what it lists, and leaves no record of which it is not known who has written it. -/
lemma WrittenBy.replace [LawfulRecord ρ] (h : t.WrittenBy calls) (p : String) (items : List ρ) :
    (t.replace p items).WrittenBy (calls ++ [(p, items)]) := by
  intro k r hr
  rcases getElem?_replace_eq_some_iff.mp hr with placed | ⟨unlisted, stored, -⟩
  · obtain ⟨s, last, rfl⟩ := Option.map_eq_some_iff.mp placed
    obtain ⟨hs, rfl⟩ := mem_of_lastOf last
    rw [LawfulRecord.partition_assign]
    exact ⟨LawfulRecord.key_assign p s, calls.length, items, lastListing_append_self calls hs⟩
  · obtain ⟨own, j, listed, written⟩ := h k r stored
    exact ⟨own, j, listed, written.append (lastOf_eq_none_iff.mp unlisted)⟩

end Table

namespace Inventory

def Operation.replacement? : Operation → Option Replacement
  | .replace r => some r
  | .enrich => none

/-- Both tables are written by what a history of replacements has called them for. -/
structure WrittenBy (i : Inventory) (history : List Replacement) : Prop where
  claims : i.claims.WrittenBy (history.filterMap Replacement.claimCall?)
  composites : i.composites.WrittenBy (history.filterMap Replacement.compositeCall?)

variable {i : Inventory} {history : List Replacement}

lemma writtenBy_empty : WrittenBy ∅ [] :=
  ⟨Table.writtenBy_empty [], Table.writtenBy_empty []⟩

/-- An enriched claim has the key and the partition that it had before. -/
lemma WrittenBy.enrich (h : i.WrittenBy history) : i.enrich.WrittenBy history where
  claims := by
    intro k c hc
    rw [getElem?_enrich_claims] at hc
    obtain ⟨b, stored, rfl⟩ := Option.map_eq_some_iff.mp hc
    exact h.claims k b stored
  composites := h.composites

lemma WrittenBy.apply (h : i.WrittenBy history) (op : Operation) :
    (op.apply i).WrittenBy (history ++ op.replacement?.toList) := by
  cases op with
  | replace r =>
    cases r with
    | claims p items =>
      have others : [Replacement.claims p items].filterMap Replacement.compositeCall? = [] := rfl
      constructor
      · rw [Operation.replacement?, Option.toList_some, List.filterMap_append]
        exact h.claims.replace p items
      · rw [Operation.replacement?, Option.toList_some, List.filterMap_append, others,
          List.append_nil]
        exact h.composites
    | composites p items =>
      have others : [Replacement.composites p items].filterMap Replacement.claimCall? = [] := rfl
      constructor
      · rw [Operation.replacement?, Option.toList_some, List.filterMap_append, others,
          List.append_nil]
        exact h.claims
      · rw [Operation.replacement?, Option.toList_some, List.filterMap_append]
        exact h.composites.replace p items
  | enrich =>
    rw [Operation.replacement?, Option.toList_none, List.append_nil]
    exact h.enrich

/-- Whatever is done to the empty inventory, its records are written by the replacements made. -/
lemma writtenBy_run (ops : List Operation) :
    ((∅ : Inventory).run ops).WrittenBy (ops.filterMap Operation.replacement?) := by
  induction ops using List.reverseRecOn with
  | nil => exact writtenBy_empty
  | append_singleton ops op ih =>
    rw [run_append, List.filterMap_append]
    have step := ih.apply op
    cases op <;> exact step

end Inventory

end ClaimTracker
