import ClaimTracker.Proofs.Metrics.Series
import ClaimTracker.Proofs.Metrics.Tallies

/-!
# What the gauges of the inventory show

Only the labels of the last inventory are remembered between two inventories. All other gauges stand
at zero, and labels without a gauge have never been observed. Hence a gauge always shows the count in
the last inventory, however long ago its labels have vanished.
-/

namespace ClaimTracker

lemma Double.toWord_of_lt {n : Nat} (h : n < exactBound) : toWord n = n := by
  rw [toWord, nearest_of_lt h]
  exact Nat.min_eq_left (Nat.le_trans (Nat.le_of_lt h) (by decide))

namespace Metrics

lemma last_subset_flatten {α : Type} (seen : List (List α)) :
    seen.getLast?.getD [] ⊆ seen.flatten := by
  intro a ha
  cases last : seen.getLast? with
  | none =>
    rw [last] at ha
    cases ha
  | some l =>
    rw [last] at ha
    exact List.mem_flatten.mpr ⟨l, List.mem_of_getLast? last, ha⟩

section Family

variable {κ ρ : Type} [Ord κ] [Std.TransOrd κ] [Std.LawfulEqOrd κ]

lemma getElem?_publish (gauges last now : Tally.Sheet κ) (k : κ) :
    (publish gauges last now)[k]? =
      now[k]?.or ((last[k]?.map fun _ => .zero).or gauges[k]?) := by
  rw [publish, Std.ExtTreeMap.getElem?_union, Std.ExtTreeMap.getElem?_union,
    Std.ExtTreeMap.getElem?_map]

variable [DecidableEq κ] (labels : ρ → κ) (ready : ρ → Bool)

/-- There are gauges for the labels that some list has had, and they hold the tallies of the last list,
or of no records as long as there has been none. -/
def HoldLast (seen : List (List ρ)) (gauges : Tally.Sheet κ) : Prop :=
  ∀ k, gauges[k]? =
    if k ∈ seen.flatten.map labels then
      some (Tally.ofLabels labels ready (seen.getLast?.getD []) k)
    else none

/-- Between two lists the gauges hold the tallies of the last list, and these are remembered. -/
structure Current (seen : List (List ρ)) (gauges published : Tally.Sheet κ) : Prop where
  holdLast : HoldLast labels ready seen gauges
  published : published = Tally.sheet labels ready (seen.getLast?.getD [])

variable {labels ready} {seen : List (List ρ)} {gauges published : Tally.Sheet κ}

/-- Publishing the tallies of another list. -/
lemma Current.publish (h : Current labels ready seen gauges published) (l : List ρ) :
    Current labels ready (seen ++ [l]) (publish gauges published (Tally.sheet labels ready l))
      (Tally.sheet labels ready l) := by
  refine ⟨fun k => ?_, by rw [List.getLast?_concat, Option.getD_some]⟩
  have observed : k ∈ (seen ++ [l]).flatten.map labels ↔
      k ∈ seen.flatten.map labels ∨ k ∈ l.map labels := by
    rw [List.flatten_concat, List.map_append, List.mem_append]
  rw [getElem?_publish, h.published, Tally.getElem?_sheet, Tally.getElem?_sheet, h.holdLast k,
    List.getLast?_concat, Option.getD_some]
  simp only [observed]
  by_cases now : k ∈ l.map labels
  · simp only [now, or_true, if_true, Option.some_or]
  -- The labels are not in the list, so zero is what the gauge has to hold if there is one.
  rw [Tally.ofLabels_of_not_mem labels ready now]
  by_cases last : k ∈ (seen.getLast?.getD []).map labels
  · have before : k ∈ seen.flatten.map labels := List.map_subset labels (last_subset_flatten seen) last
    simp only [now, last, before, or_false, if_true, if_false, Option.map_some, Option.none_or,
      Option.some_or]
  · rw [Tally.ofLabels_of_not_mem labels ready last]
    simp only [now, last, or_false, if_false, Option.map_none, Option.none_or]

end Family

inductive Write where
  | inventory (claims : List Claim) (composites : List Composite)
  | listError (partition : String)
  | skippedType (partition : String)
  | cycle (claims composites : Nat)
  | configs (n : Nat)
  | persist
  | persistFailed
deriving DecidableEq, Repr

def write (m : Metrics) : Write → Metrics
  | .inventory claims composites => m.observeInventory claims composites
  | .listError partition => m.listError partition
  | .skippedType partition => m.skippedType partition
  | .cycle claims composites => m.observeCycle claims composites
  | .configs n => m.observeConfigs n
  | .persist => m.observePersist
  | .persistFailed => m.persistFailed

def Write.claims? : Write → Option (List Claim)
  | .inventory claims _ => some claims
  | _ => none

def Write.composites? : Write → Option (List Composite)
  | .inventory _ composites => some composites
  | _ => none

def written (writes : List Write) : Metrics :=
  writes.foldl write ∅

/-- After any writes both families are current. -/
lemma current_written (writes : List Write) :
    Current ClaimLabels.of Claim.ready (writes.filterMap Write.claims?)
        (written writes).claimGauges (written writes).publishedClaims ∧
      Current CompositeLabels.of Composite.ready (writes.filterMap Write.composites?)
        (written writes).compositeGauges (written writes).publishedComposites := by
  induction writes using List.reverseRecOn with
  | nil => exact ⟨⟨fun _ => rfl, rfl⟩, ⟨fun _ => rfl, rfl⟩⟩
  | append_singleton writes w ih =>
    rw [written, List.foldl_concat, ← written, List.filterMap_append, List.filterMap_append]
    cases w with
    | inventory claims composites => exact ⟨ih.1.publish claims, ih.2.publish composites⟩
    | listError | skippedType | cycle | configs | persist | persistFailed =>
      simp only [List.filterMap_cons, List.filterMap_nil, Write.claims?, Write.composites?,
        List.append_nil]
      exact ih

section Family

variable {κ ρ : Type} [Ord κ] [Std.TransOrd κ] [Std.LawfulEqOrd κ] [DecidableEq κ]
variable {seriesLabels : κ → List (String × String)}

omit [Std.LawfulEqOrd κ] in
/-- What a gauge holds is a tally of the last list. -/
lemma HoldLast.eq_of_held {gauges : Tally.Sheet κ} {labels : ρ → κ} {ready : ρ → Bool}
    {seen : List (List ρ)} (h : HoldLast labels ready seen gauges) {k : κ} {t : Tally}
    (held : gauges[k]? = some t) : t = Tally.ofLabels labels ready (seen.getLast?.getD []) k := by
  rw [h k, Option.ite_none_right_eq_some] at held
  exact (Option.some.inj held.2).symm

end Family

end Metrics

end ClaimTracker
