import Mathlib.Algebra.BigOperators.Group.Finset.Basic
import Mathlib.Algebra.GroupWithZero.Nat
import ClaimTracker.Proofs.Metrics.Gauges

/-!
# What the numbers shown add up to

Every record of the last inventory is counted by one gauge of its family, and all others stand at zero,
so the gauges add up to the number of records. A counter has counted what has been written to it under
its label, and is shown as soon as that is something.
-/

namespace ClaimTracker

def Tally.Sheet.sum {κ : Type} [Ord κ] [Std.TransOrd κ] (sheet : Tally.Sheet κ) : Nat :=
  (sheet.toList.map fun p => p.2.total).sum

/-- If some keys are all that the records of a list have, each record is counted under one of them. -/
lemma Tally.sum_ofLabels {κ ρ : Type} [DecidableEq κ] (labels : ρ → κ) (ready : ρ → Bool)
    {keys : List κ} (nodup : keys.Nodup) {l : List ρ} (all : ∀ r ∈ l, labels r ∈ keys) :
    (keys.map fun k => (ofLabels labels ready l k).total).sum = l.length := by
  have total : ∀ k, (ofLabels labels ready l k).total =
      Multiset.count k (l.map labels : Multiset κ) := by
    intro k
    rw [Multiset.coe_count, List.count, List.countP_map]
    exact List.countP_congr fun r _ => by simp
  have counted : ∀ k ∈ (l.map labels : Multiset κ), k ∈ keys.toFinset := by
    intro k hk
    obtain ⟨r, hr, rfl⟩ := List.mem_map.mp (Multiset.mem_coe.mp hk)
    exact List.mem_toFinset.mpr (all r hr)
  calc (keys.map fun k => (ofLabels labels ready l k).total).sum
      = (keys.map fun k => Multiset.count k (l.map labels : Multiset κ)).sum := by
        rw [List.map_congr_left fun k _ => total k]
    _ = ∑ k ∈ keys.toFinset, Multiset.count k (l.map labels : Multiset κ) :=
        (List.sum_toFinset _ nodup).symm
    _ = (l.map labels).length := Multiset.sum_count_eq_card counted
    _ = l.length := List.length_map _

namespace Metrics

/-- The sum of the numbers shown under a name. -/
def shownSum (m : Metrics) (name : String) : Nat :=
  ((m.series.filter (·.name = name)).map Series.value).sum

lemma shownSum_of_gauges {κ : Type} [Ord κ] [Std.TransOrd κ] {m : Metrics}
    {totalName readyName : String} {seriesLabels : κ → List (String × String)}
    {gauges : Tally.Sheet κ} (apart : readyName ≠ totalName)
    (family : Family.gauges totalName readyName seriesLabels gauges ∈ m.families) :
    m.shownSum totalName = (gauges.toList.map fun p => Double.toWord p.2.total).sum := by
  have shown := (filter_series_perm family List.mem_cons_self).map Series.value
  rw [Family.filter_gauges apart, List.map_map] at shown
  exact shown.sum_eq

/-- The gauges of a family hold a number of records together, and this number is shown as that of the
records stored. What is shown of the gauges adds up to it as far as doubles are exact. -/
structure ShowTotal {κ : Type} [Ord κ] [Std.TransOrd κ] (m : Metrics) (gauges : Tally.Sheet κ)
    (totalName storedName : String) (n : Nat) : Prop where
  held : gauges.sum = n
  stored : ∀ k, ⟨storedName, [], k⟩ ∈ m.series ↔ k = Double.toWord n
  exact : n < Double.exactBound → m.shownSum totalName = n ∧ Double.toWord n = n

section Family

variable {κ ρ : Type} [Ord κ] [Std.TransOrd κ] [Std.LawfulEqOrd κ] [DecidableEq κ]
variable {labels : ρ → κ} {ready : ρ → Bool} {seen : List (List ρ)} {gauges : Tally.Sheet κ}

lemma HoldLast.eq_of_mem (h : HoldLast labels ready seen gauges) {p : κ × Tally}
    (hp : p ∈ gauges.toList) : p.2 = Tally.ofLabels labels ready (seen.getLast?.getD []) p.1 :=
  h.eq_of_held (Std.ExtTreeMap.mem_toList_iff_getElem?_eq_some.mp hp)

/-- The gauges count every record of the last list once. -/
lemma HoldLast.sum (h : HoldLast labels ready seen gauges) :
    gauges.sum = (seen.getLast?.getD []).length := by
  have gauged : ∀ r ∈ seen.getLast?.getD [], labels r ∈ gauges.keys := by
    intro r hr
    have observed : labels r ∈ seen.flatten.map labels :=
      List.mem_map_of_mem (last_subset_flatten seen hr)
    rw [Std.ExtTreeMap.mem_keys, Std.ExtTreeMap.mem_iff_isSome_getElem?, h, if_pos observed]
    rfl
  calc gauges.sum
      = (gauges.toList.map fun p =>
          (Tally.ofLabels labels ready (seen.getLast?.getD []) p.1).total).sum := by
        rw [Tally.Sheet.sum, List.map_congr_left fun p hp => by rw [h.eq_of_mem hp]]
    _ = (gauges.keys.map fun k =>
          (Tally.ofLabels labels ready (seen.getLast?.getD []) k).total).sum := by
        rw [← Std.ExtTreeMap.map_fst_toList_eq_keys, List.map_map]
        rfl
    _ = _ := Tally.sum_ofLabels labels ready Std.ExtTreeMap.nodup_keys gauged

/-- No gauge holds more than the last list has. -/
lemma HoldLast.total_le (h : HoldLast labels ready seen gauges) {p : κ × Tally}
    (hp : p ∈ gauges.toList) : p.2.total ≤ (seen.getLast?.getD []).length := by
  rw [h.eq_of_mem hp]
  exact Tally.total_le_length labels ready _ p.1

/-- What is shown of the gauges of a family adds up to the records counted, if doubles can show it. -/
lemma HoldLast.shown_sum (h : HoldLast labels ready seen gauges)
    (short : (seen.getLast?.getD []).length < Double.exactBound) :
    (gauges.toList.map fun p => Double.toWord p.2.total).sum = (seen.getLast?.getD []).length := by
  rw [← h.sum, Tally.Sheet.sum]
  refine congrArg List.sum (List.map_congr_left fun p hp => ?_)
  exact Double.toWord_of_lt (Nat.lt_of_le_of_lt (h.total_le hp) short)

lemma HoldLast.showTotal {m : Metrics} {totalName readyName storedName : String}
    {seriesLabels : κ → List (String × String)} {l : List ρ} {number : Option Nat}
    (h : HoldLast labels ready seen gauges) (last : seen.getLast? = some l)
    (counted : number = some l.length) (apart : readyName ≠ totalName)
    (family : Family.gauges totalName readyName seriesLabels gauges ∈ m.families)
    (stored : Family.gauge storedName number ∈ m.families) :
    m.ShowTotal gauges totalName storedName l.length := by
  have held := h.sum
  have shown := h.shown_sum
  have sum := shownSum_of_gauges apart family
  rw [last, Option.getD_some] at held shown
  refine ⟨held, fun k => ?_, fun short => ⟨sum.trans (shown short), Double.toWord_of_lt short⟩⟩
  rw [mem_series_of_plain stored, counted, Option.map_some, Option.some.injEq, eq_comm]

end Family

def Write.listError? : Write → Option String
  | .listError partition => some partition
  | _ => none

/-- The partition of a declaration that is counted as skipped. -/
def Write.skippedType? : Write → Option String
  | .skippedType partition => some partition
  | _ => none

def Write.counts? : Write → Option (Nat × Nat)
  | .cycle claims composites => some (claims, composites)
  | _ => none

lemma started_eq_some_iff {n k : Nat} : started n = some k ↔ 0 < k ∧ k = n := by
  rw [started]
  split
  · simp only [reduceCtorEq, false_iff]
    omega
  · rw [Option.some.injEq]
    omega

lemma started_getD (n : Nat) : (started n).getD 0 = n := by
  rw [started]
  split
  · rename_i none
    exact none.symm
  · rfl

/-- A counter that has been incremented stands at the number of times. -/
lemma getElem?_increments (l : List String) (g : String) :
    (l.foldl increment ∅)[g]? = started (l.count g) := by
  induction l using List.reverseRecOn with
  | nil => rfl
  | append_singleton l p ih =>
    rw [List.foldl_concat, increment, Std.ExtTreeMap.getElem?_alter, List.count_append]
    by_cases here : p = g
    · subst here
      rw [ih, started_getD]
      simp [started]
    · simp [ih, Std.LawfulEqCmp.compare_eq_iff_eq, here]

/-- What has been written decides what is counted and what is stored. -/
lemma counted_written (writes : List Write) :
    (written writes).listErrors = (writes.filterMap Write.listError?).foldl increment ∅ ∧
      (written writes).skippedTypes = (writes.filterMap Write.skippedType?).foldl increment ∅ ∧
      (written writes).storedClaims = (writes.filterMap Write.counts?).getLast?.map Prod.fst ∧
      (written writes).storedComposites = (writes.filterMap Write.counts?).getLast?.map Prod.snd := by
  induction writes using List.reverseRecOn with
  | nil => exact ⟨rfl, rfl, rfl, rfl⟩
  | append_singleton writes w ih =>
    obtain ⟨errors, skips, claims, composites⟩ := ih
    rw [written, List.foldl_concat, ← written]
    cases w with
    | cycle n m =>
      simp only [List.filterMap_append, List.filterMap_cons, List.filterMap_nil, Write.listError?,
        Write.skippedType?, Write.counts?, List.append_nil, List.getLast?_concat]
      exact ⟨errors, skips, rfl, rfl⟩
    | inventory | listError | skippedType | configs | persist | persistFailed =>
      simp only [List.filterMap_append, List.filterMap_cons, List.filterMap_nil, Write.listError?,
        Write.skippedType?, Write.counts?, List.append_nil, List.foldl_concat, ← errors, ← skips]
      exact ⟨rfl, rfl, claims, composites⟩

end Metrics

end ClaimTracker
