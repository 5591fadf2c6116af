import Mathlib.Data.List.Basic
import Mathlib.Data.List.Dedup
import Mathlib.Data.List.Induction
import Mathlib.Data.List.Perm.Basic
import Mathlib.Tactic.Lemma
import ClaimTracker.Tally

/-!
# What a sheet of tallies holds

Counting the records of a list one after the other gives, for each labels that some record has, the
number of the records that have them and the number of those that are ready.
-/

namespace ClaimTracker.Tally

variable {κ ρ : Type} [DecidableEq κ] (labels : ρ → κ) (ready : ρ → Bool)

def ofLabels (l : List ρ) (k : κ) : Tally :=
  ⟨l.countP fun r => labels r = k, l.countP fun r => labels r = k && ready r⟩

lemma total_le_length (l : List ρ) (k : κ) : (ofLabels labels ready l k).total ≤ l.length :=
  List.countP_le_length

lemma ofLabels_append_singleton (l : List ρ) (r : ρ) (k : κ) :
    ofLabels labels ready (l ++ [r]) k =
      if labels r = k then (ofLabels labels ready l k).add (ready r) else ofLabels labels ready l k := by
  by_cases here : labels r = k
  · cases hr : ready r <;> simp [ofLabels, add, here, hr]
  · simp [ofLabels, here]

/-- Labels that no record has are tallied zero. -/
lemma ofLabels_of_not_mem {l : List ρ} {k : κ} (h : k ∉ l.map labels) :
    ofLabels labels ready l k = zero := by
  have others : ∀ r ∈ l, labels r ≠ k := fun r hr heq => h (heq ▸ List.mem_map_of_mem hr)
  ext
  · exact List.countP_eq_zero.mpr fun r hr => by simpa using others r hr
  · exact List.countP_eq_zero.mpr fun r hr => by simp [others r hr]

variable [Ord κ] [Std.TransOrd κ]

def sheet (l : List ρ) : Sheet κ :=
  l.foldl (fun sheet r => count sheet (labels r) (ready r)) ∅

variable [Std.LawfulEqOrd κ]

lemma getElem?_sheet (l : List ρ) (k : κ) :
    (sheet labels ready l)[k]? =
      if k ∈ l.map labels then some (ofLabels labels ready l k) else none := by
  induction l using List.reverseRecOn with
  | nil => simp [sheet]
  | append_singleton l r ih =>
    rw [sheet, List.foldl_concat, ← sheet, getElem?_count, ih, ofLabels_append_singleton]
    by_cases here : labels r = k
    · by_cases before : k ∈ l.map labels
      · simp [here, before]
      · simp [here, before, ofLabels_of_not_mem labels ready before]
    · have same : k ∈ (l ++ [r]).map labels ↔ k ∈ l.map labels := by
        simp [Ne.symm here]
      simp only [here, same, if_false]

end ClaimTracker.Tally
