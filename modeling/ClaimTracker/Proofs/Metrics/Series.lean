import Mathlib.Data.List.Nodup
import Mathlib.Logic.Function.Basic
import Mathlib.Tactic.Lemma
import ClaimTracker.Metrics

/-!
# Which series show what

No name is that of two families, so the series of a name are those of the one family that goes by it. What
is shown of a family can be read off its own counters or gauges, whatever else is shown.
-/

namespace ClaimTracker.Metrics

variable {κ : Type} [Ord κ] [Std.TransOrd κ]
variable {seriesLabels : κ → List (String × String)}

namespace Family

lemma mem_plain {name : String} {value : Option Nat} {n : Nat} :
    ⟨name, [], n⟩ ∈ (plain name value).series ↔ value = some n := by
  simp [plain]

lemma mem_counters {name g : String} {counts : Std.ExtTreeMap String Nat} {n : Nat} :
    ⟨name, [("gvr", g)], n⟩ ∈ (counters name counts).series ↔ counts[g]? = some n := by
  simp [counters, Std.ExtTreeMap.mem_toList_iff_getElem?_eq_some]

lemma filter_gauges {totalName readyName : String} (apart : readyName ≠ totalName)
    (sheet : Tally.Sheet κ) :
    (gauges totalName readyName seriesLabels sheet).series.filter (·.name = totalName) =
      sheet.toList.map fun p => ⟨totalName, seriesLabels p.1, Double.toWord p.2.total⟩ := by
  rw [gauges, List.filter_flatMap, List.map_eq_flatMap]
  exact List.flatMap_congr fun p _ => by simp [apart]

/-- Nothing of a family has a name that the family does not go by. -/
lemma filter_eq_nil {f : Family} {name : String} (foreign : name ∉ f.names) :
    f.series.filter (·.name = name) = [] := by
  refine List.filter_eq_nil_iff.mpr fun s hs => ?_
  simp only [decide_eq_true_eq]
  rintro rfl
  exact foreign (f.named s hs)

end Family

lemma claim_gauges_mem_families (m : Metrics) :
    Family.gauges "crossplane_claims_total" "crossplane_claims_ready" claimSeriesLabels
      m.claimGauges ∈ m.families := by
  simp [families]

lemma composite_gauges_mem_families (m : Metrics) :
    Family.gauges "crossplane_xr_total" "crossplane_xr_ready" compositeSeriesLabels
      m.compositeGauges ∈ m.families := by
  simp [families]

lemma nodup_names (m : Metrics) : (m.families.flatMap Family.names).Nodup := by
  have names : m.families.flatMap Family.names = (∅ : Metrics).families.flatMap Family.names := rfl
  rw [names]
  decide

section Named

variable {m : Metrics} {f : Family} {name : String}

/-- The series of a name are those of the family that goes by it. -/
lemma filter_series_perm (hf : f ∈ m.families) (goes : name ∈ f.names) :
    (m.series.filter (·.name = name)).Perm (f.series.filter (·.name = name)) := by
  obtain ⟨before, after, split⟩ := List.append_of_mem hf
  obtain ⟨-, apart⟩ := List.nodup_flatMap.mp m.nodup_names
  rw [split, List.pairwise_middle List.disjoint_symm, List.pairwise_cons] at apart
  have others : (before ++ after).flatMap (fun g => g.series.filter (·.name = name)) = [] := by
    refine List.flatMap_eq_nil_iff.mpr fun g hg => ?_
    exact Family.filter_eq_nil fun also => apart.1 g hg goes also
  have all : (m.families.flatMap Family.series).filter (·.name = name) =
      before.flatMap (fun g => g.series.filter (·.name = name)) ++
        (f.series.filter (·.name = name) ++
          after.flatMap fun g => g.series.filter (·.name = name)) := by
    rw [split, List.filter_flatMap, List.flatMap_append, List.flatMap_cons]
  rw [List.flatMap_append, List.append_eq_nil_iff] at others
  rw [others.1, others.2, List.nil_append, List.append_nil] at all
  rw [← all]
  exact (List.mergeSort_perm _ _).filter _

lemma mem_series_iff (hf : f ∈ m.families) {s : Series} (goes : s.name ∈ f.names) :
    s ∈ m.series ↔ s ∈ f.series := by
  have named := (filter_series_perm hf goes).mem_iff (a := s)
  simpa only [List.mem_filter, decide_true, and_true] using named

lemma mem_series_of_plain {value : Option Nat} (hf : Family.plain name value ∈ m.families) (n : Nat) :
    ⟨name, [], n⟩ ∈ m.series ↔ value = some n := by
  rw [mem_series_iff hf (List.mem_singleton.mpr rfl), Family.mem_plain]

lemma mem_series_of_counters {counts : Std.ExtTreeMap String Nat}
    (hf : Family.counters name counts ∈ m.families) (g : String) (n : Nat) :
    ⟨name, [("gvr", g)], n⟩ ∈ m.series ↔ counts[g]? = some n := by
  rw [mem_series_iff hf (List.mem_singleton.mpr rfl), Family.mem_counters]

end Named

end ClaimTracker.Metrics
