import Mathlib.Data.List.Nodup
import ClaimTracker.Proofs.Cycle.Retirement
import ClaimTracker.Proofs.NamespacePlan.Declarations

/-!
# One job for each partition

The jobs for a table are those for its central types, and then those for the types declared now, none
of which is central. So if the central types of a table can be told apart by their display forms, no
two jobs are for one partition of it.
-/

namespace ClaimTracker

namespace Cycle

variable {settings : Settings} {configs : Option (List NamespaceConfig)}

def Declares (c : NamespaceConfig) (family : Inventory.Family) (p : String) : Prop :=
  match family with
  | .claims => ∃ t ∈ c.claimTypes, t.display = p
  | .composites => ∃ t ∈ c.compositeTypes, t.display = p

/-- Declared now is what a configuration declares and the central settings do not. -/
lemma mem_declaredNow_iff {family : Inventory.Family} {p : String} :
    p ∈ declaredOf (declaredNow settings configs) family ↔
      p ∉ centralOf settings family ∧ ∃ c ∈ configs.getD [], Declares c family p := by
  cases configs with
  | none => cases family <;> simp [declaredNow, declaredOf]
  | some configs =>
    cases family with
    | claims => exact NamespacePlan.mem_displays_claims
    | composites => exact NamespacePlan.mem_displays_composites

lemma displays_jobs (family : Inventory.Family) :
    ((jobs settings configs).filter (·.family = family)).map (·.type.display) =
      centralOf settings family ++ declaredOf (declaredNow settings configs) family := by
  have central : ((centralJobs settings).filter (·.family = family)).map (·.type.display) =
      centralOf settings family := by
    cases family <;>
      simp [centralJobs, List.filter_map, Function.comp_def, centralOf, centralClaims,
        centralComposites]
  have planned : ∀ plan : NamespacePlan,
      ((plannedJobs plan).filter (·.family = family)).map (·.type.display) =
        declaredOf (declared plan) family := by
    intro plan
    cases family <;>
      simp [plannedJobs, List.filter_map, Function.comp_def, declaredOf, declared]
  rw [jobs, List.filter_append, List.map_append, central]
  cases configs with
  | none => cases family <;> rfl
  | some configs => exact congrArg _ (planned _)

lemma nodup_declaredNow (family : Inventory.Family) :
    (declaredOf (declaredNow settings configs) family).Nodup := by
  cases configs with
  | none => cases family <;> exact List.nodup_nil
  | some configs =>
    cases family with
    | claims => exact NamespacePlan.nodup_claims
    | composites => exact NamespacePlan.nodup_composites

/-- Of one table, the jobs are told apart by the display forms of their types. -/
lemma eq_of_mem_jobs {i j : Job} (distinct : (centralOf settings j.family).Nodup)
    (hi : i ∈ jobs settings configs) (hj : j ∈ jobs settings configs) (family : i.family = j.family)
    (display : i.type.display = j.type.display) : i = j := by
  have nodup : (((jobs settings configs).filter (·.family = j.family)).map
      (·.type.display)).Nodup := by
    rw [displays_jobs]
    refine List.nodup_append.mpr ⟨distinct, nodup_declaredNow _, ?_⟩
    rintro p hp q hq rfl
    exact (mem_declaredNow_iff.mp hq).1 hp
  refine List.inj_on_of_nodup_map nodup ?_ ?_ display
  · exact List.mem_filter.mpr ⟨hi, decide_eq_true family⟩
  · exact List.mem_filter.mpr ⟨hj, decide_eq_true rfl⟩

end Cycle

end ClaimTracker
