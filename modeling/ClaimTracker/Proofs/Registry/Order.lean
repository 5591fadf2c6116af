import Mathlib.Data.List.Chain
import Mathlib.Data.List.Lex
import Mathlib.Data.String.Basic
import ClaimTracker.Proofs.Registry.Log
import ClaimTracker.Proofs.Inventory.Listed

/-!
# In which order configurations are seen

Readers see the configurations ordered by namespace, and by name within it. That is the order of their
keys as long as no namespace goes on, where another ends, with a character that comes before the slash
which stands there in the key of the other.
-/

namespace ClaimTracker

namespace NamespaceConfig

/-- The configuration is listed before the other and yet has the greater key: the namespace of the
other goes on where its own ends, with a character before the slash, or with a slash and then with a
text that comes before its name. -/
def IsOvertakenBy (a b : NamespaceConfig) : Prop :=
  ∃ c more, b.ns.toList = a.ns.toList ++ c :: more ∧
    (c < '/' ∨ c = '/' ∧ more ++ '/' :: b.configMap.toList < a.configMap.toList)

variable {a b : NamespaceConfig}

/-- Texts that differ before either ends keep their order, whatever follows them. -/
lemma append_lt_append_of_apart {l m : List Char} (h : l < m) (apart : ¬ l <+: m)
    (x y : List Char) : l ++ x < m ++ y := by
  induction l generalizing m with
  | nil => exact absurd List.nil_prefix apart
  | cons c l ih =>
    cases m with
    | nil => cases h
    | cons d m =>
      rw [List.cons_append, List.cons_append, List.cons_lt_cons_iff]
      rcases List.cons_lt_cons_iff.mp h with first | ⟨rfl, later⟩
      · exact Or.inl first
      · exact Or.inr ⟨rfl, ih later fun front => apart (List.cons_prefix_cons.mpr ⟨rfl, front⟩)⟩

lemma append_lt_append_left_iff (l x y : List Char) : l ++ x < l ++ y ↔ x < y := by
  induction l with
  | nil => rfl
  | cons c l ih => simp [ih]

lemma toList_key (a : NamespaceConfig) :
    a.key.toList = a.ns.toList ++ '/' :: a.configMap.toList := by
  simp [key]

lemma key_lt_iff : b.key < a.key ↔
    b.ns.toList ++ '/' :: b.configMap.toList < a.ns.toList ++ '/' :: a.configMap.toList := by
  rw [String.lt_iff_toList_lt, toList_key, toList_key]

/-- In one namespace the names decide. -/
lemma key_lt_iff_of_ns_eq (same : a.ns = b.ns) : b.key < a.key ↔ b.configMap < a.configMap := by
  rw [key_lt_iff, same, append_lt_append_left_iff, String.lt_iff_toList_lt]
  simp

/-- Of two configurations in different namespaces, the second has the smaller key exactly if it
overtakes the first. -/
lemma key_lt_iff_of_ns_lt (h : a.ns < b.ns) : b.key < a.key ↔ a.IsOvertakenBy b := by
  rw [String.lt_iff_toList_lt] at h
  by_cases front : a.ns.toList <+: b.ns.toList
  · obtain ⟨rest, goes_on⟩ := front
    cases rest with
    | nil =>
      rw [← goes_on, List.append_nil] at h
      exact absurd h (lt_irrefl _)
    | cons c more =>
      rw [key_lt_iff, ← goes_on, List.append_assoc, append_lt_append_left_iff, List.cons_append,
        List.cons_lt_cons_iff]
      constructor
      · exact fun earlier => ⟨c, more, goes_on.symm, earlier⟩
      · rintro ⟨d, rest, same, earlier⟩
        rw [← goes_on, List.append_cancel_left_eq] at same
        cases same
        exact earlier
  · constructor
    · intro smaller
      exact absurd (append_lt_append_of_apart h front _ _) (key_lt_iff.mp smaller).asymm
    · rintro ⟨c, more, goes_on, -⟩
      exact absurd ⟨_, goes_on.symm⟩ front

lemma IsOvertakenBy.ns_lt (h : a.IsOvertakenBy b) : a.ns < b.ns := by
  obtain ⟨c, more, goes_on, -⟩ := h
  rw [String.lt_iff_toList_lt, goes_on]
  conv_lhs => rw [← List.append_nil a.ns.toList]
  exact List.append_left_lt (List.nil_lt_cons c more)

end NamespaceConfig

namespace ConfigTable

open NamespaceConfig

variable {a b : NamespaceConfig} {t : ConfigTable}

/-- The list is ordered by namespace, and by name within it. -/
lemma pairwise_listed (t : ConfigTable) :
    t.listed.Pairwise fun a b => a.ns < b.ns ∨ a.ns = b.ns ∧ a.configMap ≤ b.configMap :=
  (Text.pairwise_mergeSort NamespaceConfig.ns NamespaceConfig.configMap _).imp
    Prod.Lex.toLex_le_toLex.mp

/-- Configurations under different keys are strictly ordered. -/
lemma pairwise_listed_of_keyed (keyed : t.Keyed) :
    t.listed.Pairwise fun a b => a.ns < b.ns ∨ a.ns = b.ns ∧ a.configMap < b.configMap := by
  have distinct : t.listed.Pairwise fun a b => a.key ≠ b.key :=
    List.pairwise_map.mp (nodup_listed keyed)
  refine ((pairwise_listed t).and distinct).imp ?_
  rintro a b ⟨before | ⟨same, le⟩, apart⟩
  · exact Or.inl before
  · refine Or.inr ⟨same, lt_of_le_of_ne le fun names => apart ?_⟩
    rw [key, key, same, names]

end ConfigTable

namespace Registry

open NamespaceConfig

/-- A list ordered by namespace and name is ordered by key as long as none is overtaken. -/
lemma isChain_key_iff {l : List NamespaceConfig}
    (sorted : l.Pairwise fun a b => a.ns < b.ns ∨ a.ns = b.ns ∧ a.configMap < b.configMap) :
    l.IsChain (fun a b => a.key ≤ b.key) ↔ ∀ a ∈ l, ∀ b ∈ l, ¬ a.IsOvertakenBy b := by
  have : IsTrans NamespaceConfig fun a b => a.key ≤ b.key := ⟨fun _ _ _ => le_trans⟩
  rw [List.isChain_iff_pairwise]
  constructor
  · intro keys a ha b hb overtaken
    -- the two may stand in the list either way round
    have ahead : l.Pairwise fun a b => ¬ a.IsOvertakenBy b :=
      keys.imp fun le h => le.not_gt ((key_lt_iff_of_ns_lt h.ns_lt).mpr h)
    have behind : l.Pairwise fun a b => ¬ b.IsOvertakenBy a := by
      refine sorted.imp ?_
      rintro a b (before | ⟨same, -⟩) h
      · exact before.asymm h.ns_lt
      · exact h.ns_lt.ne' same
    exact List.Pairwise.forall_of_forall_of_flip (fun c _ h => h.ns_lt.false) ahead behind ha hb
      overtaken
  · intro apart
    refine sorted.imp_of_mem fun {a b} ha hb order => not_lt.mp fun smaller => ?_
    rcases order with before | ⟨same, names⟩
    · exact apart a ha b hb ((key_lt_iff_of_ns_lt before).mp smaller)
    · exact names.asymm ((key_lt_iff_of_ns_eq same).mp smaller)

/-- Whatever the events, readers see the configurations ordered by namespace, and by name within it.
They see them in the order of their keys exactly if none of them is overtaken by another. -/
theorem published_by_key_iff (defaults : RecordKeys) (log : List ConfigEvent) :
    ((after defaults log).view.configs.Pairwise fun a b =>
      a.ns < b.ns ∨ a.ns = b.ns ∧ a.configMap < b.configMap) ∧
    ((after defaults log).view.configs.IsChain (fun a b => a.key ≤ b.key) ↔
      ∀ a ∈ (after defaults log).view.configs, ∀ b ∈ (after defaults log).view.configs,
        ¬ a.IsOvertakenBy b) := by
  have sorted := ConfigTable.pairwise_listed_of_keyed (ConfigTable.keyed_followAll defaults log)
  obtain ⟨-, table, seen, -⟩ := after_eq defaults log
  rw [← table, ← seen] at sorted
  exact ⟨sorted, isChain_key_iff sorted⟩

/-- A listing of `team/types` and `team-a/types` is published in this order, which is not that of the
keys. -/
theorem published_against_keys :
    let declares : NamespaceConfig.Data := [("CLAIM_GVRS", "g/v1/widgets")]
    let listing : List ConfigMap := [⟨"team", "types", declares⟩, ⟨"team-a", "types", declares⟩]
    let r := after ⟨none, none, "comp"⟩ [.restarted listing]
    r.view.configs.map NamespaceConfig.key = ["team/types", "team-a/types"] ∧
      ¬ r.view.configs.IsChain (fun a b => a.key ≤ b.key) := by
  intro declares listing r
  let team : NamespaceConfig := ⟨"team", "types", [⟨"g", "v1", "widgets"⟩], [], none, none⟩
  let teamA : NamespaceConfig := ⟨"team-a", "types", [⟨"g", "v1", "widgets"⟩], [], none, none⟩
  have byKey : r.configs.toList.map Prod.snd = [teamA, team] := by decide +kernel
  have later : ConfigTable.listedBefore teamA team = false := by decide
  have published : r.view.configs = [team, teamA] := by
    have seen : r.view.configs = r.configs.listed := rfl
    rw [seen, ConfigTable.listed, byKey]
    simp [List.mergeSort, List.MergeSort.Internal.splitInTwo, later]
  rw [published]
  decide

end Registry

end ClaimTracker
