import Mathlib.Data.List.Basic
import Mathlib.Data.List.Induction
import ClaimTracker.Registry

/-!
# What a registry shows

For each key the last event that concerns it decides: an event about the config map itself, or a full
listing, of which the last entry with the key counts. The key has a configuration exactly if that
event leaves one, and readers see it once.
-/

namespace ClaimTracker

section LastWriter

variable {ε α : Type}

/-- The last element of a list that concerns something leaves a value. -/
def LastLeaves (leaves : ε → α → Prop) (concerns : ε → Prop) (l : List ε) (a : α) : Prop :=
  ∃ before e after, l = before ++ e :: after ∧ leaves e a ∧ ∀ d ∈ after, ¬ concerns d

lemma lastLeaves_cons {leaves : ε → α → Prop} {concerns : ε → Prop} {e : ε} {l : List ε} {a : α} :
    LastLeaves leaves concerns (e :: l) a ↔
      LastLeaves leaves concerns l a ∨ leaves e a ∧ ∀ d ∈ l, ¬ concerns d := by
  constructor
  · rintro ⟨before, f, after, heq, left, rest⟩
    cases before with
    | nil =>
      obtain ⟨rfl, rfl⟩ := List.cons.inj heq
      exact Or.inr ⟨left, rest⟩
    | cons b before =>
      obtain ⟨-, rfl⟩ := List.cons.inj heq
      exact Or.inl ⟨before, f, after, rfl, left, rest⟩
  · rintro (⟨before, f, after, rfl, left, rest⟩ | ⟨left, rest⟩)
    · exact ⟨e :: before, f, after, rfl, left, rest⟩
    · exact ⟨[], e, l, rfl, left, rest⟩

/-- If every step leaves a value or else what was there, steps one after the other leave what the last
one that concerns it does, or what was there before all of them. -/
lemma lastLeaves_of_foldl {τ : Type} {step : τ → ε → τ} (found : τ → Option α)
    {leaves : ε → α → Prop} {concerns : ε → Prop}
    (one : ∀ t e a, found (step t e) = some a ↔ leaves e a ∨ ¬ concerns e ∧ found t = some a)
    (t : τ) (l : List ε) (a : α) :
    found (l.foldl step t) = some a ↔
      LastLeaves leaves concerns l a ∨ (∀ e ∈ l, ¬ concerns e) ∧ found t = some a := by
  induction l generalizing t with
  | nil => simp [LastLeaves]
  | cons e l ih =>
    rw [List.foldl_cons, ih, one, lastLeaves_cons, List.forall_mem_cons]
    constructor
    · rintro (later | ⟨rest, here | ⟨spared, kept⟩⟩)
      · exact Or.inl (Or.inl later)
      · exact Or.inl (Or.inr ⟨here, rest⟩)
      · exact Or.inr ⟨⟨spared, rest⟩, kept⟩
    · rintro ((later | ⟨here, rest⟩) | ⟨⟨spared, rest⟩, kept⟩)
      · exact Or.inl later
      · exact Or.inr ⟨rest, Or.inl here⟩
      · exact Or.inr ⟨rest, Or.inr ⟨spared, kept⟩⟩

end LastWriter

/-- The configuration of a config map is known by the key of the config map. -/
lemma ConfigMap.key_of_config {c : ConfigMap} {defaults : RecordKeys} {config : NamespaceConfig}
    (h : c.config defaults = .ok config) : config.key = c.key := by
  simp only [ConfigMap.config, NamespaceConfig.ofData, bind, Except.bind] at h
  split at h
  · cases h
  split at h
  · cases h
  split at h
  · cases h
  · cases h
    rfl

namespace ConfigMap

/-- The config map has a key, and its data are a configuration. -/
def Declares (defaults : RecordKeys) (k : String) (c : ConfigMap) (config : NamespaceConfig) : Prop :=
  c.key = k ∧ c.config defaults = .ok config

end ConfigMap

namespace ConfigEvent

/-- The event decides what a key stands for: it is about the config map of this key, or about all. -/
def Concerns (k : String) : ConfigEvent → Prop
  | .applied c | .deleted c => c.key = k
  | .restarted _ => True

/-- The event leaves a configuration under a key. In a full listing the last entry with the key
counts. -/
def Leaves (defaults : RecordKeys) (k : String) : ConfigEvent → NamespaceConfig → Prop
  | .applied c, config => c.Declares defaults k config
  | .deleted _, _ => False
  | .restarted l, config => LastLeaves (ConfigMap.Declares defaults k) (·.key = k) l config

/-- The last event of a log that concerns a key leaves a configuration under it. -/
def LeftBy (defaults : RecordKeys) (log : List ConfigEvent) (k : String) (config : NamespaceConfig) :
    Prop :=
  LastLeaves (Leaves defaults k) (Concerns k) log config

end ConfigEvent

namespace ConfigTable

variable {defaults : RecordKeys} {t : ConfigTable} {k : String} {config : NamespaceConfig}

lemma getElem?_upsert (defaults : RecordKeys) (t : ConfigTable) (c : ConfigMap) (k : String) :
    (t.upsert defaults c)[k]? = if c.key = k then (c.config defaults).toOption else t[k]? := by
  rw [upsert]
  cases c.config defaults with
  | ok config =>
    rw [Std.ExtTreeMap.getElem?_insert]
    simp [Std.LawfulEqCmp.compare_eq_iff_eq, Except.toOption]
  | error e =>
    rw [Std.ExtTreeMap.getElem?_erase]
    simp [Std.LawfulEqCmp.compare_eq_iff_eq, Except.toOption]

lemma getElem?_upsert_eq_some_iff (defaults : RecordKeys) (k : String) (t : ConfigTable)
    (c : ConfigMap) (config : NamespaceConfig) :
    (t.upsert defaults c)[k]? = some config ↔
      c.Declares defaults k config ∨ c.key ≠ k ∧ t[k]? = some config := by
  rw [getElem?_upsert, ConfigMap.Declares]
  by_cases same : c.key = k
  · cases c.config defaults <;> simp [same, Except.toOption]
  · simp [same]

lemma getElem?_follow_eq_some_iff (defaults : RecordKeys) (k : String) (t : ConfigTable)
    (e : ConfigEvent) (config : NamespaceConfig) :
    (t.follow defaults e)[k]? = some config ↔
      e.Leaves defaults k config ∨ ¬ e.Concerns k ∧ t[k]? = some config := by
  cases e with
  | applied c => exact getElem?_upsert_eq_some_iff defaults k t c config
  | deleted c =>
    rw [follow, Std.ExtTreeMap.getElem?_erase]
    by_cases same : c.key = k <;>
      simp [ConfigEvent.Leaves, ConfigEvent.Concerns, Std.LawfulEqCmp.compare_eq_iff_eq, same]
  | restarted l =>
    have listed := lastLeaves_of_foldl (fun t : ConfigTable => t[k]?)
      (getElem?_upsert_eq_some_iff defaults k) ∅ l config
    rw [follow, listed]
    simp [ConfigEvent.Leaves, ConfigEvent.Concerns]

/-- What the table holds after events on the empty one. -/
lemma getElem?_followAll (log : List ConfigEvent) (config : NamespaceConfig) :
    (log.foldl (follow defaults) ∅ : ConfigTable)[k]? = some config ↔
      ConfigEvent.LeftBy defaults log k config := by
  have followed := lastLeaves_of_foldl (fun t : ConfigTable => t[k]?)
    (getElem?_follow_eq_some_iff defaults k) ∅ log config
  rw [followed]
  simp [ConfigEvent.LeftBy]

def Keyed (t : ConfigTable) : Prop :=
  ∀ (k : String) (config : NamespaceConfig), t[k]? = some config → config.key = k

lemma keyed_followAll (defaults : RecordKeys) (log : List ConfigEvent) :
    Keyed (log.foldl (follow defaults) ∅) := by
  have declared : ∀ (c : ConfigMap) (k : String) (config : NamespaceConfig),
      c.Declares defaults k config → config.key = k :=
    fun c k config h => (ConfigMap.key_of_config h.2).trans h.1
  intro k config h
  obtain ⟨-, e, -, -, left, -⟩ := (getElem?_followAll log config).mp h
  cases e with
  | applied c => exact declared c k config left
  | deleted c => exact left.elim
  | restarted l =>
    obtain ⟨-, c, -, -, entry, -⟩ := left
    exact declared c k config entry

lemma mem_listed : config ∈ t.listed ↔ ∃ k : String, t[k]? = some config := by
  simp [listed]

lemma length_listed (t : ConfigTable) : t.listed.length = t.size := by
  rw [listed, List.length_mergeSort, List.length_map, Std.ExtTreeMap.length_toList]

/-- Of one key at most one configuration is listed. -/
lemma nodup_listed (keyed : t.Keyed) : (t.listed.map NamespaceConfig.key).Nodup := by
  have keys : (t.toList.map Prod.snd).map NamespaceConfig.key = t.keys := by
    rw [List.map_map, ← Std.ExtTreeMap.map_fst_toList_eq_keys]
    refine List.map_congr_left fun p hp => ?_
    exact keyed p.1 p.2 (Std.ExtTreeMap.mem_toList_iff_getElem?_eq_some.mp hp)
  have sorted : (t.listed.map NamespaceConfig.key).Perm t.keys := by
    rw [← keys]
    exact (List.mergeSort_perm _ _).map _
  exact sorted.nodup_iff.mpr Std.ExtTreeMap.nodup_keys

end ConfigTable

namespace Registry

def after (defaults : RecordKeys) (log : List ConfigEvent) : Registry :=
  log.foldl apply { defaults }

structure Reflects (defaults : RecordKeys) (log : List ConfigEvent) (r : Registry) : Prop where
  /-- Under each key stands what the last event that concerns it has left. -/
  published : ∀ k config, config ∈ r.view.configs ∧ config.key = k ↔
    ConfigEvent.LeftBy defaults log k config
  /-- No key is seen twice. -/
  nodup : (r.view.configs.map NamespaceConfig.key).Nodup
  /-- Readers count what the registry counts. -/
  length : r.view.configs.length = r.configs.size
  synced : r.view.synced = true ↔ ∃ l, .restarted l ∈ log

lemma after_append_singleton (defaults : RecordKeys) (log : List ConfigEvent) (e : ConfigEvent) :
    after defaults (log ++ [e]) = (after defaults log).apply e :=
  List.foldl_concat _ _ _ _

/-- An event is followed, and its outcome is published whole. -/
lemma apply_eq (r : Registry) (e : ConfigEvent) :
    r.apply e =
      { r with
        configs := r.configs.follow r.defaults e
        view := ⟨(r.configs.follow r.defaults e).listed,
          r.view.synced || e matches .restarted _⟩ } := by
  cases e <;> simp [apply, writes, RegistryView.write]

/-- The registry holds what its log makes of the empty table, and readers see all of it. -/
lemma after_eq (defaults : RecordKeys) (log : List ConfigEvent) :
    (after defaults log).defaults = defaults ∧
      (after defaults log).configs = log.foldl (ConfigTable.follow defaults) ∅ ∧
      (after defaults log).view.configs = (after defaults log).configs.listed ∧
      ((after defaults log).view.synced = true ↔ ∃ l, .restarted l ∈ log) ∧
      (after defaults log).closed = false := by
  induction log using List.reverseRecOn with
  | nil =>
    have nothing : ConfigTable.listed ∅ = [] :=
      List.eq_nil_of_length_eq_zero (ConfigTable.length_listed ∅)
    exact ⟨rfl, rfl, nothing.symm, by simp [after], rfl⟩
  | append_singleton log e ih =>
    obtain ⟨own, table, -, synced, opened⟩ := ih
    rw [after_append_singleton, apply_eq]
    refine ⟨own, ?_, rfl, ?_, opened⟩
    · rw [List.foldl_concat, ← table, own]
    · cases e <;> simp [synced]

/-- After any events a registry shows what they have left. -/
lemma reflects_after (defaults : RecordKeys) (log : List ConfigEvent) :
    Reflects defaults log (after defaults log) := by
  obtain ⟨-, table, seen, synced, -⟩ := after_eq defaults log
  have keyed : (after defaults log).configs.Keyed := by
    rw [table]
    exact ConfigTable.keyed_followAll defaults log
  refine ⟨fun k config => ?_, ?_, ?_, synced⟩
  · rw [seen, ConfigTable.mem_listed, ← ConfigTable.getElem?_followAll, ← table]
    constructor
    · rintro ⟨⟨k', stored⟩, rfl⟩
      rwa [keyed k' config stored]
    · intro stored
      exact ⟨⟨k, stored⟩, keyed k config stored⟩
  · rw [seen]
    exact ConfigTable.nodup_listed keyed
  · rw [seen, ConfigTable.length_listed]

end Registry

end ClaimTracker
