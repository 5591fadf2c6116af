import ClaimTracker.Proofs.Cycle.Report

/-!
# Cycles of a steady source

If what a listing comes to depends on its type and its namespace alone, then so does a cycle: a job
gives the records of those of its scopes that can be listed, and fails for each of the others.
-/

namespace ClaimTracker

namespace Cycle

variable {σ ρ : Type}

namespace Job

variable (answer : ResourceType → Option String → Except Listing.Error (List ClusterObject))

def Succeeds (j : Job) : Prop :=
  ∃ scope ∈ j.scopes, ∃ objects, answer j.type scope.ns = .ok objects

/-- The records of the scopes that can be listed, in the order of the scopes. -/
def listed (convert : ClusterObject → ResourceType → ListingKeys → ρ) (j : Job) : List ρ :=
  j.scopes.flatMap fun scope =>
    match answer j.type scope.ns with
    | .ok objects => objects.map (convert · j.type scope.keys)
    | .error _ => []

/-- One failure for each scope that cannot be listed, in the order of the scopes. -/
def failures (j : Job) : List ListFailure :=
  j.scopes.filterMap fun scope =>
    match answer j.type scope.ns with
    | .ok _ => none
    | .error e => some ⟨j.type.display, scope.ns, e.message⟩

/-- The requests for the first pages of the scopes. -/
def openings (j : Job) : List Listing.Request :=
  j.scopes.map fun scope => ⟨j.type, scope.ns, none, Listing.pageSize⟩

end Job

lemma gather_eq_none_iff {l : List (Option (List ρ))} : gather l = none ↔ ∀ r ∈ l, r = none := by
  simp [gather]

variable [Listing.Source σ] {jobs : List Job} {s : σ}
  {answer : ResourceType → Option String → Except Listing.Error (List ClusterObject)}

lemma scopes_of_mem_visits {v : Visit σ} (h : v ∈ visits jobs s) :
    v.turns.map Turn.scope = v.job.scopes := by
  obtain ⟨-, t, -, heq⟩ := mem_visits h
  rw [heq]
  exact scopes_turns _ _

lemma result_of_mem_turns (steady : Listing.Steady s answer) {v : Visit σ} (h : v ∈ visits jobs s)
    {t : Turn σ} (ht : t ∈ v.turns) :
    t.type = v.job.type ∧ t.outcome.result = answer v.job.type t.scope.ns := by
  obtain ⟨htype, -, u, leads, outcome⟩ := mem_turns_of_mem_visits h ht
  rw [outcome]
  exact ⟨htype, steady.result_eq u leads _ _⟩

lemma records?_of_steady (steady : Listing.Steady s answer) {v : Visit σ} (h : v ∈ visits jobs s)
    (convert : ClusterObject → ResourceType → ListingKeys → ρ) :
    (v.job.Succeeds answer → v.records? convert = some (v.job.listed answer convert)) ∧
      (¬ v.job.Succeeds answer → v.records? convert = none) := by
  have records : ∀ t ∈ v.turns, t.records? convert =
      (answer v.job.type t.scope.ns).toOption.map (·.map (convert · v.job.type t.scope.keys)) := by
    intro t ht
    obtain ⟨htype, result⟩ := result_of_mem_turns steady h ht
    rw [Turn.records?, htype, result]
  constructor
  · rintro ⟨scope, hscope, objects, ok⟩
    rw [← scopes_of_mem_visits h] at hscope
    obtain ⟨t, ht, rfl⟩ := List.mem_map.mp hscope
    have found : some (objects.map (convert · v.job.type t.scope.keys)) ∈
        v.turns.map (Turn.records? convert) :=
      List.mem_map.mpr ⟨t, ht, by rw [records t ht, ok]; rfl⟩
    rw [Visit.records?, gather_of_mem found, Job.listed, ← scopes_of_mem_visits h,
      List.flatMap_map, List.flatMap_map]
    refine congrArg some (List.flatMap_congr fun t ht => ?_)
    rw [records t ht]
    cases answer v.job.type t.scope.ns <;> rfl
  · intro fails
    rw [Visit.records?, gather_eq_none_iff]
    intro r hr
    obtain ⟨t, ht, rfl⟩ := List.mem_map.mp hr
    rw [records t ht]
    cases ha : answer v.job.type t.scope.ns with
    | error e => rfl
    | ok objects =>
      have hscope : t.scope ∈ v.job.scopes := by
        rw [← scopes_of_mem_visits h]
        exact List.mem_map_of_mem ht
      exact absurd ⟨t.scope, hscope, objects, ha⟩ fails

/-- The calls on a table are those of the jobs for it that can list a scope. -/
lemma mem_calls_iff {family : Inventory.Family}
    {convert : ClusterObject → ResourceType → ListingKeys → ρ} (steady : Listing.Steady s answer)
    {c : Table.Call ρ} :
    c ∈ (visits jobs s).filterMap (Visit.call? family convert) ↔
      ∃ j ∈ jobs, j.family = family ∧ j.Succeeds answer ∧
        c = (j.type.display, j.listed answer convert) := by
  rw [List.mem_filterMap]
  constructor
  · rintro ⟨v, hv, call⟩
    rw [Visit.call?] at call
    split at call
    · rename_i hfamily
      obtain ⟨items, gathered, rfl⟩ := Option.map_eq_some_iff.mp call
      obtain ⟨given, nothing⟩ := records?_of_steady steady hv convert
      by_cases succeeds : v.job.Succeeds answer
      · rw [given succeeds] at gathered
        cases gathered
        exact ⟨v.job, (mem_visits hv).1, hfamily, succeeds, rfl⟩
      · rw [nothing succeeds] at gathered
        cases gathered
    · cases call
  · rintro ⟨j, hj, rfl, succeeds, rfl⟩
    have visited : j ∈ (visits jobs s).map Visit.job := by rwa [jobs_visits]
    obtain ⟨v, hv, rfl⟩ := List.mem_map.mp visited
    refine ⟨v, hv, ?_⟩
    rw [Visit.call?, if_pos rfl, (records?_of_steady steady hv convert).1 succeeds]
    rfl

lemma failures_of_steady (steady : Listing.Steady s answer) {v : Visit σ} (h : v ∈ visits jobs s) :
    v.turns.filterMap Turn.failure? = v.job.failures answer := by
  rw [Job.failures, ← scopes_of_mem_visits h, List.filterMap_map]
  refine List.filterMap_congr fun t ht => ?_
  obtain ⟨htype, result⟩ := result_of_mem_turns steady h ht
  rw [Turn.failure?, result, htype]
  rfl

/-- A visit asks for the first page of each scope once. -/
lemma openings_of_steady (steady : Listing.Steady s answer) {v : Visit σ} (h : v ∈ visits jobs s) :
    v.requests.filter (·.token.isNone) = v.job.openings := by
  rw [Job.openings, ← scopes_of_mem_visits h, Visit.requests, List.filter_flatMap, List.map_map,
    List.map_eq_flatMap]
  refine List.flatMap_congr fun t ht => ?_
  obtain ⟨-, -, u, leads, outcome⟩ := mem_turns_of_mem_visits h ht
  rw [Turn.requests, outcome]
  exact Listing.openings_all _ _ (steady.bound_pos u leads)

lemma flatMap_visits {β : Type} {f : Visit σ → List β} {g : Job → List β}
    (h : ∀ v ∈ visits jobs s, f v = g v.job) : (visits jobs s).flatMap f = jobs.flatMap g := by
  calc (visits jobs s).flatMap f
      = (visits jobs s).flatMap fun v => g v.job := List.flatMap_congr h
    _ = ((visits jobs s).map Visit.job).flatMap g := by rw [List.flatMap_map]
    _ = jobs.flatMap g := by rw [jobs_visits]

end Cycle

end ClaimTracker
