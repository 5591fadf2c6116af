import ClaimTracker.Proofs.Cycle.Jobs
import ClaimTracker.Proofs.Listing.Requests

/-!
# Visits

Each job of a cycle is a visit: its scopes are listed one after the other, of the source as the listings
before have left it, and then the partition of its type is replaced by what the scopes that could be
listed have given, if any could. Every job has its visit and every scope its turn, whatever fails.
-/

namespace ClaimTracker

namespace Cycle

variable {σ : Type}

structure Turn (σ : Type) where
  type : ResourceType
  scope : Scope
  outcome : Listing.Outcome σ

structure Visit (σ : Type) where
  job : Job
  turns : List (Turn σ)

namespace Turn

def failure? (t : Turn σ) : Option ListFailure :=
  match t.outcome.result with
  | .ok _ => none
  | .error e => some ⟨t.type.display, t.scope.ns, e.message⟩

def actions (t : Turn σ) : List (Action σ) :=
  t.outcome.calls.map .call ++ t.failure?.toList.map .listFailed

def requests (t : Turn σ) : List Listing.Request :=
  t.outcome.calls.map Listing.Call.request

def records? {ρ : Type} (convert : ClusterObject → ResourceType → ListingKeys → ρ) (t : Turn σ) :
    Option (List ρ) :=
  t.outcome.result.toOption.map (·.map (convert · t.type t.scope.keys))

end Turn

/-- All records of the scopes that could be listed, if any could. -/
def gather {ρ : Type} (l : List (Option (List ρ))) : Option (List ρ) :=
  if l.any Option.isSome then some (l.flatMap (·.getD [])) else none

namespace Visit

def requests (v : Visit σ) : List Listing.Request :=
  v.turns.flatMap Turn.requests

def Succeeds (v : Visit σ) : Prop :=
  ∃ t ∈ v.turns, ∃ objects, t.outcome.result = .ok objects

/-- The records that a visit gives, if any of its scopes could be listed. -/
def records? {ρ : Type} (convert : ClusterObject → ResourceType → ListingKeys → ρ) (v : Visit σ) :
    Option (List ρ) :=
  gather (v.turns.map (Turn.records? convert))

def replacement? (v : Visit σ) : Option Inventory.Replacement :=
  match v.job.family with
  | .claims => (v.records? ClusterObject.claim).map (.claims v.job.type.display)
  | .composites => (v.records? ClusterObject.composite).map (.composites v.job.type.display)

def actions (v : Visit σ) : List (Action σ) :=
  v.turns.flatMap Turn.actions ++
    match v.job.family with
    | .claims =>
      (v.records? ClusterObject.claim).toList.map (.replaceClaims v.job.type.display)
    | .composites =>
      (v.records? ClusterObject.composite).toList.map (.replaceComposites v.job.type.display)

def call? {ρ : Type} (family : Inventory.Family)
    (convert : ClusterObject → ResourceType → ListingKeys → ρ) (v : Visit σ) :
    Option (Table.Call ρ) :=
  if v.job.family = family then (v.records? convert).map (v.job.type.display, ·) else none

end Visit

lemma gather_cons {ρ : Type} (first : Option (List ρ)) (l : List (Option (List ρ))) :
    gather (first :: l) =
      match first, gather l with
      | none, more => more
      | some records, more => some (records ++ more.getD []) := by
  cases first with
  | none => simp [gather]
  | some records =>
    have rest : l.flatMap (·.getD []) = (gather l).getD [] := by
      rw [gather]
      split
      · rfl
      · rename_i hnone
        refine List.flatMap_eq_nil_iff.mpr fun r hr => ?_
        cases r with
        | none => rfl
        | some found => exact absurd (List.any_eq_true.mpr ⟨_, hr, rfl⟩) hnone
    rw [gather, List.any_cons, Option.isSome_some, Bool.true_or, if_pos rfl, List.flatMap_cons, rest]
    rfl

lemma gather_of_mem {ρ : Type} {l : List (Option (List ρ))} {records : List ρ}
    (h : some records ∈ l) : gather l = some (l.flatMap (·.getD [])) := by
  rw [gather, if_pos (List.any_eq_true.mpr ⟨_, h, rfl⟩)]

namespace Visit

variable {ρ : Type} {convert : ClusterObject → ResourceType → ListingKeys → ρ} {v : Visit σ}

/-- What a visit gives was listed in one of its turns. -/
lemma exists_turn_of_records? {items : List ρ} (h : v.records? convert = some items) {r : ρ}
    (hr : r ∈ items) :
    ∃ t ∈ v.turns, ∃ objects, t.outcome.result = .ok objects ∧
      ∃ o ∈ objects, r = convert o t.type t.scope.keys := by
  rw [records?, gather] at h
  split at h
  · cases h
    obtain ⟨given, hgiven, found⟩ := List.mem_flatMap.mp hr
    obtain ⟨t, ht, rfl⟩ := List.mem_map.mp hgiven
    rw [Turn.records?] at found
    cases result : t.outcome.result with
    | error e =>
      rw [result] at found
      cases found
    | ok objects =>
      rw [result] at found
      obtain ⟨o, ho, rfl⟩ := List.mem_map.mp found
      exact ⟨t, ht, objects, result, o, ho, rfl⟩
  · cases h

/-- A visit that succeeds gives something, if only an empty list. -/
lemma Succeeds.exists_records? (h : v.Succeeds) : ∃ items, v.records? convert = some items := by
  obtain ⟨t, ht, objects, ok⟩ := h
  have found : some (objects.map (convert · t.type t.scope.keys)) ∈
      v.turns.map (Turn.records? convert) :=
    List.mem_map.mpr ⟨t, ht, by rw [Turn.records?, ok]; rfl⟩
  exact ⟨_, gather_of_mem found⟩

end Visit

variable [Listing.Source σ]

namespace Job

def turns (type : ResourceType) : List Scope → σ → List (Turn σ)
  | [], _ => []
  | scope :: scopes, s =>
    let outcome := Listing.all type scope.ns s
    ⟨type, scope, outcome⟩ :: turns type scopes outcome.source

def visit (j : Job) (s : σ) : Visit σ :=
  ⟨j, turns j.type j.scopes s⟩

end Job

def visits : List Job → σ → List (Visit σ)
  | [], _ => []
  | j :: jobs, s => j.visit s :: visits jobs (j.poll s).source

section Scopes

variable {ρ : Type} {type : ResourceType} {convert : ClusterObject → ResourceType → ListingKeys → ρ}

lemma listScope_eq (scope : Scope) (s : σ) :
    let turn : Turn σ := ⟨type, scope, Listing.all type scope.ns s⟩
    listScope type convert scope s =
      (⟨turn.actions, (Listing.all type scope.ns s).source⟩, turn.records? convert) := by
  simp only [listScope, Turn.actions, Turn.failure?, Turn.records?]
  cases (Listing.all type scope.ns s).result with
  | ok objects => simp [Except.toOption]
  | error e => simp [Except.toOption]

lemma listScopes_eq (type : ResourceType)
    (convert : ClusterObject → ResourceType → ListingKeys → ρ) (scopes : List Scope) (s : σ) :
    (listScopes type convert scopes s).1.actions =
        (Job.turns type scopes s).flatMap Turn.actions ∧
      (listScopes type convert scopes s).2 =
        gather ((Job.turns type scopes s).map (Turn.records? convert)) ∧
      Listing.Leads s (listScopes type convert scopes s).1.source := by
  induction scopes generalizing s with
  | nil => exact ⟨rfl, rfl, .refl⟩
  | cons scope scopes ih =>
    obtain ⟨actions, records, leads⟩ := ih (Listing.all type scope.ns s).source
    simp only [listScopes, listScope_eq, Job.turns, List.flatMap_cons, List.map_cons, gather_cons]
    rw [actions, records]
    exact ⟨rfl, rfl, (Listing.leads_all type scope.ns s).trans leads⟩

lemma mem_turns {scopes : List Scope} {s : σ} {t : Turn σ} (h : t ∈ Job.turns type scopes s) :
    t.type = type ∧ t.scope ∈ scopes ∧
      ∃ u, Listing.Leads s u ∧ t.outcome = Listing.all type t.scope.ns u := by
  induction scopes generalizing s with
  | nil => cases h
  | cons scope scopes ih =>
    rcases List.mem_cons.mp h with rfl | rest
    · exact ⟨rfl, List.mem_cons_self, s, .refl, rfl⟩
    · obtain ⟨htype, hscope, u, leads, outcome⟩ := ih rest
      exact ⟨htype, List.mem_cons_of_mem scope hscope, u,
        (Listing.leads_all type scope.ns s).trans leads, outcome⟩

/-- Every scope has its turn, whether others fail or not. -/
lemma scopes_turns (scopes : List Scope) (s : σ) :
    (Job.turns type scopes s).map Turn.scope = scopes := by
  induction scopes generalizing s with
  | nil => rfl
  | cons scope scopes ih => exact congrArg (scope :: ·) (ih _)

end Scopes

section Jobs

lemma poll_eq (j : Job) (s : σ) :
    (j.poll s).actions = (j.visit s).actions ∧ Listing.Leads s (j.poll s).source := by
  obtain ⟨family, type, scopes⟩ := j
  cases family with
  | claims =>
    obtain ⟨actions, records, leads⟩ := listScopes_eq type ClusterObject.claim scopes s
    refine ⟨?_, leads⟩
    show (listScopes type ClusterObject.claim scopes s).1.actions ++
      (listScopes type ClusterObject.claim scopes s).2.toList.map (.replaceClaims type.display) = _
    rw [actions, records]
    rfl
  | composites =>
    obtain ⟨actions, records, leads⟩ := listScopes_eq type ClusterObject.composite scopes s
    refine ⟨?_, leads⟩
    show (listScopes type ClusterObject.composite scopes s).1.actions ++
      (listScopes type ClusterObject.composite scopes s).2.toList.map (.replaceComposites type.display) = _
    rw [actions, records]
    rfl

lemma sequence_poll_eq (jobs : List Job) (s : σ) :
    (sequence Job.poll jobs s).actions = (visits jobs s).flatMap Visit.actions ∧
      Listing.Leads s (sequence Job.poll jobs s).source := by
  induction jobs generalizing s with
  | nil => exact ⟨rfl, .refl⟩
  | cons j jobs ih =>
    obtain ⟨here, leads⟩ := poll_eq j s
    obtain ⟨later, further⟩ := ih (j.poll s).source
    refine ⟨?_, leads.trans further⟩
    rw [visits, List.flatMap_cons, ← here, ← later]
    rfl

lemma visits_append (jobs more : List Job) (s : σ) :
    visits (jobs ++ more) s =
      visits jobs s ++ visits more (sequence Job.poll jobs s).source := by
  induction jobs generalizing s with
  | nil => rfl
  | cons j jobs ih => exact congrArg (j.visit s :: ·) (ih _)

lemma jobs_visits (jobs : List Job) (s : σ) : (visits jobs s).map Visit.job = jobs := by
  induction jobs generalizing s with
  | nil => rfl
  | cons j jobs ih => exact congrArg (j :: ·) (ih _)

lemma mem_visits {jobs : List Job} {s : σ} {v : Visit σ} (h : v ∈ visits jobs s) :
    v.job ∈ jobs ∧ ∃ t, Listing.Leads s t ∧ v = v.job.visit t := by
  induction jobs generalizing s with
  | nil => cases h
  | cons j jobs ih =>
    rcases List.mem_cons.mp h with rfl | rest
    · exact ⟨List.mem_cons_self, s, .refl, rfl⟩
    · obtain ⟨hj, t, leads, heq⟩ := ih rest
      exact ⟨List.mem_cons_of_mem j hj, t, (poll_eq j s).2.trans leads, heq⟩

lemma mem_turns_of_mem_visits {jobs : List Job} {s : σ} {v : Visit σ} (h : v ∈ visits jobs s)
    {t : Turn σ} (ht : t ∈ v.turns) :
    t.type = v.job.type ∧ t.scope ∈ v.job.scopes ∧
      ∃ u, Listing.Leads s u ∧ t.outcome = Listing.all v.job.type t.scope.ns u := by
  obtain ⟨-, u, leads, heq⟩ := mem_visits h
  rw [heq] at ht
  obtain ⟨htype, hscope, u', leads', outcome⟩ := mem_turns ht
  exact ⟨htype, hscope, u', leads.trans leads', outcome⟩

/-- A visit makes requests for the type and the scopes of its job only. -/
lemma mem_requests_of_mem_visits {jobs : List Job} {s : σ} {v : Visit σ} (h : v ∈ visits jobs s)
    {r : Listing.Request} (hr : r ∈ v.requests) :
    r.type = v.job.type ∧ ∃ scope ∈ v.job.scopes, r.ns = scope.ns := by
  obtain ⟨t, ht, requested⟩ := List.mem_flatMap.mp hr
  obtain ⟨c, hc, rfl⟩ := List.mem_map.mp requested
  obtain ⟨-, hscope, u, -, outcome⟩ := mem_turns_of_mem_visits h ht
  rw [outcome] at hc
  obtain ⟨htype, hns, -⟩ := Listing.mem_calls_follow hc
  exact ⟨htype, t.scope, hscope, hns⟩

end Jobs

end Cycle

end ClaimTracker
