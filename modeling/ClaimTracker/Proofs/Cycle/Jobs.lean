import ClaimTracker.Proofs.Cycle.Actions

/-!
# The jobs of a cycle

Listing is one job after the other. Each job polls one type for one of the two tables: it makes
requests, tells of failures, and replaces the partition of the type, which it does if it has scopes
and nothing fails. The central types come before those of namespaces, and composites before claims.
-/

namespace ClaimTracker

namespace Cycle

variable {σ : Type} [Listing.Source σ]

/-- A type to poll: the table that its records go to, and the scopes it is listed in. -/
structure Job where
  family : Inventory.Family
  type : ResourceType
  scopes : List Scope

namespace Job

def poll (j : Job) (s : σ) : Part σ :=
  match j.family with
  | .claims => pollClaims j.type j.scopes s
  | .composites => pollComposites j.type j.scopes s

variable {j : Job} {s : σ}

/-- A job makes requests, tells of failures, and replaces the partition of its type. -/
lemma mem_poll {x : Action σ} (h : x ∈ (j.poll s).actions) :
    (∃ c, x = .call c) ∨ (∃ ns message, x = .listFailed ⟨j.type.display, ns, message⟩) ∨
      x.isListing = true ∧
        ∃ r, x.replacement? = some r ∧ r.family = j.family ∧ r.partition = j.type.display := by
  obtain ⟨family, type, scopes⟩ := j
  cases family with
  | claims =>
    rcases mem_polled h with call | failed | ⟨items, rfl⟩
    · exact Or.inl call
    · exact Or.inr (Or.inl failed)
    · exact Or.inr (Or.inr ⟨rfl, .claims type.display items, rfl, rfl, rfl⟩)
  | composites =>
    rcases mem_polled h with call | failed | ⟨items, rfl⟩
    · exact Or.inl call
    · exact Or.inr (Or.inl failed)
    · exact Or.inr (Or.inr ⟨rfl, .composites type.display items, rfl, rfl, rfl⟩)

lemma isListing_of_mem_poll {x : Action σ} (h : x ∈ (j.poll s).actions) : x.isListing = true := by
  rcases mem_poll h with ⟨_, rfl⟩ | ⟨_, _, rfl⟩ | ⟨listed, -⟩
  · rfl
  · rfl
  · exact listed

/-- A job that has scopes and does not fail replaces the partition of its type. -/
lemma exists_replacement (hne : j.scopes ≠ [])
    (clean : ∀ x ∈ (j.poll s).actions, isFailure x = false) :
    ∃ x ∈ (j.poll s).actions,
      ∃ r, x.replacement? = some r ∧ r.family = j.family ∧ r.partition = j.type.display := by
  obtain ⟨family, type, scopes⟩ := j
  cases family with
  | claims =>
    obtain ⟨items, h⟩ := exists_replaced hne clean
    exact ⟨_, h, .claims type.display items, rfl, rfl, rfl⟩
  | composites =>
    obtain ⟨items, h⟩ := exists_replaced hne clean
    exact ⟨_, h, .composites type.display items, rfl, rfl, rfl⟩

end Job

def centralJobs (settings : Settings) : List Job :=
  settings.compositeTypes.map (⟨.composites, ·, [⟨none, settings.keys.central⟩]⟩) ++
    settings.claimTypes.map (⟨.claims, ·, claimScopes settings⟩)

def plannedJobs (plan : NamespacePlan) : List Job :=
  plan.composites.map (fun (t, keys) => ⟨.composites, t, [⟨none, keys⟩]⟩) ++
    plan.claims.map fun p => ⟨.claims, p.type, plannedScopes p⟩

def jobs (settings : Settings) (configs : Option (List NamespaceConfig)) : List Job :=
  centralJobs settings ++ (configs.map fun configs => plannedJobs (plan settings configs)).getD []

/-- What a cycle notes about its configurations: their number, and the types that are skipped. -/
def notes (settings : Settings) (configs : Option (List NamespaceConfig)) : List (Action σ) :=
  (configs.map fun configs =>
    .configs configs.length :: (plan settings configs).skipped.map .skip).getD []

lemma sequence_centralJobs (settings : Settings) (s : σ) :
    sequence Job.poll (centralJobs settings) s =
      ⟨(centralCompositePart settings s).actions ++ (centralClaimPart settings s).actions,
        (centralClaimPart settings s).source⟩ := by
  rw [centralJobs, sequence_append, sequence_map, sequence_map]
  rfl

lemma sequence_plannedJobs (plan : NamespacePlan) (s : σ) :
    sequence Job.poll (plannedJobs plan) s =
      ⟨(plannedCompositePart plan s).actions ++ (plannedClaimPart plan s).actions,
        (plannedClaimPart plan s).source⟩ := by
  rw [plannedJobs, sequence_append, sequence_map, sequence_map]
  rfl

section Listing

variable {settings : Settings} {configs : Option (List NamespaceConfig)} {s : σ} {x : Action σ}

/-- Listing is what the jobs come to, and the notes about configurations. -/
lemma mem_listing_iff :
    x ∈ listing settings configs s ↔
      x ∈ (sequence Job.poll (jobs settings configs) s).actions ∨ x ∈ notes settings configs := by
  rw [jobs, sequence_append, sequence_centralJobs, listing.eq_def]
  cases configs with
  | none => simp [notes, sequence]
  | some configs =>
    simp only [Option.map_some, Option.getD_some, sequence_plannedJobs, notes, namespaceListing,
      List.mem_append]
    grind

/-- An action before the retirement of types lists something, counts the configurations, or tells of
a type that is skipped. -/
lemma mem_listing (h : x ∈ listing settings configs s) :
    x.isListing = true ∨ (∃ n, x = .configs n) ∨ ∃ p, x = .skip p := by
  rcases mem_listing_iff.mp h with job | note
  · obtain ⟨j, -, s', hx⟩ := mem_of_mem_sequence job
    exact Or.inl (Job.isListing_of_mem_poll hx)
  cases configs with
  | none => cases note
  | some configs =>
    rcases List.mem_cons.mp note with rfl | note
    · exact Or.inr (Or.inl ⟨_, rfl⟩)
    · obtain ⟨p, -, rfl⟩ := List.mem_map.mp note
      exact Or.inr (Or.inr ⟨p, rfl⟩)

end Listing

/-- Nothing before enrichment enriches, publishes, persists or ends the cycle. -/
lemma isPolling_of_mem_polling {settings : Settings} {configs : Option (List NamespaceConfig)}
    {before : DeclaredPartitions} {s : σ} {x : Action σ}
    (h : x ∈ polling settings configs before s) : x.isPolling = true := by
  rcases List.mem_append.mp h with hl | hr
  · rcases mem_listing hl with listed | ⟨n, rfl⟩ | ⟨p, rfl⟩
    · exact Action.isPolling_of_isListing listed
    · rfl
    · rfl
  · rcases mem_retirement hr with ⟨d, rfl⟩ | ⟨p, rfl⟩ | ⟨p, rfl⟩ <;> rfl

end Cycle

end ClaimTracker
