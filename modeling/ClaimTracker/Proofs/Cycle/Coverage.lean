import ClaimTracker.Proofs.Cycle.Effects
import ClaimTracker.Proofs.NamespacePlan.Declarations

/-!
# Which partitions a cycle replaces

A cycle replaces partitions of central types and of types declared in it, and no others; one that
comes to its end without a failure replaces all of them. Then it empties the partitions of types
that were declared before and are neither declared now nor central.
-/

namespace ClaimTracker

namespace Action

variable {σ : Type}

def claimCall? (a : Action σ) : Option (Table.Call Claim) :=
  a.replacement?.bind Inventory.Replacement.claimCall?

def compositeCall? (a : Action σ) : Option (Table.Call Composite) :=
  a.replacement?.bind Inventory.Replacement.compositeCall?

end Action

namespace Cycle

/-- The partitions filled on behalf of namespaces, none without configurations. -/
def declaredNow (settings : Settings) : Option (List NamespaceConfig) → DeclaredPartitions
  | none => {}
  | some configs => declared (plan settings configs)

def centralOf (settings : Settings) : Inventory.Family → List String
  | .claims => centralClaims settings
  | .composites => centralComposites settings

def declaredOf (d : DeclaredPartitions) : Inventory.Family → List String
  | .claims => d.claims
  | .composites => d.composites

lemma claimScopes_ne_nil (settings : Settings) : claimScopes settings ≠ [] := by
  unfold claimScopes
  split
  · exact List.cons_ne_nil _ _
  · rename_i namespaces hne
    exact fun h => hne (List.map_eq_nil_iff.mp h)

lemma plannedScopes_ne_nil {settings : Settings} {configs : List NamespaceConfig}
    {p : PlannedClaims} (h : p ∈ (plan settings configs).claims) : plannedScopes p ≠ [] :=
  fun hnil => NamespacePlan.scopes_ne_nil h (List.map_eq_nil_iff.mp hnil)

section Jobs

variable {settings : Settings} {configs : Option (List NamespaceConfig)}

/-- A job is for a central type or for one declared now. -/
lemma display_of_mem_jobs {j : Job} (h : j ∈ jobs settings configs) :
    j.type.display ∈ centralOf settings j.family ∨
      j.type.display ∈ declaredOf (declaredNow settings configs) j.family := by
  rcases List.mem_append.mp h with central | planned
  · rcases List.mem_append.mp central with composite | claim
    · obtain ⟨t, ht, rfl⟩ := List.mem_map.mp composite
      exact Or.inl (List.mem_map_of_mem ht)
    · obtain ⟨t, ht, rfl⟩ := List.mem_map.mp claim
      exact Or.inl (List.mem_map_of_mem ht)
  cases configs with
  | none => cases planned
  | some configs =>
    rcases List.mem_append.mp planned with composite | claim
    · obtain ⟨t, ht, rfl⟩ := List.mem_map.mp composite
      exact Or.inr (List.mem_map.mpr ⟨t, ht, rfl⟩)
    · obtain ⟨p, hp, rfl⟩ := List.mem_map.mp claim
      exact Or.inr (List.mem_map.mpr ⟨p, hp, rfl⟩)

/-- There is a job for every central type and every type declared now. -/
lemma exists_job {family : Inventory.Family} {p : String}
    (h : p ∈ centralOf settings family ∨ p ∈ declaredOf (declaredNow settings configs) family) :
    ∃ j ∈ jobs settings configs, j.family = family ∧ j.type.display = p := by
  rcases h with central | planned
  · cases family with
    | claims =>
      obtain ⟨t, ht, rfl⟩ := List.mem_map.mp central
      exact ⟨_, List.mem_append_left _ (List.mem_append_right _ (List.mem_map_of_mem ht)), rfl, rfl⟩
    | composites =>
      obtain ⟨t, ht, rfl⟩ := List.mem_map.mp central
      exact ⟨_, List.mem_append_left _ (List.mem_append_left _ (List.mem_map_of_mem ht)), rfl, rfl⟩
  cases configs with
  | none => cases family <;> cases planned
  | some configs =>
    cases family with
    | claims =>
      obtain ⟨q, hq, rfl⟩ := List.mem_map.mp planned
      exact ⟨_, List.mem_append_right _ (List.mem_append_right _ (List.mem_map_of_mem hq)), rfl, rfl⟩
    | composites =>
      obtain ⟨q, hq, rfl⟩ := List.mem_map.mp planned
      exact ⟨_, List.mem_append_right _ (List.mem_append_left _ (List.mem_map_of_mem hq)), rfl, rfl⟩

lemma scopes_ne_nil_of_mem_jobs {j : Job} (h : j ∈ jobs settings configs) : j.scopes ≠ [] := by
  rcases List.mem_append.mp h with central | planned
  · rcases List.mem_append.mp central with composite | claim
    · obtain ⟨t, -, rfl⟩ := List.mem_map.mp composite
      exact List.cons_ne_nil _ _
    · obtain ⟨t, -, rfl⟩ := List.mem_map.mp claim
      exact claimScopes_ne_nil settings
  cases configs with
  | none => cases planned
  | some configs =>
    rcases List.mem_append.mp planned with composite | claim
    · obtain ⟨t, -, rfl⟩ := List.mem_map.mp composite
      exact List.cons_ne_nil _ _
    · obtain ⟨p, hp, rfl⟩ := List.mem_map.mp claim
      exact plannedScopes_ne_nil hp

end Jobs

variable {σ : Type} [Listing.Source σ]

def claimCalls (settings : Settings) (configs : Option (List NamespaceConfig)) (s : σ) :
    List (Table.Call Claim) :=
  (listing settings configs s).filterMap Action.claimCall?

def compositeCalls (settings : Settings) (configs : Option (List NamespaceConfig)) (s : σ) :
    List (Table.Call Composite) :=
  (listing settings configs s).filterMap Action.compositeCall?

section Partitions

variable {settings : Settings} {configs : Option (List NamespaceConfig)} {s : σ}

/-- What is replaced is of a central type or of one declared now. -/
lemma partition_of_mem_listing {x : Action σ} {r : Inventory.Replacement}
    (h : x ∈ listing settings configs s) (hr : x.replacement? = some r) :
    r.partition ∈ centralOf settings r.family ∨
      r.partition ∈ declaredOf (declaredNow settings configs) r.family := by
  rcases mem_listing_iff.mp h with job | note
  · obtain ⟨j, hj, s', hx⟩ := mem_of_mem_sequence job
    rcases Job.mem_poll hx with ⟨c, rfl⟩ | ⟨ns, m, rfl⟩ | ⟨-, q, hq, family, partition⟩
    · cases hr
    · cases hr
    · obtain rfl : q = r := Option.some.inj (hq.symm.trans hr)
      rw [family, partition]
      exact display_of_mem_jobs hj
  cases configs with
  | none => cases note
  | some configs =>
    rcases List.mem_cons.mp note with rfl | note
    · cases hr
    · obtain ⟨p, -, rfl⟩ := List.mem_map.mp note
      cases hr

/-- If nothing fails, all central types and all types declared now are replaced. -/
lemma exists_replacement_of_clean (clean : ∀ x ∈ listing settings configs s, isFailure x = false)
    (family : Inventory.Family) {p : String}
    (h : p ∈ centralOf settings family ∨ p ∈ declaredOf (declaredNow settings configs) family) :
    ∃ x ∈ listing settings configs s,
      ∃ r, x.replacement? = some r ∧ r.family = family ∧ r.partition = p := by
  obtain ⟨j, hj, rfl, rfl⟩ := exists_job h
  obtain ⟨s', part⟩ := exists_part_of_mem (f := Job.poll) hj s
  have listed : ∀ x ∈ (j.poll s').actions, x ∈ listing settings configs s :=
    fun x hx => mem_listing_iff.mpr (Or.inl (part x hx))
  obtain ⟨x, hx, r, hr⟩ := Job.exists_replacement (scopes_ne_nil_of_mem_jobs hj)
    fun x hx => clean x (listed x hx)
  exact ⟨x, listed x hx, r, hr⟩

/-- The claims replaced are of central types or of types declared now. -/
lemma partition_of_mem_claimCalls {c : Table.Call Claim} (h : c ∈ claimCalls settings configs s) :
    c.1 ∈ centralClaims settings ∨ c.1 ∈ (declaredNow settings configs).claims := by
  obtain ⟨x, hx, hc⟩ := List.mem_filterMap.mp h
  obtain ⟨r, hr, call⟩ := Option.bind_eq_some_iff.mp hc
  obtain rfl := Inventory.Replacement.claimCall?_eq_some_iff.mp call
  exact partition_of_mem_listing hx hr

/-- The composites replaced are of central types or of types declared now. -/
lemma partition_of_mem_compositeCalls {c : Table.Call Composite}
    (h : c ∈ compositeCalls settings configs s) :
    c.1 ∈ centralComposites settings ∨ c.1 ∈ (declaredNow settings configs).composites := by
  obtain ⟨x, hx, hc⟩ := List.mem_filterMap.mp h
  obtain ⟨r, hr, call⟩ := Option.bind_eq_some_iff.mp hc
  obtain rfl := Inventory.Replacement.compositeCall?_eq_some_iff.mp call
  exact partition_of_mem_listing hx hr

/-- If nothing fails, all claims of central types and of types declared now are replaced. -/
lemma exists_claimCall_of_clean (clean : ∀ x ∈ listing settings configs s, isFailure x = false)
    {p : String}
    (h : p ∈ centralClaims settings ∨ p ∈ (declaredNow settings configs).claims) :
    ∃ c ∈ claimCalls settings configs s, c.1 = p := by
  obtain ⟨x, hx, r, hr, family, rfl⟩ := exists_replacement_of_clean clean .claims h
  cases r with
  | claims p items =>
    have call : x.claimCall? = some (p, items) := by
      rw [Action.claimCall?, hr]
      rfl
    exact ⟨(p, items), List.mem_filterMap.mpr ⟨x, hx, call⟩, rfl⟩
  | composites p items => cases family

/-- If nothing fails, all composites of central types and of types declared now are replaced. -/
lemma exists_compositeCall_of_clean (clean : ∀ x ∈ listing settings configs s, isFailure x = false)
    {p : String}
    (h : p ∈ centralComposites settings ∨ p ∈ (declaredNow settings configs).composites) :
    ∃ c ∈ compositeCalls settings configs s, c.1 = p := by
  obtain ⟨x, hx, r, hr, family, rfl⟩ := exists_replacement_of_clean clean .composites h
  cases r with
  | claims p items => cases family
  | composites p items =>
    have call : x.compositeCall? = some (p, items) := by
      rw [Action.compositeCall?, hr]
      rfl
    exact ⟨(p, items), List.mem_filterMap.mpr ⟨x, hx, call⟩, rfl⟩

end Partitions

end Cycle

end ClaimTracker
