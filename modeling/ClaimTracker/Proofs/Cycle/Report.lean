import Mathlib.Data.List.Basic
import ClaimTracker.Proofs.Cycle.Retirement
import ClaimTracker.Proofs.Cycle.Visits

/-!
# What a cycle shows

A cycle visits the central types, notes its configurations, and visits what namespaces declare. Its
requests, its failures and what it replaces are those of its visits, in their order; the types that it
reports as skipped are those of its notes.
-/

namespace ClaimTracker

namespace Action

variable {σ : Type}

def request? : Action σ → Option Listing.Request
  | .call c => some c.request
  | _ => none

def skipped? : Action σ → Option String
  | .skip p => some p
  | _ => none

def retired? : Action σ → Option String
  | .retireClaims p | .retireComposites p => some p
  | _ => none

end Action

namespace Cycle

variable {σ : Type}

lemma mem_notes {settings : Settings} {configs : Option (List NamespaceConfig)} {x : Action σ}
    (h : x ∈ notes settings configs) : (∃ n, x = .configs n) ∨ ∃ p, x = .skip p := by
  cases configs with
  | none => cases h
  | some configs =>
    rcases List.mem_cons.mp h with rfl | skipped
    · exact Or.inl ⟨_, rfl⟩
    · obtain ⟨p, -, rfl⟩ := List.mem_map.mp skipped
      exact Or.inr ⟨p, rfl⟩

namespace Turn

lemma filterMap_actions {β : Type} (f : Action σ → Option β) (t : Turn σ) :
    t.actions.filterMap f =
      t.outcome.calls.filterMap (fun c => f (.call c)) ++
        t.failure?.toList.filterMap fun e => f (.listFailed e) := by
  rw [actions, List.filterMap_append, List.filterMap_map, List.filterMap_map]
  rfl

lemma failures_actions (t : Turn σ) :
    t.actions.filterMap Action.failure? = t.failure?.toList := by
  rw [filterMap_actions]
  simp [Action.failure?]

lemma requests_actions (t : Turn σ) :
    t.actions.filterMap Action.request? = t.requests := by
  rw [filterMap_actions]
  simp [Action.request?, requests]

/-- Listing replaces nothing. -/
lemma replacements_actions (t : Turn σ) :
    t.actions.filterMap Action.replacement? = [] := by
  rw [filterMap_actions]
  simp [Action.replacement?]

end Turn

namespace Visit

lemma filterMap_actions {β : Type} (f : Action σ → Option β) (v : Visit σ) :
    v.actions.filterMap f = (v.turns.flatMap fun t => t.actions.filterMap f) ++
      match v.job.family with
      | .claims => (v.records? ClusterObject.claim).toList.filterMap fun items =>
          f (.replaceClaims v.job.type.display items)
      | .composites => (v.records? ClusterObject.composite).toList.filterMap fun items =>
          f (.replaceComposites v.job.type.display items) := by
  rw [actions, List.filterMap_append, List.filterMap_flatMap]
  cases v.job.family <;> simp only [List.filterMap_map] <;> rfl

lemma failures_actions (v : Visit σ) :
    v.actions.filterMap Action.failure? = v.turns.filterMap Turn.failure? := by
  rw [filterMap_actions, List.filterMap_eq_flatMap_toList Turn.failure?]
  simp only [Turn.failures_actions]
  cases v.job.family <;> simp [Action.failure?]

lemma requests_actions (v : Visit σ) : v.actions.filterMap Action.request? = v.requests := by
  rw [filterMap_actions, requests]
  simp only [Turn.requests_actions]
  cases v.job.family <;> simp [Action.request?]

lemma replacements_actions (v : Visit σ) :
    v.actions.filterMap Action.replacement? = v.replacement?.toList := by
  have listed : (v.turns.flatMap fun t => t.actions.filterMap Action.replacement?) = [] :=
    List.flatMap_eq_nil_iff.mpr fun t _ => t.replacements_actions
  rw [filterMap_actions, listed, replacement?]
  cases v.job.family with
  | claims => cases v.records? ClusterObject.claim <;> rfl
  | composites => cases v.records? ClusterObject.composite <;> rfl

lemma claimCall?_replacement? (v : Visit σ) :
    v.replacement?.bind Inventory.Replacement.claimCall? = v.call? .claims ClusterObject.claim := by
  rw [replacement?, call?]
  cases v.job.family with
  | claims => cases v.records? ClusterObject.claim <;> rfl
  | composites => cases v.records? ClusterObject.composite <;> rfl

lemma compositeCall?_replacement? (v : Visit σ) :
    v.replacement?.bind Inventory.Replacement.compositeCall? =
      v.call? .composites ClusterObject.composite := by
  rw [replacement?, call?]
  cases v.job.family with
  | claims => cases v.records? ClusterObject.claim <;> rfl
  | composites => cases v.records? ClusterObject.composite <;> rfl

end Visit

variable [Listing.Source σ]

section Cycles

variable {settings : Settings} {configs : Option (List NamespaceConfig)} {s : σ}

def namespaceJobs (settings : Settings) (configs : Option (List NamespaceConfig)) : List Job :=
  (configs.map fun configs => plannedJobs (plan settings configs)).getD []

def visitsOf (settings : Settings) (configs : Option (List NamespaceConfig)) (s : σ) :
    List (Visit σ) :=
  visits (jobs settings configs) s

/-- Central types are visited first. -/
lemma visitsOf_eq :
    visitsOf settings configs s = visits (centralJobs settings) s ++
      visits (namespaceJobs settings configs)
        (sequence Job.poll (centralJobs settings) s).source :=
  visits_append _ _ s

lemma listing_eq :
    listing settings configs s =
      (sequence Job.poll (centralJobs settings) s).actions ++ notes settings configs ++
        (sequence Job.poll (namespaceJobs settings configs)
          (sequence Job.poll (centralJobs settings) s).source).actions := by
  rw [sequence_centralJobs, listing.eq_def]
  cases configs with
  | none => simp [notes, namespaceJobs, sequence]
  | some configs =>
    simp only [namespaceJobs, notes, Option.map_some, Option.getD_some, sequence_plannedJobs,
      namespaceListing, List.append_assoc, List.cons_append]

/-- What the visits of a cycle show, the cycle shows, if the notes do not show it. -/
lemma filterMap_listing {β : Type} {f : Action σ → Option β}
    (quiet : ∀ x ∈ notes settings configs, f x = none) :
    (listing settings configs s).filterMap f =
      (visitsOf settings configs s).flatMap fun v => v.actions.filterMap f := by
  rw [listing_eq, List.filterMap_append, List.filterMap_append,
    List.filterMap_eq_nil_iff.mpr quiet, List.append_nil, ← List.filterMap_append, visitsOf_eq,
    ← List.filterMap_flatMap, List.flatMap_append, ← (sequence_poll_eq _ _).1,
    ← (sequence_poll_eq _ _).1]

lemma replacements_listing :
    (listing settings configs s).filterMap Action.replacement? =
      (visitsOf settings configs s).filterMap Visit.replacement? := by
  have quiet : ∀ x ∈ (notes settings configs : List (Action σ)), x.replacement? = none := by
    intro x hx
    rcases mem_notes hx with ⟨n, rfl⟩ | ⟨p, rfl⟩ <;> rfl
  rw [filterMap_listing quiet, List.filterMap_eq_flatMap_toList Visit.replacement?]
  exact congrArg (List.flatMap · _) (funext Visit.replacements_actions)

lemma claimCalls_eq :
    claimCalls settings configs s =
      (visitsOf settings configs s).filterMap (Visit.call? .claims ClusterObject.claim) := by
  calc claimCalls settings configs s
      = ((listing settings configs s).filterMap Action.replacement?).filterMap
          Inventory.Replacement.claimCall? := List.filterMap_filterMap.symm
    _ = (visitsOf settings configs s).filterMap
          fun v => v.replacement?.bind Inventory.Replacement.claimCall? := by
        rw [replacements_listing, List.filterMap_filterMap]
    _ = _ := congrArg (List.filterMap · _) (funext Visit.claimCall?_replacement?)

lemma compositeCalls_eq :
    compositeCalls settings configs s =
      (visitsOf settings configs s).filterMap
        (Visit.call? .composites ClusterObject.composite) := by
  calc compositeCalls settings configs s
      = ((listing settings configs s).filterMap Action.replacement?).filterMap
          Inventory.Replacement.compositeCall? := List.filterMap_filterMap.symm
    _ = (visitsOf settings configs s).filterMap
          fun v => v.replacement?.bind Inventory.Replacement.compositeCall? := by
        rw [replacements_listing, List.filterMap_filterMap]
    _ = _ := congrArg (List.filterMap · _) (funext Visit.compositeCall?_replacement?)

/-- What the end of a cycle does not show, listing and retirement show. -/
lemma filterMap_actions_of_isPolling {β : Type} {f : Action σ → Option β}
    (quiet : ∀ x : Action σ, x.isPolling = false → f x = none) (before : DeclaredPartitions) :
    (actions settings configs before s).filterMap f =
      (listing settings configs s).filterMap f ++
        (retirement settings configs before : List (Action σ)).filterMap f := by
  have closing_quiet : ∀ clean, (closing clean : List (Action σ)).filterMap f = [] := by
    intro clean
    cases clean <;> simp [closing, quiet .publish rfl, quiet .persist rfl, quiet .finish rfl]
  rw [actions_eq_closing, polling, List.filterMap_append, List.filterMap_append,
    List.filterMap_cons_none (quiet _ rfl), closing_quiet, List.append_nil]

/-- Whatever only listings show, the visits of a cycle show. -/
lemma filterMap_actions_of_isListing {β : Type} {f : Action σ → Option β}
    (quiet : ∀ x : Action σ, x.isListing = false → f x = none) (before : DeclaredPartitions) :
    (actions settings configs before s).filterMap f =
      (visitsOf settings configs s).flatMap fun v => v.actions.filterMap f := by
  have notes_quiet : ∀ x ∈ (notes settings configs : List (Action σ)), f x = none := by
    intro x hx
    rcases mem_notes hx with ⟨n, rfl⟩ | ⟨p, rfl⟩ <;> exact quiet _ rfl
  have retirement_quiet :
      (retirement settings configs before : List (Action σ)).filterMap f = [] := by
    refine List.filterMap_eq_nil_iff.mpr fun x hx => ?_
    rcases mem_retirement hx with ⟨d, rfl⟩ | ⟨p, rfl⟩ | ⟨p, rfl⟩ <;> exact quiet _ rfl
  have closing_quiet : ∀ x : Action σ, x.isPolling = false → f x = none := by
    intro x hx
    refine quiet x (Bool.eq_false_iff.mpr fun listed => ?_)
    rw [Action.isPolling_of_isListing listed] at hx
    cases hx
  rw [filterMap_actions_of_isPolling closing_quiet, retirement_quiet, List.append_nil,
    filterMap_listing notes_quiet]

lemma skipped_sequence (jobs : List Job) (s : σ) :
    (sequence Job.poll jobs s).actions.filterMap Action.skipped? = [] := by
  refine List.filterMap_eq_nil_iff.mpr fun x hx => ?_
  obtain ⟨j, -, t, hx⟩ := mem_of_mem_sequence hx
  have listed := Job.isListing_of_mem_poll hx
  cases x <;> first | rfl | cases listed

lemma skipped_actions (before : DeclaredPartitions) :
    (actions settings configs before s).filterMap Action.skipped? =
      (configs.map fun configs => (plan settings configs).skipped).getD [] := by
  have closing_quiet : ∀ x : Action σ, x.isPolling = false → x.skipped? = none := by
    intro x hx
    cases x <;> first | rfl | cases hx
  have retirement_quiet :
      (retirement settings configs before : List (Action σ)).filterMap Action.skipped? = [] := by
    refine List.filterMap_eq_nil_iff.mpr fun x hx => ?_
    rcases mem_retirement hx with ⟨d, rfl⟩ | ⟨p, rfl⟩ | ⟨p, rfl⟩ <;> rfl
  rw [filterMap_actions_of_isPolling closing_quiet, retirement_quiet, List.append_nil, listing_eq,
    List.filterMap_append, List.filterMap_append, skipped_sequence, skipped_sequence,
    List.nil_append, List.append_nil]
  cases configs with
  | none => rfl
  | some configs =>
    rw [notes, Option.map_some, Option.getD_some, List.filterMap_cons_none rfl, List.filterMap_map]
    exact List.filterMap_some

/-- The partitions of a table that a cycle retires, given what was declared before. Without
configurations there are none. -/
def retiredNow (settings : Settings) (configs : Option (List NamespaceConfig))
    (before : DeclaredPartitions) (family : Inventory.Family) : List String :=
  match configs with
  | none => []
  | some _ => undeclared (declaredOf before family)
      (declaredOf (declaredNow settings configs) family) (centralOf settings family)

/-- A cycle retires claims before composites. -/
lemma retired_actions (before : DeclaredPartitions) :
    (actions settings configs before s).filterMap Action.retired? =
      retiredNow settings configs before .claims ++ retiredNow settings configs before .composites := by
  have closing_quiet : ∀ x : Action σ, x.isPolling = false → x.retired? = none := by
    intro x hx
    cases x <;> first | rfl | cases hx
  have listing_quiet : (listing settings configs s).filterMap Action.retired? = [] := by
    refine List.filterMap_eq_nil_iff.mpr fun x hx => ?_
    rcases mem_listing hx with listed | ⟨n, rfl⟩ | ⟨p, rfl⟩
    · cases x <;> first | rfl | cases listed
    · rfl
    · rfl
  rw [filterMap_actions_of_isPolling closing_quiet, listing_quiet, List.nil_append]
  cases configs with
  | none => rfl
  | some configs =>
    rw [retirement, List.filterMap_cons_none rfl, retire, List.filterMap_append, List.filterMap_map,
      List.filterMap_map]
    exact congr (congrArg _ List.filterMap_some) List.filterMap_some

lemma apart_of_mem_retiredNow {before : DeclaredPartitions} {family : Inventory.Family} {p : String}
    (h : p ∈ retiredNow settings configs before family) :
    p ∉ centralOf settings family ∧ p ∉ declaredOf (declaredNow settings configs) family := by
  cases configs with
  | none => cases h
  | some configs =>
    obtain ⟨-, hnow, hcentral⟩ := mem_undeclared.mp h
    exact ⟨hcentral, hnow⟩

end Cycles

end Cycle

open ClaimTracker.Cycle

namespace Tracker

variable {σ κ : Type} [Keep κ]

lemma requests_act (now : Instant) (w : Tracker σ κ) (a : Action σ) :
    (w.act now a).log.map Prod.snd = w.log.map Prod.snd ++ a.request?.toList := by
  cases a with
  | call c => exact List.map_append
  | persist =>
    obtain ⟨store, metrics, persisted, heq, -⟩ := persist_frame now w
    rw [act, heq]
    exact (List.append_nil _).symm
  | _ => exact (List.append_nil _).symm

lemma requests_perform (now : Instant) (w : Tracker σ κ) (l : List (Action σ)) :
    (w.perform now l).log.map Prod.snd = w.log.map Prod.snd ++ l.filterMap Action.request? :=
  perform_appends (fun w : Tracker σ κ => w.log.map Prod.snd) (requests_act now) w l

lemma skipped_act (now : Instant) (w : Tracker σ κ) (a : Action σ) :
    (w.act now a).report.skipped = w.report.skipped ++ a.skipped?.toList := by
  cases a with
  | skip p => rfl
  | persist =>
    obtain ⟨store, metrics, persisted, heq, -⟩ := persist_frame now w
    rw [act, heq]
    exact (List.append_nil _).symm
  | _ => exact (List.append_nil _).symm

lemma skipped_perform (now : Instant) (w : Tracker σ κ) (l : List (Action σ)) :
    (w.perform now l).report.skipped = w.report.skipped ++ l.filterMap Action.skipped? :=
  perform_appends (fun w : Tracker σ κ => w.report.skipped) (skipped_act now) w l

lemma retired_act (now : Instant) (w : Tracker σ κ) (a : Action σ) :
    (w.act now a).report.retired = w.report.retired ++ a.retired?.toList := by
  cases a with
  | retireClaims p => rfl
  | retireComposites p => rfl
  | persist =>
    obtain ⟨store, metrics, persisted, heq, -⟩ := persist_frame now w
    rw [act, heq]
    exact (List.append_nil _).symm
  | _ => exact (List.append_nil _).symm

lemma retired_perform (now : Instant) (w : Tracker σ κ) (l : List (Action σ)) :
    (w.perform now l).report.retired = w.report.retired ++ l.filterMap Action.retired? :=
  perform_appends (fun w : Tracker σ κ => w.report.retired) (retired_act now) w l

variable [Listing.Source σ]

section Poll

variable (settings : Settings) (configs : Option (List NamespaceConfig)) (now : Instant)
  (w : Tracker σ κ)

/-- A cycle makes the replacements of its visits, empties what it retires, and enriches. -/
lemma inventory_poll_eq :
    (w.poll settings configs now).inventory = Inventory.enrich
      ⟨w.inventory.claims.replaceAll
          ((visitsOf settings configs w.source).filterMap
              (Visit.call? .claims ClusterObject.claim) ++
            Table.clearing (retiredNow settings configs w.declared .claims)),
        w.inventory.composites.replaceAll
          ((visitsOf settings configs w.source).filterMap
              (Visit.call? .composites ClusterObject.composite) ++
            Table.clearing (retiredNow settings configs w.declared .composites))⟩ := by
  rw [inventory_poll, ← claimCalls_eq, ← compositeCalls_eq]
  cases configs with
  | none =>
    -- Without configurations it does not matter what was declared before.
    have consistent : Consistent none {} := fun _ => rfl
    exact congrArg Inventory.enrich (replaceAll_polling consistent)
  | some configs =>
    have consistent : Consistent (some configs) w.declared := fun h => by cases h
    exact congrArg Inventory.enrich (replaceAll_polling consistent)

lemma failures_poll_eq :
    (w.poll settings configs now).report.failures =
      (visitsOf settings configs w.source).flatMap fun v => v.turns.filterMap Turn.failure? := by
  have quiet : ∀ x : Action σ, x.isListing = false → x.failure? = none := by
    intro x hx
    cases x <;> first | rfl | cases hx
  rw [poll, nextActions, failures_perform, filterMap_actions_of_isListing quiet]
  exact (List.nil_append _).trans (congrArg (List.flatMap · _) (funext Visit.failures_actions))

lemma requests_poll :
    (w.poll settings configs now).log.map Prod.snd = w.log.map Prod.snd ++
      (visitsOf settings configs w.source).flatMap Visit.requests := by
  have quiet : ∀ x : Action σ, x.isListing = false → x.request? = none := by
    intro x hx
    cases x <;> first | rfl | cases hx
  rw [poll, nextActions, requests_perform, filterMap_actions_of_isListing quiet]
  exact congrArg (_ ++ List.flatMap · _) (funext Visit.requests_actions)

lemma skipped_poll :
    (w.poll settings configs now).report.skipped =
      (configs.map fun configs => (plan settings configs).skipped).getD [] := by
  rw [poll, nextActions, skipped_perform, skipped_actions]
  rfl

lemma retired_poll :
    (w.poll settings configs now).report.retired =
      retiredNow settings configs w.declared .claims ++
        retiredNow settings configs w.declared .composites := by
  rw [poll, nextActions, retired_perform, retired_actions]
  rfl

end Poll

end Tracker

end ClaimTracker
