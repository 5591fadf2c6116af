import ClaimTracker.Cycle
import ClaimTracker.Proofs.Inventory.Replacement

/-!
# The actions of a cycle

A cycle lists and replaces, then remembers what it listed for namespaces and retires what is no
longer declared, and only then enriches, publishes and persists. The parts are given names here,
with what can be an action of each. A type that is listed in at least one scope and in none without
success is replaced.
-/

namespace ClaimTracker

namespace Action

variable {σ : Type}

def failure? : Action σ → Option ListFailure
  | .listFailed f => some f
  | _ => none

/-- The replacement that an action makes. A type is retired by a replacement without items. -/
def replacement? : Action σ → Option Inventory.Replacement
  | .replaceClaims p items => some (.claims p items)
  | .replaceComposites p items => some (.composites p items)
  | .retireClaims p => some (.claims p [])
  | .retireComposites p => some (.composites p [])
  | _ => none

/-- Whether an action is part of listing types: a request, its failure, or the replacement of what
was listed. -/
def isListing : Action σ → Bool
  | .call _ | .listFailed _ | .replaceClaims _ _ | .replaceComposites _ _ => true
  | _ => false

def isPolling : Action σ → Bool
  | .enrich | .publish | .persist | .finish => false
  | _ => true

lemma isPolling_of_isListing {a : Action σ} (h : a.isListing = true) : a.isPolling = true := by
  cases a <;> first | rfl | cases h

end Action

namespace Cycle

variable {σ : Type}

lemma isFailure_eq (a : Action σ) : isFailure a = a.failure?.isSome := by
  cases a <;> rfl

/-- An action of a sequence is an action of one of its elements. -/
lemma mem_of_mem_sequence {α : Type} {f : α → σ → Part σ} {l : List α} {s : σ} {x : Action σ}
    (h : x ∈ (sequence f l s).actions) : ∃ a ∈ l, ∃ s', x ∈ (f a s').actions := by
  induction l generalizing s with
  | nil => cases h
  | cons a l ih =>
    rcases List.mem_append.mp h with first | rest
    · exact ⟨a, List.mem_cons_self, s, first⟩
    · obtain ⟨b, hb, s', hx⟩ := ih rest
      exact ⟨b, List.mem_cons_of_mem a hb, s', hx⟩

/-- Every element of a sequence has its part in it. -/
lemma exists_part_of_mem {α : Type} {f : α → σ → Part σ} {l : List α} {a : α} (h : a ∈ l) (s : σ) :
    ∃ s', ∀ x ∈ (f a s').actions, x ∈ (sequence f l s).actions := by
  induction l generalizing s with
  | nil => cases h
  | cons b l ih =>
    rcases List.mem_cons.mp h with rfl | h
    · exact ⟨s, fun x hx => List.mem_append_left _ hx⟩
    · obtain ⟨s', hs⟩ := ih h (f b s).source
      exact ⟨s', fun x hx => List.mem_append_right _ (hs x hx)⟩

lemma sequence_append {α : Type} (f : α → σ → Part σ) (l m : List α) (s : σ) :
    sequence f (l ++ m) s =
      ⟨(sequence f l s).actions ++ (sequence f m (sequence f l s).source).actions,
        (sequence f m (sequence f l s).source).source⟩ := by
  induction l generalizing s with
  | nil => rfl
  | cons a l ih => simp only [List.cons_append, sequence, ih, List.append_assoc]

lemma sequence_map {α β : Type} (f : β → σ → Part σ) (g : α → β) (l : List α) (s : σ) :
    sequence f (l.map g) s = sequence (fun a => f (g a)) l s := by
  induction l generalizing s with
  | nil => rfl
  | cons a l ih => simp only [List.map_cons, sequence, ih]

/-- The retirement of types, with the note of what is declared now. -/
def retirement (settings : Settings) (configs : Option (List NamespaceConfig))
    (before : DeclaredPartitions) : List (Action σ) :=
  match configs with
  | none => []
  | some configs =>
    .remember (declared (plan settings configs)) ::
      retire settings before (declared (plan settings configs))

lemma mem_retirement {settings : Settings} {configs : Option (List NamespaceConfig)}
    {before : DeclaredPartitions} {x : Action σ} (h : x ∈ retirement settings configs before) :
    (∃ d, x = .remember d) ∨ (∃ p, x = .retireClaims p) ∨ ∃ p, x = .retireComposites p := by
  cases configs with
  | none => cases h
  | some configs =>
    simp only [retirement, retire, List.mem_cons, List.mem_append, List.mem_map] at h
    rcases h with rfl | ⟨p, -, rfl⟩ | ⟨p, -, rfl⟩
    · exact Or.inl ⟨_, rfl⟩
    · exact Or.inr (Or.inl ⟨p, rfl⟩)
    · exact Or.inr (Or.inr ⟨p, rfl⟩)

variable [Listing.Source σ]

section Scopes

variable {ρ : Type} {type : ResourceType} {convert : ClusterObject → ResourceType → ListingKeys → ρ}

lemma mem_listScope {scope : Scope} {s : σ} {x : Action σ}
    (h : x ∈ (listScope type convert scope s).1.actions) :
    (∃ c, x = .call c) ∨ ∃ message, x = .listFailed ⟨type.display, scope.ns, message⟩ := by
  simp only [listScope] at h
  split at h
  · obtain ⟨c, -, rfl⟩ := List.mem_map.mp h
    exact Or.inl ⟨c, rfl⟩
  · rename_i e _
    rcases List.mem_append.mp h with call | failed
    · obtain ⟨c, -, rfl⟩ := List.mem_map.mp call
      exact Or.inl ⟨c, rfl⟩
    · exact Or.inr ⟨e.message, List.mem_singleton.mp failed⟩

lemma mem_listScopes {scopes : List Scope} {s : σ} {x : Action σ}
    (h : x ∈ (listScopes type convert scopes s).1.actions) :
    (∃ c, x = .call c) ∨ ∃ ns message, x = .listFailed ⟨type.display, ns, message⟩ := by
  induction scopes generalizing s with
  | nil => cases h
  | cons scope scopes ih =>
    rcases List.mem_append.mp h with first | rest
    · rcases mem_listScope first with call | ⟨message, failed⟩
      · exact Or.inl call
      · exact Or.inr ⟨scope.ns, message, failed⟩
    · exact ih rest

/-- A scope without records has told of its failure. -/
lemma exists_failure_of_listScope {scope : Scope} {s : σ}
    (h : (listScope type convert scope s).2 = none) :
    ∃ x ∈ (listScope type convert scope s).1.actions, isFailure x = true := by
  revert h
  simp only [listScope]
  split
  · intro h
    cases h
  · intro _
    exact ⟨_, List.mem_append_right _ List.mem_cons_self, rfl⟩

/-- Scopes of which none failed have records, if there are any scopes. -/
lemma listScopes_isSome {scopes : List Scope} {s : σ} (hne : scopes ≠ [])
    (clean : ∀ x ∈ (listScopes type convert scopes s).1.actions, isFailure x = false) :
    (listScopes type convert scopes s).2.isSome = true := by
  cases scopes with
  | nil => exact absurd rfl hne
  | cons scope scopes =>
    simp only [listScopes]
    cases hr : (listScope type convert scope s).2 with
    | some records => rfl
    | none =>
      obtain ⟨x, hx, failed⟩ := exists_failure_of_listScope hr
      have ok := clean x (List.mem_append_left _ hx)
      rw [failed] at ok
      cases ok

/-- Listing and replacing makes requests, tells of failures, and replaces what it has listed. -/
lemma mem_polled {replace : List ρ → Action σ} {scopes : List Scope} {s : σ} {x : Action σ}
    (h : x ∈ (listScopes type convert scopes s).1.actions ++
      (listScopes type convert scopes s).2.toList.map replace) :
    (∃ c, x = .call c) ∨ (∃ ns message, x = .listFailed ⟨type.display, ns, message⟩) ∨
      ∃ items, x = replace items := by
  rcases List.mem_append.mp h with listing | replacement
  · rcases mem_listScopes listing with call | failed
    · exact Or.inl call
    · exact Or.inr (Or.inl failed)
  · obtain ⟨items, -, rfl⟩ := List.mem_map.mp replacement
    exact Or.inr (Or.inr ⟨items, rfl⟩)

lemma exists_replaced {replace : List ρ → Action σ} {scopes : List Scope} {s : σ}
    (hne : scopes ≠ [])
    (clean : ∀ x ∈ (listScopes type convert scopes s).1.actions ++
      (listScopes type convert scopes s).2.toList.map replace, isFailure x = false) :
    ∃ items, replace items ∈ (listScopes type convert scopes s).1.actions ++
      (listScopes type convert scopes s).2.toList.map replace := by
  have listed := listScopes_isSome hne fun x hx => clean x (List.mem_append_left _ hx)
  obtain ⟨items, hi⟩ := Option.isSome_iff_exists.mp listed
  refine ⟨items, List.mem_append_right _ (List.mem_map.mpr ⟨items, ?_, rfl⟩)⟩
  simp [hi]

end Scopes

def centralCompositePart (settings : Settings) (s : σ) : Part σ :=
  sequence (fun t => pollComposites t [⟨none, settings.keys.central⟩]) settings.compositeTypes s

def centralClaimPart (settings : Settings) (s : σ) : Part σ :=
  sequence (fun t => pollClaims t (claimScopes settings)) settings.claimTypes
    (centralCompositePart settings s).source

def plannedCompositePart (plan : NamespacePlan) (s : σ) : Part σ :=
  sequence (fun (t, keys) => pollComposites t [⟨none, keys⟩]) plan.composites s

def plannedScopes (p : PlannedClaims) : List Scope :=
  p.scopes.map fun (ns, keys) => ⟨some ns, keys⟩

def plannedClaimPart (plan : NamespacePlan) (s : σ) : Part σ :=
  sequence (fun p => pollClaims p.type (plannedScopes p)) plan.claims
    (plannedCompositePart plan s).source

def namespaceListing (plan : NamespacePlan) (configs : List NamespaceConfig) (s : σ) :
    List (Action σ) :=
  .configs configs.length :: plan.skipped.map .skip ++ (plannedCompositePart plan s).actions ++
    (plannedClaimPart plan s).actions

/-- The actions of a cycle before the retirement of types. They do not depend on earlier cycles. -/
def listing (settings : Settings) (configs : Option (List NamespaceConfig)) (s : σ) :
    List (Action σ) :=
  (centralCompositePart settings s).actions ++ (centralClaimPart settings s).actions ++
    match configs with
    | none => []
    | some configs =>
      namespaceListing (plan settings configs) configs (centralClaimPart settings s).source

def polling (settings : Settings) (configs : Option (List NamespaceConfig))
    (before : DeclaredPartitions) (s : σ) : List (Action σ) :=
  listing settings configs s ++ retirement settings configs before

/-- A cycle polls, enriches and publishes, and persists unless a listing has failed. -/
lemma actions_eq (settings : Settings) (configs : Option (List NamespaceConfig))
    (before : DeclaredPartitions) (s : σ) :
    actions settings configs before s =
      polling settings configs before s ++ [.enrich, .publish] ++
        (if (polling settings configs before s).any isFailure then [] else [.persist]) ++
          [.finish] := by
  cases configs with
  | none =>
    have polled : polling settings none before s = (pollCentral settings s).actions ++ [] :=
      List.append_nil _
    rw [polled]
    rfl
  | some configs =>
    have polled : polling settings (some configs) before s = (pollCentral settings s).actions ++
        (pollNamespaces settings before configs (pollCentral settings s).source).actions := by
      simp only [polling, listing, retirement, namespaceListing, pollNamespaces, List.append_assoc,
        List.cons_append]
      simp only [pollCentral, List.append_assoc]
      rfl
    rw [polled]
    rfl

end Cycle

end ClaimTracker
