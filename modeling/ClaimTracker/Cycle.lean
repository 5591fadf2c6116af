import ClaimTracker.Durable
import ClaimTracker.Listing
import ClaimTracker.NamespacePlan

/-!
# Polling cycles

A cycle is a list of actions that the sources of pages, the settings and the namespace configurations
determine: requests, the replacement of partitions, the retirement of types that no configuration
declares any more, enrichment, publication of the tallies, and persisting, which is left out as soon as
one listing has failed. Running a cycle carries the actions out one after the other; a cycle that is
abandoned has carried out the actions up to some point. A type is replaced as soon as one of its
scopes has been listed, and left alone if none has.
-/

namespace ClaimTracker

structure ListFailure where
  partition : String
  ns : Option String
  message : String
deriving DecidableEq, Repr

structure CycleReport where
  failures : List ListFailure := []
  claims : Nat := 0
  composites : Nat := 0
  /-- The declarations of centrally polled types. -/
  skipped : List String := []
  /-- The types that no configuration declares any more, emptied in this cycle. -/
  retired : List String := []
  persisted : Bool := false
deriving DecidableEq, Repr

def CycleReport.isClean (r : CycleReport) : Bool := r.failures.isEmpty

/-- The partitions that a cycle filled on behalf of namespace configurations. -/
structure DeclaredPartitions where
  claims : List String := []
  composites : List String := []
deriving DecidableEq, Repr

/-- Where records are kept: in memory only, or with a keep. -/
inductive Store (κ : Type) where
  | memory (i : Inventory)
  | durable (d : Durable κ)

namespace Store

variable {κ : Type}

def inventory : Store κ → Inventory
  | .memory i => i
  | .durable d => d.inventory

def modify (f : Inventory → Inventory) : Store κ → Store κ
  | .memory i => .memory (f i)
  | .durable d => .durable { d with inventory := f d.inventory }

end Store

/-- A step of a cycle that is not interrupted. -/
inductive Action (σ : Type) where
  | call (c : Listing.Call σ)
  | listFailed (f : ListFailure)
  | replaceClaims (partition : String) (items : List Claim)
  | replaceComposites (partition : String) (items : List Composite)
  | configs (n : Nat)
  | skip (partition : String)
  /-- The types declared in this cycle take the place of those of the cycle before. -/
  | remember (declared : DeclaredPartitions)
  | retireClaims (partition : String)
  | retireComposites (partition : String)
  | enrich
  | publish
  | persist
  | finish

namespace Cycle

variable {σ : Type} [Listing.Source σ]

/-- Where and with which keys a type is listed. -/
structure Scope where
  ns : Option String
  keys : ListingKeys
deriving DecidableEq, Repr

/-- The actions of a part of a cycle, and the source after it. -/
structure Part (σ : Type) where
  actions : List (Action σ)
  source : σ

/-- The actions of listing a scope, and its records if it could be listed. -/
def listScope {ρ : Type} (type : ResourceType)
    (convert : ClusterObject → ResourceType → ListingKeys → ρ) (scope : Scope) (s : σ) :
    Part σ × Option (List ρ) :=
  let outcome := Listing.all type scope.ns s
  let calls := outcome.calls.map Action.call
  match outcome.result with
  | .ok objects => (⟨calls, outcome.source⟩, some (objects.map (convert · type scope.keys)))
  | .error e =>
    (⟨calls ++ [.listFailed ⟨type.display, scope.ns, e.message⟩], outcome.source⟩, none)

/-- The actions of listing scopes, and the records of those that could be listed, if any could. -/
def listScopes {ρ : Type} (type : ResourceType)
    (convert : ClusterObject → ResourceType → ListingKeys → ρ) :
    List Scope → σ → Part σ × Option (List ρ)
  | [], s => (⟨[], s⟩, none)
  | scope :: scopes, s =>
    let (first, records) := listScope type convert scope s
    let (rest, more) := listScopes type convert scopes first.source
    let joined := match records, more with
      | none, more => more
      | some records, more => some (records ++ more.getD [])
    (⟨first.actions ++ rest.actions, rest.source⟩, joined)

def pollClaims (type : ResourceType) (scopes : List Scope) (s : σ) : Part σ :=
  let (part, records) := listScopes type ClusterObject.claim scopes s
  let replacement := records.toList.map (Action.replaceClaims type.display)
  ⟨part.actions ++ replacement, part.source⟩

def pollComposites (type : ResourceType) (scopes : List Scope) (s : σ) : Part σ :=
  let (part, records) := listScopes type ClusterObject.composite scopes s
  let replacement := records.toList.map (Action.replaceComposites type.display)
  ⟨part.actions ++ replacement, part.source⟩

def sequence {α : Type} (f : α → σ → Part σ) : List α → σ → Part σ
  | [], s => ⟨[], s⟩
  | a :: l, s =>
    let first := f a s
    let rest := sequence f l first.source
    ⟨first.actions ++ rest.actions, rest.source⟩

/-- The scopes of central claims: the namespaces of the settings, or the whole cluster. -/
def claimScopes (settings : Settings) : List Scope :=
  match settings.namespaces with
  | [] => [⟨none, settings.keys.central⟩]
  | namespaces => namespaces.map fun ns => ⟨some ns, settings.keys.central⟩

/-- Polls the central types, composites first. Composites are always listed cluster-wide. -/
def pollCentral (settings : Settings) (s : σ) : Part σ :=
  let composites :=
    sequence (fun t => pollComposites t [⟨none, settings.keys.central⟩]) settings.compositeTypes s
  let claims :=
    sequence (fun t => pollClaims t (claimScopes settings)) settings.claimTypes composites.source
  ⟨composites.actions ++ claims.actions, claims.source⟩

def centralClaims (settings : Settings) : List String :=
  settings.claimTypes.map ResourceType.display

def centralComposites (settings : Settings) : List String :=
  settings.compositeTypes.map ResourceType.display

def plan (settings : Settings) (configs : List NamespaceConfig) : NamespacePlan :=
  .build configs settings.keys (centralClaims settings) (centralComposites settings)

def declared (plan : NamespacePlan) : DeclaredPartitions where
  claims := plan.claims.map fun p => p.type.display
  composites := plan.composites.map fun (t, _) => t.display

/-- The partitions that were declared before and are neither declared now nor central. -/
def undeclared (before now central : List String) : List String :=
  before.filter fun p => !now.contains p && !central.contains p

/-- Retires what was declared before and no longer is. -/
def retire (settings : Settings) (before now : DeclaredPartitions) : List (Action σ) :=
  (undeclared before.claims now.claims (centralClaims settings)).map .retireClaims ++
    (undeclared before.composites now.composites (centralComposites settings)).map
      .retireComposites

/-- Polls what the namespace configurations declare, and retires what they no longer do. -/
def pollNamespaces (settings : Settings) (before : DeclaredPartitions)
    (configs : List NamespaceConfig) (s : σ) : Part σ :=
  let plan := plan settings configs
  let composites :=
    sequence (fun (t, keys) => pollComposites t [⟨none, keys⟩]) plan.composites s
  let claims := sequence (fun (p : PlannedClaims) =>
    pollClaims p.type (p.scopes.map fun (ns, keys) => ⟨some ns, keys⟩)) plan.claims
    composites.source
  ⟨.configs configs.length :: plan.skipped.map .skip ++ composites.actions ++ claims.actions ++
      .remember (declared plan) :: retire settings before (declared plan),
    claims.source⟩

def isFailure : Action σ → Bool
  | .listFailed _ => true
  | _ => false

/-- The actions of a cycle. Without namespace configurations, which is not the same as with none of
them, what was declared before is left alone. -/
def actions (settings : Settings) (configs : Option (List NamespaceConfig))
    (before : DeclaredPartitions) (s : σ) : List (Action σ) :=
  let central := pollCentral settings s
  let namespaces := match configs with
    | some configs => (pollNamespaces settings before configs central.source).actions
    | none => []
  let polled := central.actions ++ namespaces
  polled ++ [.enrich, .publish] ++ (if polled.any isFailure then [] else [.persist]) ++ [.finish]

end Cycle

/-- A tracker at work: where pages come from, where records are kept, and what has been noted. -/
structure Tracker (σ κ : Type) where
  source : σ
  store : Store κ
  metrics : Metrics := ∅
  /-- What the last cycle polled for namespace configurations. -/
  declared : DeclaredPartitions := {}
  /-- Milliseconds that have passed. -/
  clock : Nat := 0
  /-- The requests made, with the time at which each was made. -/
  log : List (Nat × Listing.Request) := []
  /-- The report of the cycle that is running or ran last. -/
  report : CycleReport := {}

namespace Tracker

variable {σ κ : Type}

def inventory (w : Tracker σ κ) : Inventory := w.store.inventory

def modify (w : Tracker σ κ) (f : Inventory → Inventory) : Tracker σ κ :=
  { w with store := w.store.modify f }

def persist [Keep κ] (now : Instant) (w : Tracker σ κ) : Tracker σ κ :=
  match w.store with
  | .memory _ => w
  | .durable d =>
    match d.persist now with
    | (none, d) => { w with store := .durable d }
    | (some result, d) =>
      { w with
        store := .durable d
        metrics := Durable.countPersist w.metrics result
        report := { w.report with persisted := result.isOk } }

def act [Keep κ] (now : Instant) (w : Tracker σ κ) : Action σ → Tracker σ κ
  | .call c =>
    { w with
      source := c.source
      clock := w.clock + c.duration
      log := w.log ++ [(w.clock, c.request)] }
  | .listFailed f =>
    { w with
      metrics := w.metrics.listError f.partition
      report := { w.report with failures := w.report.failures ++ [f] } }
  | .replaceClaims partition items => w.modify (·.replaceClaims partition items)
  | .replaceComposites partition items => w.modify (·.replaceComposites partition items)
  | .configs n => { w with metrics := w.metrics.observeConfigs n }
  | .skip partition =>
    { w with
      metrics := w.metrics.skippedType partition
      report := { w.report with skipped := w.report.skipped ++ [partition] } }
  | .remember declared => { w with declared }
  | .retireClaims partition =>
    let w := w.modify (·.replaceClaims partition [])
    { w with report := { w.report with retired := w.report.retired ++ [partition] } }
  | .retireComposites partition =>
    let w := w.modify (·.replaceComposites partition [])
    { w with report := { w.report with retired := w.report.retired ++ [partition] } }
  | .enrich => w.modify Inventory.enrich
  | .publish =>
    { w with metrics := w.metrics.observeInventory w.inventory.claimList w.inventory.compositeList }
  | .persist => w.persist now
  | .finish =>
    let i := w.inventory
    { w with
      metrics := w.metrics.observeCycle i.claimCount i.compositeCount
      report := { w.report with claims := i.claimCount, composites := i.compositeCount } }

def perform [Keep κ] (now : Instant) (w : Tracker σ κ) (l : List (Action σ)) : Tracker σ κ :=
  l.foldl (act now) w

variable [Listing.Source σ]

def begin (w : Tracker σ κ) : Tracker σ κ :=
  { w with report := {} }

def nextActions (settings : Settings) (configs : Option (List NamespaceConfig))
    (w : Tracker σ κ) : List (Action σ) :=
  Cycle.actions settings configs w.declared w.source

def poll [Keep κ] (settings : Settings) (configs : Option (List NamespaceConfig)) (now : Instant)
    (w : Tracker σ κ) : Tracker σ κ :=
  w.begin.perform now (w.nextActions settings configs)

end Tracker

end ClaimTracker
