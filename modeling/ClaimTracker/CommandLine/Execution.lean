import ClaimTracker.CommandLine.Invocation
import ClaimTracker.Overview
import ClaimTracker.Registry
import ClaimTracker.Schedule

/-!
# Executions

A command carries out what the command line asks for and ends with a status, a text and at most one
message. A one-shot snapshot keeps nothing, so that it never takes the place of a document that a
schedule has kept; it is printed even where listings failed. A schedule starts from the kept document,
or from nothing where that cannot be restored, and ends well when it is told to stop. Told so before
its first cycle, while it waits for the config maps, it is stopped by force.
-/

namespace ClaimTracker.CommandLine

structure ConfigFeed where
  /-- When the config maps have been listed for the first time, in milliseconds. -/
  synced : Option Nat
  configs : Nat → List NamespaceConfig

def ConfigFeed.silent : ConfigFeed where
  synced := none
  configs _ := []

structure Surroundings (σ β : Type) where
  source : σ
  link : β
  disk : Disk
  feed : ConfigFeed
  /-- The moment at a time, in milliseconds. -/
  now : Nat → Instant
  stop : Nat

structure Outcome (β : Type) where
  /-- The status; a command stopped by force has none. -/
  status : Option Nat
  text : String := ""
  message : Option String := none
  keep : Option (OpenKeep β) := none

def success : Nat := 0

def failure : Nat := 1

def misuse : Nat := 2

def versionText : String := "xtrack 0.1.0\n"

/-- The outcome of a command line that is not carried out. Help that is wanted is no failure. -/
def UsageError.outcome {β : Type} : UsageError → Outcome β
  | .help => { status := some success }
  | .version => { status := some success, text := versionText }
  | _ => { status := some misuse }

def Invocation.Error.outcome {β : Type} : Invocation.Error → Outcome β
  | .usage cause => cause.outcome
  | .settings cause => { status := some failure, message := some cause.subject }

namespace Execution

variable {σ β : Type}

/-- When the wait for a first listing of the config maps is over, if there is one. -/
def ready (feed : ConfigFeed) (followConfigs : Bool) (syncWait : Nat) : Nat :=
  if followConfigs then
    let patience := syncWait * 1000
    (feed.synced.map (min patience)).getD patience
  else 0

/-- The configurations at a time, if they are followed. -/
def configsAt (feed : ConfigFeed) (followConfigs : Bool) (time : Nat) :
    Option (List NamespaceConfig) :=
  if followConfigs then some (feed.configs time) else none

def print (format : Format) (now : Instant) (i : Inventory) : String :=
  match format with
  | .human => Overview.tables now i.claimList i.compositeList
  | .json => Overview.document now i.claimList i.compositeList

def partialMessage (failures : Nat) : String :=
  toString failures ++ " list call(s) failed; inventory is partial"

variable [Listing.Source σ] [Bucket.Link β]

def snapshot (world : Surroundings σ β) (i : Invocation) (syncWait : Nat) (followConfigs : Bool) :
    Outcome β :=
  let start := ready world.feed followConfigs syncWait
  let tracker : Tracker σ (OpenKeep β) := { source := world.source, store := .memory ∅ }
  let configs := configsAt world.feed followConfigs start
  let polled := tracker.poll i.settings configs (world.now start)
  let text := print i.format (world.now start) polled.inventory
  match polled.report.failures with
  | [] => { status := some success, text }
  | failures =>
    { status := some failure, text, message := some (partialMessage failures.length) }

def restored (keep : OpenKeep β) : Store (OpenKeep β) :=
  .durable (Durable.restore ⟨∅, keep, Durable.defaultLimit, false⟩).2

def keepOf {κ : Type} : Store κ → Option κ
  | .memory _ => none
  | .durable d => some d.keep

/-- Polls on a schedule, with records in a store, until told to stop. -/
def poll (world : Surroundings σ β) (i : Invocation) (syncWait : Nat) (followConfigs : Bool)
    (store : Store (OpenKeep β)) : Outcome β :=
  let start := ready world.feed followConfigs syncWait
  if world.stop < start then { status := none, keep := keepOf store }
  else
    let tracker : Tracker σ (OpenKeep β) := { source := world.source, store }
    let configs := fun time => configsAt world.feed followConfigs (start + time)
    let now := fun time => world.now (start + time)
    let run := tracker.run i.settings configs now (world.stop - start)
    { status := some success, keep := keepOf run.tracker.store }

def openStore (world : Surroundings σ β) (choice : KeepChoice) :
    Except KeepChoice.Error (Store (OpenKeep β)) := do
  match ← choice.connect world.disk world.link with
  | none => return .memory ∅
  | some keep => return restored keep

def run (world : Surroundings σ β) (i : Invocation) (syncWait : Nat) (followConfigs : Bool) :
    Outcome β :=
  match openStore world i.keep with
  | .error e => { status := some failure, message := some e.message }
  | .ok store => poll world i syncWait followConfigs store

def ofInvocation (world : Surroundings σ β) (i : Invocation) : Outcome β :=
  match i.task with
  | .run _ syncWait followConfigs => run world i syncWait followConfigs
  | .snapshot syncWait followConfigs => snapshot world i syncWait followConfigs

def ofList (world : Surroundings σ β) (env : Environment) (args : List String) : Outcome β :=
  match Invocation.ofList env args with
  | .ok i => ofInvocation world i
  | .error e => e.outcome

end Execution

end ClaimTracker.CommandLine
