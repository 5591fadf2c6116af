import Std.Time.DateTime.Timestamp
import ClaimTracker.Api.Lister
import ClaimTracker.CommandLine.Execution

/-!
# The command

Reads the arguments, the environment and the clock, and shows what comes of them. Without a way to a
cluster or a bucket every request goes unanswered.
-/

namespace ClaimTracker.CommandLine

abbrev Unreachable := Api.Lister Api.Nowhere

/-- The variables that mean something. -/
def variableNames : List String :=
  "HOME" :: (.metricsAddress :: Parameter.shared).filterMap Parameter.variableName?

def readEnvironment : IO Environment := do
  let values ← variableNames.mapM fun name => return (name, ← IO.getEnv name)
  return fun name => (values.lookup name).join

def readClock : IO Instant := do
  let now ← Std.Time.Timestamp.now
  match Instant.ofUnixSeconds? now.toSecondsSinceUnixEpoch.val with
  | some t => return t
  | none => throw (.userError "the clock shows no time")

def readSurroundings : IO (Surroundings Unreachable Bucket.NoLink) := do
  let now ← readClock
  return { source := ⟨⟨⟩⟩, link := ⟨⟩, disk := ∅, feed := .silent, now := fun _ => now, stop := 0 }

/-- Polls until the process is stopped. -/
partial def pollForever (settings : Settings) (followConfigs : Bool)
    (w : Tracker Unreachable (OpenKeep Bucket.NoLink)) : IO Unit := do
  let w := w.poll settings (Execution.configsAt .silent followConfigs 0) (← readClock)
  IO.sleep (UInt32.ofNat (min settings.period 0xFFFFFFFF))
  pollForever settings followConfigs w

def report {β : Type} (outcome : Outcome β) : IO UInt32 := do
  IO.print outcome.text
  for message in outcome.message do
    IO.eprintln ("Error: " ++ message)
  return UInt32.ofNat (outcome.status.getD failure)

def execute (args : List String) : IO UInt32 := do
  let world ← readSurroundings
  match Invocation.ofList (← readEnvironment) args with
  | .error e => report (e.outcome : Outcome Bucket.NoLink)
  | .ok i =>
    match i.task, Execution.openStore world i.keep with
    | .run _ syncWait followConfigs, .ok store =>
      IO.sleep (UInt32.ofNat
        (min (Execution.ready .silent followConfigs syncWait) 0xFFFFFFFF))
      pollForever i.settings followConfigs { source := world.source, store }
      return 0
    | _, _ => report (Execution.ofInvocation world i)

end ClaimTracker.CommandLine

def main (args : List String) : IO UInt32 :=
  ClaimTracker.CommandLine.execute args
