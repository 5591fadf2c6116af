import ClaimTracker.CommandLine.Arguments
import ClaimTracker.Keep.Choice
import ClaimTracker.NamespaceConfig

/-!
# Invocations

An invocation is what a command line asks for: settings, a keep and a task. Values that are blank are
as good as none, except for the composition label, which may be switched off by a blank one, and for
the folder and the region of a bucket, for which the bucket has its own rule.
-/

namespace ClaimTracker.CommandLine

/-- What is to be done. -/
inductive Task where
  /-- Poll on a schedule and serve metrics. -/
  | run (metrics : SocketAddress) (syncWait : Nat) (followConfigs : Bool)
  /-- Poll once and print the inventory. -/
  | snapshot (syncWait : Nat) (followConfigs : Bool)
deriving DecidableEq, Repr

/-- What a command line asks for. -/
structure Invocation where
  format : Format
  settings : Settings
  keep : KeepChoice
  task : Task
deriving DecidableEq, Repr

/-- A list of resource types that is malformed. -/
structure SettingsError where
  field : NamespaceConfig.Field
  cause : ResourceType.Error
deriving DecidableEq, Repr

namespace SettingsError

def subject (e : SettingsError) : String :=
  e.field.key

def message (e : SettingsError) : String :=
  e.subject ++ ": " ++ e.cause.message

end SettingsError

namespace Invocation

/-- Why a command line asks for nothing that can be done. -/
inductive Error where
  | usage (cause : UsageError)
  | settings (cause : SettingsError)
deriving DecidableEq, Repr

/-- Where the metrics are served unless the command line says otherwise. -/
def defaultMetrics : SocketAddress :=
  .v4 [0, 0, 0, 0] 8080

/-- Seconds to wait for a first listing of the config maps unless the command line says otherwise. -/
def defaultSyncWait : Nat := 10

/-- A list of resource types. A missing or blank one is empty. -/
def types (field : NamespaceConfig.Field) (raw : Option String) :
    Except SettingsError (List ResourceType) :=
  match raw.bind Text.nonBlank? with
  | none => .ok []
  | some s => (ResourceType.parseList s).mapError (⟨field, ·⟩)

/-- A path below another, which may be empty. -/
def below (path name : String) : String :=
  if path.isEmpty ∨ path.endsWith "/" then path ++ name else path ++ "/" ++ name

def defaultDatabase (env : Environment) : String :=
  match env "HOME" with
  | some home => below (below home ".xtrack") "snapshot.db"
  | none => "xtrack-snapshot.db"

variable (env : Environment) (a : Arguments)

def settingsOf : Except SettingsError Settings := do
  let claimTypes ← types .claims (a.value? env .claimTypes)
  let compositeTypes ← types .composites (a.value? env .compositeTypes)
  let composition : Option String := a.value? env .composition
  let seconds : Option Nat := a.value? env .pollInterval
  return {
    claimTypes
    compositeTypes
    namespaces := ((a.value? env .namespaces).map Text.commaList).getD []
    keys := {
      creator := (a.value? env .creator).bind Text.nonBlank?
      team := (a.value? env .team).bind Text.nonBlank?
      composition := Text.trimmed (composition.getD RecordKeys.defaultComposition) }
    interval := seconds.getD Settings.defaultIntervalSeconds * Settings.second }

def bucketOf : BucketSettings where
  bucket := ((a.value? env .bucket).bind Text.nonBlank?).getD ""
  folder := (a.value? env .folder).getD BucketSettings.defaultFolder
  region := (a.value? env .region).getD BucketSettings.defaultRegion
  endpoint := (a.value? env .endpoint).bind Text.nonBlank?

def keepOf : KeepChoice :=
  match (a.value? env .keep).getD KeepKind.memory with
  | .memory => .nothing
  | .database =>
    .database (((a.value? env .databasePath).bind Text.nonBlank?).getD (defaultDatabase env))
  | .bucket => .bucket (bucketOf env a)

def taskOf : Task :=
  let syncWait := (a.value? env .syncWait).getD defaultSyncWait
  match a.command with
  | .run =>
    .run ((a.value? env .metricsAddress).getD defaultMetrics) syncWait
      (!a.has .withoutNamespaceConfigs)
  | .snapshot => .snapshot syncWait (a.has .withNamespaceConfigs)

/-- What a command line asks for in an environment. -/
def ofArguments : Except SettingsError Invocation := do
  let settings ← settingsOf env a
  return {
    format := (a.value? env .output).getD Format.human
    settings
    keep := keepOf env a
    task := taskOf env a }

def ofList (args : List String) : Except Error Invocation := do
  let a ← (Arguments.ofList env args).mapError .usage
  (ofArguments env a).mapError .settings

end Invocation

end ClaimTracker.CommandLine
