import ClaimTracker.CommandLine.SocketAddress

/-!
# Parameters and switches

A parameter takes a value, which is read as soon as it is settled that the parameter has it; a switch
takes none. Both are written by their names after two dashes, and some by a letter after one. Most
parameters may also be given by a variable of the environment. A command has parameters and switches of
its own, and takes those that hold for all commands as well.
-/

namespace ClaimTracker.CommandLine

inductive Format where
  | human
  | json
deriving DecidableEq, Repr

def Format.ofName? : String → Option Format
  | "human" => some .human
  | "json" => some .json
  | _ => none

inductive KeepKind where
  | memory
  | database
  | bucket
deriving DecidableEq, Repr

def KeepKind.ofName? : String → Option KeepKind
  | "memory" => some .memory
  | "sqlite" => some .database
  | "s3" => some .bucket
  | _ => none

/-- Why a command line is not carried out. -/
inductive UsageError where
  /-- A parameter has no value, or none of those that it may have. -/
  | invalidValue
  /-- A value cannot be read. -/
  | malformedValue
  | unknownArgument
  | unknownCommand
  /-- A parameter or a switch occurs twice. -/
  | repeatedArgument
  /-- A switch has a value. -/
  | superfluousValue
  | missingCommand
  | help
  | helpForNothing
  | version
deriving DecidableEq, Repr

/-- What takes a value. -/
inductive Parameter where
  | metricsAddress
  | syncWait
  | output
  | claimTypes
  | compositeTypes
  | namespaces
  | creator
  | team
  | composition
  | pollInterval
  | keep
  | databasePath
  | bucket
  | folder
  | region
  | endpoint
deriving DecidableEq, Repr

namespace Parameter

def Value : Parameter → Type
  | .metricsAddress => SocketAddress
  | .syncWait | .pollInterval => Nat
  | .output => Format
  | .keep => KeepKind
  | _ => String

def name : Parameter → String
  | .metricsAddress => "metrics-addr"
  | .syncWait => "sync-wait-secs"
  | .output => "output"
  | .claimTypes => "claim-gvrs"
  | .compositeTypes => "xr-gvrs"
  | .namespaces => "namespaces"
  | .creator => "creator-annotation-key"
  | .team => "team-annotation-key"
  | .composition => "composition-label-key"
  | .pollInterval => "poll-interval"
  | .keep => "store-backend"
  | .databasePath => "sqlite-path"
  | .bucket => "s3-bucket"
  | .folder => "s3-key-prefix"
  | .region => "s3-region"
  | .endpoint => "s3-endpoint"

def letter? : Parameter → Option Char
  | .output => some 'o'
  | _ => none

/-- The variable that gives a parameter where the arguments do not. -/
def variableName? : Parameter → Option String
  | .metricsAddress => some "METRICS_ADDR"
  | .claimTypes => some "CLAIM_GVRS"
  | .compositeTypes => some "XR_GVRS"
  | .namespaces => some "KUBE_NAMESPACE_SCOPE"
  | .creator => some "CREATOR_ANNOTATION_KEY"
  | .team => some "TEAM_ANNOTATION_KEY"
  | .composition => some "COMPOSITION_LABEL_KEY"
  | .pollInterval => some "POLL_INTERVAL_SECONDS"
  | .keep => some "STORE_BACKEND"
  | .databasePath => some "SQLITE_PATH"
  | .bucket => some "S3_BUCKET"
  | .folder => some "S3_KEY_PREFIX"
  | .region => some "S3_REGION"
  | .endpoint => some "S3_ENDPOINT"
  | .syncWait | .output => none

/-- One of a few values, by name. -/
def choice {α : Type} (ofName? : String → Option α) (s : String) : Except UsageError α :=
  (ofName? s).elim (.error .invalidValue) .ok

/-- A value that a text writes. -/
def written {α : Type} (ofText? : String → Option α) (s : String) : Except UsageError α :=
  (ofText? s).elim (.error .malformedValue) .ok

/-- The word above zero that a text writes. -/
def positive? (s : String) : Option Nat :=
  (Text.Decimal.word? s).filter (0 < ·)

/-- Reads the value of a parameter. -/
def read : (p : Parameter) → String → Except UsageError p.Value
  | .metricsAddress => written SocketAddress.ofText?
  | .syncWait => written Text.Decimal.word?
  | .pollInterval => written positive?
  | .output => choice Format.ofName?
  | .keep => choice KeepKind.ofName?
  | .claimTypes | .compositeTypes | .namespaces | .creator | .team | .composition
  | .databasePath | .bucket | .folder | .region | .endpoint => fun s => .ok s

/-- The parameters that hold for all commands. -/
def shared : List Parameter :=
  [.output, .claimTypes, .compositeTypes, .namespaces, .creator, .team, .composition, .pollInterval,
    .keep, .databasePath, .bucket, .folder, .region, .endpoint]

end Parameter

/-- What takes no value. -/
inductive Switch where
  | withNamespaceConfigs
  | withoutNamespaceConfigs
  | help
  | version
deriving DecidableEq, Repr

namespace Switch

def name : Switch → String
  | .withNamespaceConfigs => "with-namespace-configs"
  | .withoutNamespaceConfigs => "no-namespace-configs"
  | .help => "help"
  | .version => "version"

def letter? : Switch → Option Char
  | .help => some 'h'
  | .version => some 'V'
  | _ => none

end Switch

inductive Command where
  /-- Polls on a schedule. -/
  | run
  /-- Polls once and prints the inventory. -/
  | snapshot
deriving DecidableEq, Repr

def Command.ofName? : String → Option Command
  | "run" => some .run
  | "snapshot" => some .snapshot
  | _ => none

/-- The part of a command line before its command, or from there on. -/
inductive Level where
  | top
  | command (c : Command)
deriving DecidableEq, Repr

namespace Level

def parameters : Level → List Parameter
  | .top => Parameter.shared
  | .command .run => [.metricsAddress, .syncWait] ++ Parameter.shared
  | .command .snapshot => .syncWait :: Parameter.shared

def switches : Level → List Switch
  | .top => [.help, .version]
  | .command .run => [.withoutNamespaceConfigs, .help]
  | .command .snapshot => [.withNamespaceConfigs, .help]

end Level

/-- What an argument can name. -/
inductive Named where
  | parameter (p : Parameter)
  | switch (s : Switch)
deriving DecidableEq, Repr

namespace Level

/-- What can be named at a level. -/
def all (level : Level) : List Named :=
  level.parameters.map .parameter ++ level.switches.map .switch

end Level

namespace Named

def name : Named → String
  | .parameter p => p.name
  | .switch s => s.name

def letter? : Named → Option Char
  | .parameter p => p.letter?
  | .switch s => s.letter?

end Named

namespace Level

def byName? (level : Level) (name : String) : Option Named :=
  level.all.find? (·.name == name)

def byLetter? (level : Level) (c : Char) : Option Named :=
  level.all.find? (·.letter? == some c)

end Level

end ClaimTracker.CommandLine
