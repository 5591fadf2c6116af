import ClaimTracker.ResourceType

/-!
# Central settings

The settings name the resource types that are polled for the whole cluster, the namespaces to which
central claims are restricted, the keys under which objects carry their creator, team and
composition, and the time between two cycles. A record is listed either because the central settings
name its resource type or because a namespace declares it: that is its origin.
-/

namespace ClaimTracker

/-- Where the configuration that led to a record came from. -/
inductive Origin where
  | central
  | declared
deriving DecidableEq, Repr, Inhabited

namespace Origin

def all : List Origin := [.central, .declared]

/-- The name in documents and tables. -/
def name : Origin → String
  | .central => "central"
  | .declared => "namespace"

def ofName? : String → Option Origin
  | "central" => some .central
  | "namespace" => some .declared
  | _ => none

@[simp] theorem ofName?_name (o : Origin) : ofName? o.name = some o := by
  cases o <;> rfl

end Origin

/-- The keys under which an object carries facts about itself: two annotations and one label. -/
structure RecordKeys where
  creator : Option String
  team : Option String
  composition : String
deriving DecidableEq, Repr

/-- The label that names an object's composition unless the settings say otherwise. -/
def RecordKeys.defaultComposition : String := "crossplane.io/composition-name"

/-- The keys for one listing, with the origin its records get. -/
structure ListingKeys extends RecordKeys where
  origin : Origin
deriving DecidableEq, Repr

def RecordKeys.central (keys : RecordKeys) : ListingKeys :=
  { keys with origin := .central }

structure Settings where
  claimTypes : List ResourceType
  compositeTypes : List ResourceType
  /-- The namespaces of central claims; none means all. -/
  namespaces : List String
  keys : RecordKeys
  /-- Nanoseconds between the starts of two cycles. -/
  interval : Nat
deriving DecidableEq, Repr

namespace Settings

/-- Nanoseconds in a second. -/
def second : Nat := 1000000000

/-- Seconds between two cycles unless the settings say otherwise. -/
def defaultIntervalSeconds : Nat := 30

inductive Error where
  /-- Cycles would follow one another without a pause. -/
  | zeroInterval
deriving DecidableEq, Repr

def Error.message : Error → String
  | .zeroInterval => "poll interval must be a positive number of seconds"

/-- Refuses an interval of zero. -/
def check (s : Settings) : Except Error Unit :=
  if s.interval = 0 then .error .zeroInterval else .ok ()

end Settings

end ClaimTracker
