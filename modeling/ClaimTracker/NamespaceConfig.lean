import ClaimTracker.Settings

/-!
# Namespace configurations

A labelled config map declares resource types on behalf of its namespace. Claims of a declared type
are polled in that namespace only, composites for the whole cluster. `ofData` reads the data of such
a config map; annotation keys that it leaves out or blank are those of the central settings.
-/

namespace ClaimTracker

/-- What one config map declares, with its annotation keys resolved. -/
structure NamespaceConfig where
  ns : String
  configMap : String
  claimTypes : List ResourceType
  compositeTypes : List ResourceType
  creatorKey : Option String
  teamKey : Option String
deriving DecidableEq, Repr

namespace NamespaceConfig

/-- `namespace/name` of the config map. -/
def key (c : NamespaceConfig) : String :=
  c.ns ++ "/" ++ c.configMap

/-- The keys for what is listed on behalf of this configuration. The composition label is always
the central one. -/
def listingKeys (c : NamespaceConfig) (central : RecordKeys) : ListingKeys where
  creator := c.creatorKey
  team := c.teamKey
  composition := central.composition
  origin := .declared

/-- The label of config maps that declare resource types. -/
def labelSelector : String := "xp-tracker.kanzi.io/config=gvrs"

/-- The data fields that hold lists of resource types. -/
inductive Field where
  | claims
  | composites
deriving DecidableEq, Repr

def Field.key : Field → String
  | .claims => "CLAIM_GVRS"
  | .composites => "XR_GVRS"

inductive Error where
  /-- A field holds a malformed list. -/
  | badField (field : Field) (ns name : String) (cause : ResourceType.Error)
  /-- No resource type is declared. -/
  | noTypes (ns name : String)
deriving DecidableEq, Repr

def Error.message : Error → String
  | .badField field ns name cause =>
    "invalid " ++ field.key ++ " in ConfigMap " ++ ns ++ "/" ++ name ++ ": " ++ cause.message
  | .noTypes ns name =>
    "ConfigMap " ++ ns ++ "/" ++ name ++ " must specify at least one of CLAIM_GVRS or XR_GVRS"

/-- The data of a config map. Each key occurs at most once. -/
abbrev Data := List (String × String)

/-- The trimmed value of a key, unless it is missing or blank. -/
def Data.value? (data : Data) (key : String) : Option String :=
  (data.lookup key).bind Text.nonBlank?

/-- The resource types that a field declares; a missing or blank field declares none. -/
def declared (data : Data) (ns name : String) (field : Field) :
    Except Error (List ResourceType) :=
  match data.value? field.key with
  | none => .ok []
  | some raw => (ResourceType.parseList raw).mapError (.badField field ns name)

/-- Reads the data of the config map `name` in namespace `ns`. -/
def ofData (ns name : String) (data : Data) (defaults : RecordKeys) :
    Except Error NamespaceConfig := do
  let claimTypes ← declared data ns name .claims
  let compositeTypes ← declared data ns name .composites
  if claimTypes.isEmpty && compositeTypes.isEmpty then
    throw (.noTypes ns name)
  return {
    ns
    configMap := name
    claimTypes
    compositeTypes
    creatorKey := (data.value? "CREATOR_ANNOTATION_KEY").or defaults.creator
    teamKey := (data.value? "TEAM_ANNOTATION_KEY").or defaults.team }

end NamespaceConfig

end ClaimTracker
