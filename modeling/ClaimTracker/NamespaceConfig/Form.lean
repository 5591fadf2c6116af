import ClaimTracker.Json.Form
import ClaimTracker.NamespaceConfig

/-!
# Namespace configurations as JSON

The fields of a namespace configuration in a document. Only the two annotation keys may be missing,
and only from an object; an array has all six. A resource type is a record of its three names, all of
which must be there.
-/

namespace ClaimTracker

open ClaimTracker.Json (Form Reader)

inductive ResourceTypeField where
  | group | version | resource
deriving DecidableEq, Repr

namespace ResourceTypeField

def all : List ResourceTypeField := [group, version, resource]

def label : ResourceTypeField → String
  | group => "group"
  | version => "version"
  | resource => "resource"

def form : Form ResourceTypeField fun _ => String where
  field? name := all.find? fun k => k.label == name
  fields := all
  name := label
  read _ := Reader.text
  default? _ := none
  mem_fields k := by cases k <;> decide

end ResourceTypeField

def ResourceType.reader : Reader ResourceType :=
  Reader.map (fun v => ⟨v .group, v .version, v .resource⟩) ResourceTypeField.form.record

inductive NamespaceConfigField where
  | ns | configMap | claimTypes | compositeTypes | creatorKey | teamKey
deriving DecidableEq, Repr

namespace NamespaceConfigField

abbrev Value : NamespaceConfigField → Type
  | ns | configMap => String
  | claimTypes | compositeTypes => List ResourceType
  | creatorKey | teamKey => Option String

def all : List NamespaceConfigField :=
  [ns, configMap, claimTypes, compositeTypes, creatorKey, teamKey]

def label : NamespaceConfigField → String
  | ns => "namespace"
  | configMap => "config_map"
  | claimTypes => "claim_gvrs"
  | compositeTypes => "xr_gvrs"
  | creatorKey => "creator_annotation_key"
  | teamKey => "team_annotation_key"

def read : (k : NamespaceConfigField) → Reader (Value k)
  | ns | configMap => Reader.text
  | claimTypes | compositeTypes => Reader.list ResourceType.reader
  | creatorKey | teamKey => Reader.optional Reader.text

/-- What a missing field stands for. -/
def default? : (k : NamespaceConfigField) → Option (Value k)
  | creatorKey | teamKey => some none
  | ns | configMap | claimTypes | compositeTypes => none

/-- The form of a namespace configuration. -/
def form : Form NamespaceConfigField Value where
  field? name := all.find? fun k => k.label == name
  fields := all
  name := label
  read := read
  default? := default?
  mayTrail _ := false
  mem_fields k := by cases k <;> decide

end NamespaceConfigField

def NamespaceConfig.reader : Reader NamespaceConfig :=
  Reader.map (fun v =>
    { ns := v .ns, configMap := v .configMap, claimTypes := v .claimTypes,
      compositeTypes := v .compositeTypes, creatorKey := v .creatorKey, teamKey := v .teamKey })
    NamespaceConfigField.form.record

end ClaimTracker
