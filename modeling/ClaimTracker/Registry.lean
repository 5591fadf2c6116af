import Std.Data.ExtTreeMap
import ClaimTracker.ConfigMap

/-!
# The registry of namespace configurations

The registry follows events about config maps and publishes the valid configurations as one list,
ordered by namespace and name. A config map whose data are invalid has no configuration, whatever it
had before. Readers see a list and a flag that tells whether there has been a full listing; an event
changes what they see write by write.
-/

namespace ClaimTracker

/-- What readers see. -/
structure RegistryView where
  configs : List NamespaceConfig := []
  /-- Whether there has been a full listing. -/
  synced : Bool := false
deriving DecidableEq, Repr

/-- A change that readers see. -/
inductive RegistryWrite where
  | sync
  | publish (configs : List NamespaceConfig)
deriving DecidableEq, Repr

def RegistryView.write (v : RegistryView) : RegistryWrite → RegistryView
  | .sync => { v with synced := true }
  | .publish configs => { v with configs }

/-- Configurations by the key of their config map. -/
abbrev ConfigTable := Std.ExtTreeMap String NamespaceConfig

namespace ConfigTable

def upsert (defaults : RecordKeys) (t : ConfigTable) (c : ConfigMap) : ConfigTable :=
  match c.config defaults with
  | .ok config => t.insert c.key config
  | .error _ => t.erase c.key

def follow (defaults : RecordKeys) (t : ConfigTable) : ConfigEvent → ConfigTable
  | .applied c => t.upsert defaults c
  | .deleted c => t.erase c.key
  | .restarted l => l.foldl (upsert defaults) ∅

/-- Configurations are listed by namespace, and by the name of their config map within it. -/
def listedBefore (a b : NamespaceConfig) : Bool :=
  ((compare a.ns b.ns).then (compare a.configMap b.configMap)).isLE

/-- The configurations in the order in which they are listed. -/
def listed (t : ConfigTable) : List NamespaceConfig :=
  (t.toList.map Prod.snd).mergeSort listedBefore

end ConfigTable

structure Registry where
  /-- The keys that configurations leave out. -/
  defaults : RecordKeys
  configs : ConfigTable := ∅
  view : RegistryView := {}
  /-- Whether there will be no more events. -/
  closed : Bool := false

namespace Registry

/-- The changes that an event makes to what readers see, given the table after it. -/
def writes (t : ConfigTable) : ConfigEvent → List RegistryWrite
  | .restarted _ => [.sync, .publish t.listed]
  | _ => [.publish t.listed]

def apply (r : Registry) (e : ConfigEvent) : Registry :=
  let configs := r.configs.follow r.defaults e
  { r with configs, view := (writes configs e).foldl .write r.view }

/-- The registry after an event that may come too late. -/
def receive (r : Registry) (e : ConfigEvent) : Registry :=
  if r.closed then r else r.apply e

/-- The registry to which no more events come. -/
def close (r : Registry) : Registry :=
  { r with closed := true }

end Registry

end ClaimTracker
