import ClaimTracker.Metadata
import ClaimTracker.Record
import ClaimTracker.Settings

/-!
# Objects of the cluster

A listed object has metadata of a fixed form and is free otherwise. `claim` and `composite` turn an
object into a record. An object is ready when the first of its conditions of type `Ready` has the
status `true` in any case.
-/

namespace ClaimTracker

open ClaimTracker.Json (Reader)
open ClaimTracker.Json.Reader (Step)

structure ClusterObject where
  /-- The kind, known only where the object states both its kind and its API version, each once. -/
  kind : Option String
  metadata : Metadata
  data : Json

namespace ClusterObject

/-- The text of a member, if there is one of that name and no second. -/
def onlyText? (members : List (String × Json)) (name : String) : Option String :=
  match members.filter (·.1 == name) with
  | [(_, j)] => j.text?
  | _ => none

/-- What has been read of an object: its metadata, and the other members, the last first. -/
structure Parts where
  metadata : Option Metadata := none
  others : List (String × Json) := []

/-- Takes in a member, in the value of which `depth` brackets may open. -/
def Parts.step (depth : Nat) : Step Parts := fun p name =>
  if name = "metadata" then
    if p.metadata.isSome then Step.repeated name
    else Step.take (Metadata.reader depth) fun m => { p with metadata := some m }
  else Step.take (Reader.value depth) fun j => { p with others := (name, j) :: p.others }

/-- The object made of its parts. Metadata may be missing. -/
def Parts.object (p : Parts) : ClusterObject where
  kind := (onlyText? p.others "apiVersion").bind fun _ => onlyText? p.others "kind"
  metadata := p.metadata.getD {}
  data := .object p.others.reverse

/-- Reads an object, in which `depth` brackets may open. -/
def reader (depth : Nat) : Reader ClusterObject :=
  Reader.map Parts.object (Reader.object (Parts.step (depth - 1)) {})

def ofJson? (j : Json) : Option ClusterObject :=
  (Json.document (reader j.tokens.length) j.tokens).toOption

def ns (o : ClusterObject) : String := o.metadata.ns.getD ""

def name (o : ClusterObject) : String := o.metadata.name.getD ""

/-- The stated kind, or the one that the name of the resource type suggests. -/
def kindFor (o : ClusterObject) (t : ResourceType) : String :=
  match o.kind with
  | some kind => if kind.isEmpty then ResourceType.suggestedKind t.resource else kind
  | none => ResourceType.suggestedKind t.resource

def follow (j : Json) (path : List String) : Option Json :=
  path.foldlM Json.get? j

def textAt (j : Json) (path : List String) : Option String :=
  (follow j path).bind Json.text?

/-- The first condition of type `Ready`. -/
def readyCondition? (o : ClusterObject) : Option Json :=
  ((follow o.data ["status", "conditions"]).bind Json.array?).bind fun conditions =>
    conditions.find? fun c => textAt c ["type"] == some "Ready"

/-- Whether a status is `true` in any case of its letters. -/
def isTrue (status : String) : Bool :=
  status.toList.map Char.toLower == ['t', 'r', 'u', 'e']

def ready (o : ClusterObject) : Bool :=
  match o.readyCondition? with
  | some c => isTrue ((textAt c ["status"]).getD "")
  | none => false

def reason (o : ClusterObject) : String :=
  ((o.readyCondition?).bind fun c => textAt c ["reason"]).getD ""

/-- The annotation under a key, unless the key or the annotation is empty. -/
def annotationFor? (o : ClusterObject) (key : Option String) : Option String := do
  let key ← key
  if key.isEmpty then none
  let value ← o.metadata.annotations.lookup key
  if value.isEmpty then none else some value

def claim (o : ClusterObject) (t : ResourceType) (keys : ListingKeys) : Claim where
  partition := t.display
  group := t.group
  kind := o.kindFor t
  ns := o.ns
  name := o.name
  creator := o.annotationFor? keys.creator
  team := o.annotationFor? keys.team
  composition := ""
  origin := keys.origin
  ready := o.ready
  reason := o.reason
  createdAt := o.metadata.createdAt
  compositeName := (textAt o.data ["spec", "resourceRef", "name"]).getD ""

def composite (o : ClusterObject) (t : ResourceType) (keys : ListingKeys) : Composite where
  partition := t.display
  group := t.group
  kind := o.kindFor t
  ns := o.ns
  name := o.name
  composition :=
    if keys.composition.isEmpty then "" else (o.metadata.labels.lookup keys.composition).getD ""
  origin := keys.origin
  ready := o.ready
  reason := o.reason
  createdAt := o.metadata.createdAt

end ClusterObject

end ClaimTracker
