import ClaimTracker.Instant
import ClaimTracker.Json.Basic
import ClaimTracker.Json.Form
import ClaimTracker.Record

/-!
# Records as JSON

The fields of claims and composites in documents, in their order. Writing leaves out a creator and a
team that are not set; reading lets every field be missing that has a natural default.
-/

namespace ClaimTracker

open ClaimTracker.Json (Form Reader)

def Origin.reader : Reader Origin :=
  Reader.choice Origin.ofName? (Origin.all.map Origin.name)

inductive ClaimField where
  | gvr | group | kind | ns | name | creator | team | composition | source | ready | reason
  | createdAt | xrRef
deriving DecidableEq, Repr

namespace ClaimField

abbrev Value : ClaimField → Type
  | creator | team => Option String
  | source => Origin
  | ready => Bool
  | createdAt => Option Instant
  | gvr | group | kind | ns | name | composition | reason | xrRef => String

def all : List ClaimField :=
  [gvr, group, kind, ns, name, creator, team, composition, source, ready, reason, createdAt, xrRef]

def label : ClaimField → String
  | gvr => "gvr"
  | group => "group"
  | kind => "kind"
  | ns => "namespace"
  | name => "name"
  | creator => "creator"
  | team => "team"
  | composition => "composition"
  | source => "source"
  | ready => "ready"
  | reason => "reason"
  | createdAt => "createdAt"
  | xrRef => "xrRef"

def read : (k : ClaimField) → Reader (Value k)
  | creator | team => Reader.optional Reader.text
  | source => Origin.reader
  | ready => Reader.bool
  | createdAt => Reader.optional Reader.instant
  | gvr | group | kind | ns | name | composition | reason | xrRef => Reader.text

/-- What a missing field stands for. -/
def default? : (k : ClaimField) → Option (Value k)
  | creator | team | createdAt => some none
  | composition | reason | xrRef => some ""
  | source | ready | gvr | group | kind | ns | name => none

def form : Form ClaimField Value where
  field? name := all.find? fun k => k.label == name
  fields := all
  name := label
  read := read
  default? := default?
  mem_fields k := by cases k <;> decide

end ClaimField

inductive CompositeField where
  | gvr | group | kind | ns | name | composition | source | ready | reason | createdAt
deriving DecidableEq, Repr

namespace CompositeField

abbrev Value : CompositeField → Type
  | source => Origin
  | ready => Bool
  | createdAt => Option Instant
  | gvr | group | kind | ns | name | composition | reason => String

def all : List CompositeField :=
  [gvr, group, kind, ns, name, composition, source, ready, reason, createdAt]

def label : CompositeField → String
  | gvr => "gvr"
  | group => "group"
  | kind => "kind"
  | ns => "namespace"
  | name => "name"
  | composition => "composition"
  | source => "source"
  | ready => "ready"
  | reason => "reason"
  | createdAt => "createdAt"

def read : (k : CompositeField) → Reader (Value k)
  | source => Origin.reader
  | ready => Reader.bool
  | createdAt => Reader.optional Reader.instant
  | gvr | group | kind | ns | name | composition | reason => Reader.text

def default? : (k : CompositeField) → Option (Value k)
  | createdAt => some none
  | ns | composition | reason => some ""
  | source | ready | gvr | group | kind | name => none

def form : Form CompositeField Value where
  field? name := all.find? fun k => k.label == name
  fields := all
  name := label
  read := read
  default? := default?
  mem_fields k := by cases k <;> decide

end CompositeField

/-- A moment as a text, or null. -/
def Json.ofInstant? (t : Option Instant) : Json :=
  match t with
  | some t => .text t.text
  | none => .null

namespace Claim

def ofFields (v : (k : ClaimField) → k.Value) : Claim where
  partition := v .gvr
  group := v .group
  kind := v .kind
  ns := v .ns
  name := v .name
  creator := v .creator
  team := v .team
  composition := v .composition
  origin := v .source
  ready := v .ready
  reason := v .reason
  createdAt := v .createdAt
  compositeName := v .xrRef

def reader : Reader Claim :=
  Reader.map ofFields ClaimField.form.record

/-- A member that is present only if it is set. -/
def whenSet (k : ClaimField) (s : Option String) : List (String × Json) :=
  match s with
  | some s => [(k.label, .text s)]
  | none => []

def toJson (c : Claim) : Json :=
  .object <|
    [(ClaimField.gvr.label, .text c.partition),
      (ClaimField.group.label, .text c.group),
      (ClaimField.kind.label, .text c.kind),
      (ClaimField.ns.label, .text c.ns),
      (ClaimField.name.label, .text c.name)] ++
    whenSet .creator c.creator ++ whenSet .team c.team ++
    [(ClaimField.composition.label, .text c.composition),
      (ClaimField.source.label, .text c.origin.name),
      (ClaimField.ready.label, .bool c.ready),
      (ClaimField.reason.label, .text c.reason),
      (ClaimField.createdAt.label, Json.ofInstant? c.createdAt),
      (ClaimField.xrRef.label, .text c.compositeName)]

end Claim

namespace Composite

def ofFields (v : (k : CompositeField) → k.Value) : Composite where
  partition := v .gvr
  group := v .group
  kind := v .kind
  ns := v .ns
  name := v .name
  composition := v .composition
  origin := v .source
  ready := v .ready
  reason := v .reason
  createdAt := v .createdAt

def reader : Reader Composite :=
  Reader.map ofFields CompositeField.form.record

def toJson (x : Composite) : Json :=
  .object
    [(CompositeField.gvr.label, .text x.partition),
      (CompositeField.group.label, .text x.group),
      (CompositeField.kind.label, .text x.kind),
      (CompositeField.ns.label, .text x.ns),
      (CompositeField.name.label, .text x.name),
      (CompositeField.composition.label, .text x.composition),
      (CompositeField.source.label, .text x.origin.name),
      (CompositeField.ready.label, .bool x.ready),
      (CompositeField.reason.label, .text x.reason),
      (CompositeField.createdAt.label, Json.ofInstant? x.createdAt)]

end Composite

end ClaimTracker
