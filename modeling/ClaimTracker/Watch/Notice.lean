import ClaimTracker.Api.ObjectList
import ClaimTracker.ConfigMap
import ClaimTracker.Json.Form

/-!
# Notices

The answer to a watch tells what happened line by line. A line names the kind of what happened and
shows the object that it happened to, as an object of two members or as an array of the two. Where the
object stands before its kind it is read as a value of any form first, so that numbers out of range and
deep nesting spoil the line even where they would be skipped.
-/

namespace ClaimTracker

namespace Watch

open ClaimTracker.Json (Form Reader)
open ClaimTracker.Json.Reader (Step)

/-- What a line of an answer tells. An object may lack a version. -/
inductive Notice where
  | applied (c : ConfigMap.Versioned)
  | deleted (c : ConfigMap.Versioned)
  /-- The version has moved on. -/
  | bookmark (version : String)
  | error (code : Nat)
deriving DecidableEq, Repr

inductive BookmarkField where
  | version | annotations
deriving DecidableEq, Repr

namespace BookmarkField

abbrev Value : BookmarkField → Type
  | version => String
  | annotations => List (String × String)

def all : List BookmarkField := [version, annotations]

def label : BookmarkField → String
  | version => "resourceVersion"
  | annotations => "annotations"

def read : (k : BookmarkField) → Reader (Value k)
  | version => Reader.text
  | annotations => Metadata.textMap

/-- What a missing field stands for. -/
def default? : (k : BookmarkField) → Option (Value k)
  | version => none
  | annotations => some []

def form : Form BookmarkField Value where
  field? name := all.find? fun k => k.label == name
  fields := all
  name := label
  read := read
  default? := default?
  mem_fields k := by cases k <;> decide

end BookmarkField

/-- What has been read of a bookmark: its version, and the other members. -/
structure Bookmark where
  version : Option String := none
  others : List (String × Json) := []

namespace Bookmark

/-- Takes in a member, in the value of which `depth` brackets may open. -/
def step (depth : Nat) : Step Bookmark := fun b name =>
  if name = "metadata" then
    if b.version.isSome then Step.repeated name
    else Step.take BookmarkField.form.record fun v => { b with version := some (v .version) }
  else Step.take (Reader.value depth) fun j => { b with others := (name, j) :: b.others }

/-- The version of a bookmark that states its kind and its API version, each once. -/
def version? (b : Bookmark) : Option String := do
  let _ ← ClusterObject.onlyText? b.others "apiVersion"
  let _ ← ClusterObject.onlyText? b.others "kind"
  b.version

/-- Reads the version in a bookmark, in which `depth` brackets may open. -/
def reader (depth : Nat) : Reader String := fun l => do
  let (b, l) ← Reader.object (step (depth - 1)) {} l
  match b.version? with
  | some version => .ok (version, l)
  | none => .error (.mismatch none)

end Bookmark

inductive ErrorField where
  | status | message | reason | code
deriving DecidableEq, Repr

namespace ErrorField

abbrev Value : ErrorField → Type
  | status | message | reason => String
  | code => Int

def all : List ErrorField := [status, message, reason, code]

def label : ErrorField → String
  | status => "status"
  | message => "message"
  | reason => "reason"
  | code => "code"

def read : (k : ErrorField) → Reader (Value k)
  | status | message | reason => Reader.text
  | code => Reader.integer 0 65535

/-- What a missing field stands for. -/
def default? : (k : ErrorField) → Option (Value k)
  | message | reason => some ""
  | status | code => none

def form : Form ErrorField Value where
  field? name := all.find? fun k => k.label == name
  fields := all
  name := label
  read := read
  default? := default?
  mem_fields k := by cases k <;> decide

end ErrorField

inductive Kind where
  | added | modified | deleted | bookmark | error
deriving DecidableEq, Repr

namespace Kind

def all : List Kind := [added, modified, deleted, bookmark, error]

def name : Kind → String
  | added => "ADDED"
  | modified => "MODIFIED"
  | deleted => "DELETED"
  | bookmark => "BOOKMARK"
  | error => "ERROR"

def reader : Reader Kind :=
  Reader.choice (fun s => all.find? fun k => k.name == s) (all.map name)

/-- Reads the object of a kind, in which `depth` brackets may open. -/
def object (depth : Nat) : Kind → Reader Notice
  | added | modified => Reader.map .applied (ConfigMap.reader depth)
  | deleted => Reader.map .deleted (ConfigMap.reader depth)
  | bookmark => Reader.map .bookmark (Bookmark.reader depth)
  | error => Reader.map (fun v => .error (v .code).toNat) ErrorField.form.record

end Kind

namespace Notice

/-- What has been read of a notice. -/
inductive Parts where
  | nothing
  | kind (k : Kind)
  /-- An object whose kind is not known yet. -/
  | value (j : Json)
  | whole (n : Notice)

/-- The brackets that may open in the object of a notice. -/
def depth : Nat := Api.ObjectList.maxDepth - 1

/-- The notice of a kind that a value read before is the object of. -/
def ofValue (j : Json) (k : Kind) : Except Json.ReadError Notice :=
  Json.document (k.object depth) j.tokens

/-- Takes in a member. Neither the kind nor the object can come twice. -/
def Parts.step : Step Parts := fun p name =>
  match p, name with
  | .nothing, "type" => Step.take Kind.reader .kind
  | .nothing, "object" => Step.take (Reader.value depth) .value
  | .kind k, "object" => Step.take (k.object depth) .whole
  | .value j, "type" =>
    .ok fun l => do
      let (k, l) ← Kind.reader l
      let n ← ofValue j k
      return (.whole n, l)
  | _, "type" | _, "object" => Step.repeated name
  | p, _ => Step.skip p

def reader : Reader Notice
  | .openBracket :: l => do
    let (k, l) ← Kind.reader l
    let l ← Reader.mark .comma l
    let (n, l) ← k.object depth l
    let l ← Reader.mark .closeBracket l
    return (n, l)
  | l => do
    match ← Reader.object Parts.step .nothing l with
    | (.whole n, l) => .ok (n, l)
    | _ => .error (.mismatch none)

def ofLine? (l : List Char) : Option Notice :=
  (Json.document reader (Json.lexText (String.ofList l))).toOption

end Notice

end Watch

end ClaimTracker
