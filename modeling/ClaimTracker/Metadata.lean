import ClaimTracker.Json.Value

/-!
# Metadata of objects

The metadata of an object has a fixed form. Every member of it may be null, members of other names are
skipped, and of several members of one name the last counts. Members that do not matter here must have
their form all the same.
-/

namespace ClaimTracker

open ClaimTracker.Json (Reader)
open ClaimTracker.Json.Reader (Step)

structure Metadata where
  name : Option String := none
  ns : Option String := none
  resourceVersion : Option String := none
  labels : List (String × String) := []
  annotations : List (String × String) := []
  createdAt : Option Instant := none
deriving DecidableEq, Repr

namespace Metadata

/-- Reads a text for each name, the last first. -/
def textMap : Reader (List (String × String)) :=
  Reader.entries Reader.text

def integer : Reader Int :=
  Reader.integer (-9223372036854775808) 9223372036854775807

/-- A member that must be null or of a kind, and does not matter otherwise. -/
def unused {α σ : Type} (read : Reader α) (s : σ) : Except Json.ReadError (Reader σ) :=
  Step.take (Reader.optional read) fun _ => s

/-- Reads a reference to an owner. -/
def owner : Reader Unit :=
  Reader.object (fun s name =>
    match name with
    | "apiVersion" | "kind" | "name" | "uid" => unused Reader.text s
    | "blockOwnerDeletion" | "controller" => unused Reader.bool s
    | _ => Step.skip s) ()

/-- Reads an entry about a field manager, in which `depth` brackets may open. -/
def manager (depth : Nat) : Reader Unit :=
  Reader.object (fun s name =>
    match name with
    | "apiVersion" | "fieldsType" | "manager" | "operation" | "subresource" =>
      unused Reader.text s
    | "fieldsV1" => unused (Reader.value (depth - 1)) s
    | "time" => unused Reader.instant s
    | _ => Step.skip s) ()

/-- Takes in a member of metadata, in the value of which `depth` brackets may open. -/
def step (depth : Nat) : Step Metadata := fun m name =>
  match name with
  | "name" => Step.take (Reader.optional Reader.text) fun s => { m with name := s }
  | "namespace" => Step.take (Reader.optional Reader.text) fun s => { m with ns := s }
  | "resourceVersion" =>
    Step.take (Reader.optional Reader.text) fun s => { m with resourceVersion := s }
  | "labels" => Step.take (Reader.optional textMap) fun l => { m with labels := l.getD [] }
  | "annotations" =>
    Step.take (Reader.optional textMap) fun l => { m with annotations := l.getD [] }
  | "creationTimestamp" =>
    Step.take (Reader.optional Reader.instant) fun t => { m with createdAt := t }
  | "generateName" | "selfLink" | "uid" => unused Reader.text m
  | "deletionGracePeriodSeconds" | "generation" => unused integer m
  | "deletionTimestamp" => unused Reader.instant m
  | "finalizers" => unused (Reader.list Reader.text) m
  | "ownerReferences" => unused (Reader.list owner) m
  | "managedFields" => unused (Reader.list (manager (depth - 1))) m
  | _ => Step.skip m

def reader (depth : Nat) : Reader Metadata :=
  Reader.object (step (depth - 1)) {}

end Metadata

end ClaimTracker
