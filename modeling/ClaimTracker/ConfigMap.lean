import ClaimTracker.Metadata
import ClaimTracker.NamespaceConfig

/-!
# Config maps

A config map that carries the label of namespace configurations, and the events by which it becomes
known.

Objects of the cluster that claim to be config maps must have the form of one, down to the values that do
not matter here. Members of other names are skipped, and of several members of one name the last counts. A
config map without a namespace or a name has the empty one. Binary data must be in base64: groups of four
letters of the standard alphabet, the last group filled up with equals signs, and no bit set beyond the
last octet.
-/

namespace ClaimTracker

namespace Text.Base64

def letterValue? (c : Char) : Option Nat :=
  if 'A' ≤ c ∧ c ≤ 'Z' then some (c.toNat - 65)
  else if 'a' ≤ c ∧ c ≤ 'z' then some (c.toNat - 71)
  else if c.isDigit then some (c.toNat + 4)
  else if c = '+' then some 62
  else if c = '/' then some 63
  else none

/-- Whether a letter has no bits set below a place value. -/
def endsAt (place : Nat) (c : Char) : Bool :=
  (letterValue? c).any fun n => n % place == 0

def isLetter (c : Char) : Bool := (letterValue? c).isSome

def isEncoded : List Char → Bool
  | [] => true
  | [a, b, '=', '='] => isLetter a && endsAt 16 b
  | [a, b, c, '='] => isLetter a && isLetter b && endsAt 4 c
  | a :: b :: c :: d :: l => isLetter a && isLetter b && isLetter c && isLetter d && isEncoded l
  | _ => false

end Text.Base64

structure ConfigMap where
  ns : String
  name : String
  data : NamespaceConfig.Data
deriving DecidableEq, Repr

namespace ConfigMap

/-- `namespace/name`. -/
def key (c : ConfigMap) : String :=
  c.ns ++ "/" ++ c.name

def config (c : ConfigMap) (defaults : RecordKeys) :
    Except NamespaceConfig.Error NamespaceConfig :=
  NamespaceConfig.ofData c.ns c.name c.data defaults

end ConfigMap

/-- What happened to the labelled config maps. -/
inductive ConfigEvent where
  | applied (c : ConfigMap)
  | deleted (c : ConfigMap)
  /-- These are all there are. -/
  | restarted (l : List ConfigMap)
deriving DecidableEq, Repr

namespace ConfigMap

open ClaimTracker.Json (Reader)
open ClaimTracker.Json.Reader (Step)
open ClaimTracker.Metadata (unused)

def encoded : Reader Unit := fun l => do
  let (s, l) ← Reader.text l
  if Text.Base64.isEncoded s.toList then .ok ((), l) else .error (.mismatch none)

structure Versioned where
  configMap : ConfigMap
  version : Option String
deriving DecidableEq, Repr

structure Parts where
  metadata : Metadata := {}
  data : NamespaceConfig.Data := []

/-- Takes in a member, in the value of which `depth` brackets may open. -/
def Parts.step (depth : Nat) : Step Parts := fun p name =>
  match name with
  | "metadata" =>
    Step.take (Reader.optional (Metadata.reader depth)) fun m => { p with metadata := m.getD {} }
  | "data" =>
    Step.take (Reader.optional Metadata.textMap) fun l => { p with data := l.getD [] }
  | "apiVersion" => Step.take (Reader.textSaying "v1") fun () => p
  | "kind" => Step.take (Reader.textSaying "ConfigMap") fun () => p
  | "binaryData" => unused (Reader.entries (Reader.optional encoded)) p
  | "immutable" => unused Reader.bool p
  | _ => Step.skip p

/-- The config map made of its parts. An empty version is none. -/
def Parts.versioned (p : Parts) : Versioned where
  configMap := {
    ns := p.metadata.ns.getD ""
    name := p.metadata.name.getD ""
    data := p.data }
  version := p.metadata.resourceVersion.filter (!·.isEmpty)

def reader (depth : Nat) : Reader Versioned :=
  Reader.map Parts.versioned (Reader.object (Parts.step (depth - 1)) {})

end ConfigMap

end ClaimTracker
