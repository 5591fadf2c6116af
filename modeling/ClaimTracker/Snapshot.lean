import ClaimTracker.Json.Lexer
import ClaimTracker.Record.Form

/-!
# Snapshots

A snapshot is the whole inventory at one moment, as a document: the claims, the composites, and when
it was written. Older documents call the composites `xrs`. `decode` accepts members in any order and
members of other names, and may find claims or composites missing; `encode` writes the members in one
order and nothing else.
-/

namespace ClaimTracker

open ClaimTracker.Json (Form Reader ReadError)

/-- The inventory at a moment. -/
@[ext] structure Snapshot where
  claims : List Claim
  composites : List Composite
  persistedAt : Instant
deriving DecidableEq, Repr

inductive SnapshotField where
  | claims | composites | persistedAt
deriving DecidableEq, Repr

namespace SnapshotField

abbrev Value : SnapshotField → Type
  | claims => List Claim
  | composites => List Composite
  | persistedAt => Instant

def all : List SnapshotField := [claims, composites, persistedAt]

def label : SnapshotField → String
  | claims => "claims"
  | composites => "composites"
  | persistedAt => "persistedAt"

def ofName? : String → Option SnapshotField
  | "claims" => some claims
  | "composites" | "xrs" => some composites
  | "persistedAt" => some persistedAt
  | _ => none

def read : (k : SnapshotField) → Reader (Value k)
  | claims => Reader.list Claim.reader
  | composites => Reader.list Composite.reader
  | persistedAt => Reader.instant

/-- What a missing field stands for. -/
def default? : (k : SnapshotField) → Option (Value k)
  | claims => some []
  | composites => some []
  | persistedAt => none

def form : Form SnapshotField Value where
  field? := ofName?
  fields := all
  name := label
  read := read
  default? := default?
  mem_fields k := by cases k <;> decide

end SnapshotField

namespace Snapshot

def reader : Reader Snapshot :=
  Reader.map (fun v => ⟨v .claims, v .composites, v .persistedAt⟩) SnapshotField.form.record

def decode (octets : List UInt8) : Except ReadError Snapshot :=
  Json.document reader (Json.lexOctets octets)

def toJson (s : Snapshot) : Json :=
  .object
    [(SnapshotField.claims.label, .array (s.claims.map Claim.toJson)),
      (SnapshotField.composites.label, .array (s.composites.map Composite.toJson)),
      (SnapshotField.persistedAt.label, .text s.persistedAt.text)]

/-- The document of a snapshot. -/
def encode (s : Snapshot) : List UInt8 :=
  Text.Utf8.encode s.toJson.write

end Snapshot

end ClaimTracker
