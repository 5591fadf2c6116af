import ClaimTracker.Inventory
import ClaimTracker.Keep
import ClaimTracker.Metrics
import ClaimTracker.Snapshot

/-!
# The durable inventory

An inventory with a keep can be persisted and restored. Persisting goes through phases, each of which
is one step of its own: it takes the lock that other persists wait for, reads the claims, reads the
composites, writes the document, and gives the lock back. Restoring reads a whole document before it
touches the inventory, and then replaces partition after partition.
-/

namespace ClaimTracker

structure Durable (κ : Type) where
  inventory : Inventory
  keep : κ
  /-- The length in octets of the longest document that is restored. -/
  limit : Nat
  locked : Bool := false

namespace Durable

/-- The limit unless another is given: a hundred mebibytes. -/
def defaultLimit : Nat := 104857600

inductive PersistError where
  | put (location : String) (cause : Keep.Error)
deriving DecidableEq, Repr

def PersistError.message : PersistError → String
  | .put location _ => "writing snapshot to " ++ location

inductive RestoreError where
  | get (location : String) (cause : Keep.Error)
  /-- The document is longer than the limit, though the keep did not say so. -/
  | tooLarge (size limit : Nat)
  | unreadable (cause : Json.ReadError)
deriving DecidableEq, Repr

def RestoreError.message : RestoreError → String
  | .get _ (.tooLarge size limit) | .tooLarge size limit => (Keep.Error.tooLarge size limit).message
  | .get location (.failed _) => "reading snapshot from " ++ location
  | .unreadable _ => "decoding snapshot"

/-- How far a persist has come. -/
inductive Phase where
  | waiting
  | readingClaims
  | readingComposites (claims : List Claim)
  | writing (claims : List Claim) (composites : List Composite)
  | unlocking (result : Except PersistError Unit)
  | done (result : Except PersistError Unit)

variable {κ : Type} [Keep κ]

/-- Takes a persist one step further. It waits as long as the lock is held, and stamps the document
with the moment at which it is written. -/
def advance (now : Instant) (phase : Phase) (d : Durable κ) : Phase × Durable κ :=
  match phase with
  | .waiting => if d.locked then (.waiting, d) else (.readingClaims, { d with locked := true })
  | .readingClaims => (.readingComposites d.inventory.claimList, d)
  | .readingComposites claims => (.writing claims d.inventory.compositeList, d)
  | .writing claims composites =>
    let (result, keep) := Keep.put (Snapshot.encode ⟨claims, composites, now⟩) d.keep
    (.unlocking (result.mapError (.put (Keep.location d.keep))), { d with keep })
  | .unlocking result => (.done result, { d with locked := false })
  | .done result => (.done result, d)

/-- Takes a persist through a number of steps that nothing comes between. -/
def advanceBy (now : Instant) : Nat → Phase → Durable κ → Phase × Durable κ
  | 0, phase, d => (phase, d)
  | n + 1, phase, d =>
    let (phase, d) := d.advance now phase
    d.advanceBy now n phase

/-- Writes the inventory as it stands to the keep. Nothing happens while the lock is held. -/
def persist (now : Instant) (d : Durable κ) : Option (Except PersistError Unit) × Durable κ :=
  match d.advanceBy now 5 .waiting with
  | (.done result, d) => (some result, d)
  | (_, d) => (none, d)

/-- Records of one partition each, partitions in order and records in theirs. -/
def byPartition {ρ : Type} [Record ρ] (l : List ρ) : List (String × List ρ) :=
  ((l.map Record.partition).eraseDups.mergeSort).map fun p =>
    (p, l.filter fun r => Record.partition r == p)

/-- The inventory in which every partition of a snapshot is replaced, composites first. -/
def replay (i : Inventory) (s : Snapshot) : Inventory :=
  let i := (byPartition s.composites).foldl (fun i (p, items) => i.replaceComposites p items) i
  let i := (byPartition s.claims).foldl (fun i (p, items) => i.replaceClaims p items) i
  i.enrich

def readDocument (limit : Nat) (body : Octets) : Except RestoreError Snapshot :=
  if limit < body.length then .error (.tooLarge body.length limit)
  else (Snapshot.decode body).mapError .unreadable

/-- Replaces partitions by those of the document in the keep, if there is one. -/
def restore (d : Durable κ) : Except RestoreError Unit × Durable κ :=
  let location := Keep.location d.keep
  let (found, keep) := Keep.get d.limit d.keep
  let d := { d with keep }
  match found with
  | .error e => (.error (.get location e), d)
  | .ok none => (.ok (), d)
  | .ok (some body) =>
    match readDocument d.limit body with
    | .error e => (.error e, d)
    | .ok s => (.ok (), { d with inventory := replay d.inventory s })

def countPersist (m : Metrics) (result : Except PersistError Unit) : Metrics :=
  match result with
  | .ok () => m.observePersist
  | .error _ => m.persistFailed

end Durable

end ClaimTracker
