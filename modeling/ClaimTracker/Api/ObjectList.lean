import ClaimTracker.Api
import ClaimTracker.ClusterObject

/-!
# Lists of objects

The answer to a list request is a page of objects with metadata of its own: the token of the next
page, and the version of the collection at which the page was made. Both the metadata and the items
must be there, once each; members of other names may hold any value.
-/

namespace ClaimTracker.Api

open ClaimTracker.Json (Reader)
open ClaimTracker.Json.Reader (Step)
open ClaimTracker.Metadata (unused)

structure ObjectList.Position where
  /-- The token of the next page. -/
  next : Option String := none
  version : Option String := none
deriving DecidableEq, Repr

structure ObjectList (α : Type) where
  items : List α
  position : ObjectList.Position

namespace ObjectList

variable {α : Type}

/-- The depth to which arrays and objects nest at most in an answer, as far as they are not
skipped. -/
def maxDepth : Nat := 127

def nonEmpty (s : Option String) : Option String :=
  s.filter (!·.isEmpty)

def Position.step : Step Position := fun p name =>
  match name with
  | "continue" => Step.take (Reader.optional Reader.text) fun s => { p with next := nonEmpty s }
  | "resourceVersion" =>
    Step.take (Reader.optional Reader.text) fun s => { p with version := nonEmpty s }
  | "remainingItemCount" => unused Metadata.integer p
  | "selfLink" => unused Reader.text p
  | _ => Step.skip p

structure Parts (α : Type) where
  items : Option (List α) := none
  position : Option Position := none

/-- Takes in a member of a page, each item by the given reader. -/
def Parts.step (item : Reader α) : Step (Parts α) := fun p name =>
  match name with
  | "metadata" =>
    if p.position.isSome then Step.repeated name
    else Step.take (Reader.object Position.step {}) fun m => { p with position := some m }
  | "items" =>
    if p.items.isSome then Step.repeated name
    else
      Step.take (Reader.optional (Reader.list item)) fun l => { p with items := some (l.getD []) }
  | _ => Step.take (Reader.value (maxDepth - 1)) fun _ => p

def Parts.page? (p : Parts α) : Option (ObjectList α) := do
  return ⟨← p.items, ← p.position⟩

/-- The page in a document. The reader of items is told how many brackets may open in one. -/
def ofText? (item : Nat → Reader α) (s : String) : Option (ObjectList α) :=
  let read := Reader.object (Parts.step (item (maxDepth - 2))) {}
  (Json.document read (Json.lexText s)).toOption.bind Parts.page?

def ofResponse? (item : Nat → Reader α) (r : Response) : Option (ObjectList α) :=
  if r.isFailure then none else ofText? item r.body

end ObjectList

end ClaimTracker.Api
