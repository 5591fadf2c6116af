import ClaimTracker.Keep.Bucket
import ClaimTracker.Keep.Database

/-!
# Choosing a keep

The settings choose between no keep, a database file and an object in a bucket.
-/

namespace ClaimTracker

inductive KeepChoice where
  | nothing
  | database (path : String)
  | bucket (settings : BucketSettings)
deriving DecidableEq, Repr

inductive KeepChoice.Error where
  | settings (cause : BucketSettings.Error)
  | failed (cause : Keep.Error)
deriving DecidableEq, Repr

def KeepChoice.Error.message : KeepChoice.Error → String
  | .settings cause => cause.message
  | .failed cause => cause.message

inductive OpenKeep (σ : Type) where
  | database (d : Database)
  | bucket (b : Bucket σ)

namespace OpenKeep

variable {σ : Type} [Bucket.Link σ]

instance : Keep (OpenKeep σ) where
  location
    | .database d => Keep.location d
    | .bucket b => Keep.location b
  held
    | .database d => Keep.held d
    | .bucket b => Keep.held b
  get limit
    | .database d => let (r, d) := Keep.get limit d; (r, .database d)
    | .bucket b => let (r, b) := Keep.get limit b; (r, .bucket b)
  put body
    | .database d => let (r, d) := Keep.put body d; (r, .database d)
    | .bucket b => let (r, b) := Keep.put body b; (r, .bucket b)

end OpenKeep

/-- Opens the chosen keep, if there is to be one. Nothing is sent over the link. -/
def KeepChoice.connect {σ : Type} (choice : KeepChoice) (disk : Disk) (link : σ) :
    Except KeepChoice.Error (Option (OpenKeep σ)) :=
  match choice with
  | .nothing => .ok none
  | .database path =>
    match Database.connect disk path with
    | .ok d => .ok (some (.database d))
    | .error e => .error (.failed e.error)
  | .bucket settings =>
    match Bucket.connect settings link with
    | .ok b => .ok (some (.bucket b))
    | .error e => .error (.settings e)

end ClaimTracker
