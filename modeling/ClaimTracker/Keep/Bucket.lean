import ClaimTracker.Keep
import ClaimTracker.Text.Blank
import ClaimTracker.Text.Percent
import ClaimTracker.Text.Quoted

/-!
# An object in a bucket

The document is one object of a bucket, reached by requests over a link that may lead nowhere. An
answer that states its length is refused by that length; of any answer at most one octet more than the
limit is read, which is enough to know that the object is too long.
-/

namespace ClaimTracker

/-- Where in which bucket the object is. -/
structure BucketSettings where
  bucket : String
  folder : String
  region : String
  /-- The address of a server of one's own. -/
  endpoint : Option String
deriving DecidableEq, Repr

namespace BucketSettings

/-- The folder unless the settings say otherwise. -/
def defaultFolder : String := "xp-tracker"

/-- The region unless the settings say otherwise. -/
def defaultRegion : String := "us-east-1"

inductive Error where
  | noBucket
  | parentSegment (folder : String)
deriving DecidableEq, Repr

def Error.message : Error → String
  | .noBucket => "invalid persistence config: S3 bucket is required for the s3 backend"
  | .parentSegment folder =>
    "invalid persistence config: S3 key prefix must not contain '..', got " ++ Text.quoted folder

/-- Whether two dots follow one another. -/
def hasDoubleDot : List Char → Bool
  | '.' :: '.' :: _ => true
  | _ :: l => hasDoubleDot l
  | [] => false

/-- The text without the slashes at either end. -/
def trimSlashes (s : String) : String :=
  let front := s.toList.dropWhile (· == '/')
  String.ofList (front.reverse.dropWhile (· == '/')).reverse

/-- The value, or a default for the empty text. -/
def orDefault (s default : String) : String :=
  if s.isEmpty then default else s

/-- The settings in force: slashes around the folder go, and defaults stand for what is empty. -/
def normalized (s : BucketSettings) : Except Error BucketSettings :=
  if (Text.nonBlank? s.bucket).isNone then .error .noBucket
  else if hasDoubleDot s.folder.toList then .error (.parentSegment s.folder)
  else .ok { s with
    folder := orDefault (trimSlashes s.folder) defaultFolder
    region := orDefault s.region defaultRegion }

def objectKey (s : BucketSettings) : String :=
  s.folder ++ "/snapshot.json"

end BucketSettings

namespace Bucket

structure Request where
  method : String
  path : String
  contentType : Option String
  body : Octets
deriving DecidableEq, Repr

structure Response where
  status : Nat
  body : Octets
  /-- Whether the answer states its length in advance. -/
  statesLength : Bool
deriving DecidableEq, Repr

/-- A way to reach a server: the answer to a request, if one arrives. -/
class Link (σ : Type) where
  send : Request → σ → Option Response × σ
  /-- The object that the server holds at a path. -/
  objectAt : σ → String → Option Octets

def isUnreserved (c : Char) : Bool :=
  c.isAlphanum || c == '-' || c == '.' || c == '_' || c == '~' || c == '/'

def path (bucket key : String) : String :=
  "/" ++ bucket ++ "/" ++ String.ofList
    (key.toList.flatMap (Text.Percent.encodeChar isUnreserved))

def isSuccess (status : Nat) : Bool := 200 ≤ status && status < 300

def after? (mark : List Char) : List Char → Option (List Char)
  | [] => if mark.isEmpty then some [] else none
  | c :: l =>
    if mark.isPrefixOf (c :: l) then some ((c :: l).drop mark.length) else after? mark l

def errorCode? (body : Octets) : Option String := do
  let l ← Text.Utf8.text? body
  let l ← after? "<Code>".toList l
  some (String.ofList (l.takeWhile (· != '<')))

/-- The document in an answer of success. -/
def readBody (limit : Nat) (r : Response) : Except Keep.Error (Option Octets) :=
  if r.statesLength ∧ limit < r.body.length then .error (.tooLarge r.body.length limit)
  else
    let read := r.body.take (limit + 1)
    if limit < read.length then .error (.tooLarge read.length limit) else .ok (some read)

/-- What an answer to reading the object means. That there is no such object is no error. -/
def readResponse (limit : Nat) (r : Option Response) : Except Keep.Error (Option Octets) :=
  match r with
  | none => .error (.failed "S3 GetObject failed")
  | some r =>
    if isSuccess r.status then readBody limit r
    else if errorCode? r.body = some "NoSuchKey" then .ok none
    else .error (.failed "S3 GetObject failed")

def writeResponse (r : Option Response) : Except Keep.Error Unit :=
  match r with
  | some r => if isSuccess r.status then .ok () else .error (.failed "S3 PutObject failed")
  | none => .error (.failed "S3 PutObject failed")

/-- No way to any server. -/
structure NoLink where
deriving DecidableEq, Repr

instance : Link NoLink where
  send _ l := (none, l)
  objectAt _ _ := none

end Bucket

/-- A bucket reached over a link. The settings are those in force. -/
structure Bucket (σ : Type) where
  settings : BucketSettings
  link : σ

namespace Bucket

variable {σ : Type} [Link σ]

def connect (settings : BucketSettings) (link : σ) : Except BucketSettings.Error (Bucket σ) :=
  settings.normalized.map fun settings => ⟨settings, link⟩

def objectPath (b : Bucket σ) : String :=
  path b.settings.bucket b.settings.objectKey

def send (b : Bucket σ) (r : Request) : Option Response × Bucket σ :=
  let (answer, link) := Link.send r b.link
  (answer, { b with link })

end Bucket

instance {σ : Type} [Bucket.Link σ] : Keep (Bucket σ) where
  location b := "s3://" ++ b.settings.bucket ++ "/" ++ b.settings.objectKey
  held b := Bucket.Link.objectAt b.link b.objectPath
  get limit b :=
    let (answer, b) := b.send ⟨"GET", b.objectPath, none, []⟩
    (Bucket.readResponse limit answer, b)
  put body b :=
    let (answer, b) := b.send ⟨"PUT", b.objectPath, some "application/json", body⟩
    (Bucket.writeResponse answer, b)

end ClaimTracker
