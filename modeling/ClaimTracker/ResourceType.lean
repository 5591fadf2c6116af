import ClaimTracker.Text.Blank
import ClaimTracker.Text.Quoted
import ClaimTracker.Text.Uppercase

/-!
# Resource types

A resource type is an API group, a version and a plural resource name. Its display form joins the
three by slashes and serves as the name of its partition in the inventory. `parse` reads one display
form, `parseList` a comma-separated list of them in which the first of equal entries counts.
-/

namespace ClaimTracker

/-- A kind of cluster object: API group, version and plural resource name. -/
@[ext] structure ResourceType where
  group : String
  version : String
  resource : String
deriving DecidableEq, Repr

namespace ResourceType

/-- `group/version/resource`. -/
def display (t : ResourceType) : String :=
  t.group ++ "/" ++ t.version ++ "/" ++ t.resource

/-- `group/version`, as objects state it. -/
def apiVersion (t : ResourceType) : String :=
  t.group ++ "/" ++ t.version

/-- Why a text names no resource type, or a list none at all. -/
inductive Error where
  /-- The list has no entry that is not blank. -/
  | emptyList
  | tooFewSegments (input : String)
  /-- The segment at this position, counted from 1, is blank. -/
  | blankSegment (input : String) (position : Nat)
deriving DecidableEq, Repr

def Error.message : Error → String
  | .emptyList => "empty GVR list"
  | .tooFewSegments input =>
    "invalid GVR " ++ Text.quoted input ++ ": expected format group/version/resource"
  | .blankSegment input position =>
    "invalid GVR " ++ Text.quoted input ++ ": segment " ++ toString position ++ " is empty"

/-- The texts before the first slash, between it and the second, and after the second. Further
slashes stay in the third segment. -/
def segments? (s : List Char) : Option (List Char × List Char × List Char) := do
  let (group, l) ← Text.cut '/' s
  let (version, resource) ← Text.cut '/' l
  return (group, version, resource)

/-- Reads a display form. Segments are trimmed and must not be blank. -/
def parse (s : String) : Except Error ResourceType :=
  match segments? s.toList with
  | none => .error (.tooFewSegments s)
  | some (group, version, resource) =>
    match Text.trim group, Text.trim version, Text.trim resource with
    | [], _, _ => .error (.blankSegment s 1)
    | _, [], _ => .error (.blankSegment s 2)
    | _, _, [] => .error (.blankSegment s 3)
    | g, v, r => .ok ⟨String.ofList g, String.ofList v, String.ofList r⟩

/-- Reads a comma-separated list. Blank entries are skipped, and of equal resource types only the
first stays. -/
def parseList (raw : String) : Except Error (List ResourceType) :=
  match Text.commaList raw with
  | [] => .error .emptyList
  | entries => (entries.mapM parse).map List.eraseDups

/-- The kind that a plural resource name suggests: without its final `s`, first letter in upper
case. -/
def suggestedKind (resource : String) : String :=
  let l := resource.toList
  let singular := if l.getLast? = some 's' then l.dropLast else l
  match singular with
  | [] => ""
  | c :: l => String.ofList (Text.uppercase c ++ l)

end ResourceType

end ClaimTracker
