import ClaimTracker.Json.Reader

/-!
# Records of known fields

A `Form` describes a record by its fields. The record is written as an object, whose members may come
in any order among members of other names, or as an array of its fields in their order, which may end
before the last ones if they can be left off. A second member of one field is refused at its name, and
a missing field at the closing brace.
-/

namespace ClaimTracker.Json

/-- A record of fields `κ`, the field `k` of which holds a value of type `T k`. -/
structure Form (κ : Type) (T : κ → Type) where
  field? : String → Option κ
  fields : List κ
  /-- The name of a field in complaints. -/
  name : κ → String
  read : (k : κ) → Reader (T k)
  /-- What a missing field stands for, if it may be missing. -/
  default? : (k : κ) → Option (T k)
  /-- Whether an array may end before the field. -/
  mayTrail : κ → Bool := fun k => (default? k).isSome
  mem_fields : ∀ k, k ∈ fields

namespace Form

variable {κ : Type} {T : κ → Type}

abbrev Values (T : κ → Type) := (k : κ) → Option (T k)

def Values.insert [DecidableEq κ] (values : Values T) (k : κ) (a : T k) : Values T :=
  fun j => if h : j = k then some (h ▸ a) else values j

/-- The value of a field, or what its absence stands for. -/
def value? (form : Form κ T) (values : Values T) (k : κ) : Option (T k) :=
  (values k).or (form.default? k)

/-- All fields, where none is missing. The first missing one is complained of. -/
def complete (form : Form κ T) (values : Values T) : Except ReadError ((k : κ) → T k) :=
  match missing : form.fields.find? fun k => (form.value? values k).isNone with
  | some k => .error (.mismatch (some (.missingField (form.name k))))
  | none =>
    .ok fun k => (form.value? values k).get (by
      have := List.find?_eq_none.mp missing k (form.mem_fields k)
      simpa [Option.isSome_iff_ne_none] using this)

/-- Takes in the member of a name, or skips it if it is none of the fields. -/
def step [DecidableEq κ] (form : Form κ T) : Reader.Step (Values T) := fun values name =>
  match form.field? name with
  | some k =>
    if (values k).isSome then Reader.Step.repeated (form.name k)
    else Reader.Step.take (form.read k) (values.insert k)
  | none => Reader.Step.skip values

def cutOff (form : Form κ T) (l : List κ) : Except ReadError Unit :=
  if l.all form.mayTrail then .ok () else .error (.mismatch none)

/-- Reads the values of these fields from an array of which some items have been read, up to the
closing bracket. -/
def moreInOrder [DecidableEq κ] (form : Form κ T) : List κ → Values T → Reader (Values T)
  | k :: ks, values, l =>
    match l with
    | .closeBracket :: r => (form.cutOff (k :: ks)).map fun () => (values, r)
    | .comma :: r => do
      let (a, l) ← form.read k r
      form.moreInOrder ks (values.insert k a) l
    | l => .error (Reader.unmarked l)
  | [], values, l => (Reader.mark .closeBracket l).map fun l => (values, l)

/-- Reads the values of the fields from an array whose opening bracket has been read. -/
def inOrder [DecidableEq κ] (form : Form κ T) : Reader (Values T)
  | .closeBracket :: l => (form.cutOff form.fields).map fun () => (fun _ => none, l)
  | l =>
    match form.fields with
    | [] => .error (Reader.unmarked l)
    | k :: ks => do
      let (a, l) ← form.read k l
      form.moreInOrder ks (Values.insert (fun _ => none) k a) l

def record [DecidableEq κ] (form : Form κ T) : Reader ((k : κ) → T k)
  | .openBrace :: l => do
    let (values, l) ← Reader.members form.step (fun _ => none) l
    return (← form.complete values, l)
  | .openBracket :: l => do
    let (values, l) ← form.inOrder l
    return (← form.complete values, l)
  | l => .error (Reader.refusal l)

end Form

end ClaimTracker.Json
