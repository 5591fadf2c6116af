import ClaimTracker.Json.Skip
import ClaimTracker.Instant.Parser

/-!
# Readers

A reader takes the tokens of a document from the front and stops at the first problem it meets: a
place where the document breaks, or a value of another kind than its place demands. What nobody wants
is skipped and may nest to any depth.
-/

namespace ClaimTracker.Json

/-- What is wrong with a value, where that can be told in words. -/
inductive Complaint where
  | missingField (name : String)
  | duplicateField (name : String)
  | unknownName (name : String) (known : List String)
deriving DecidableEq, Repr

namespace Complaint

/-- A name between backticks. -/
def quoted (name : String) : String := "`" ++ name ++ "`"

/-- The names among which there was a choice. -/
def alternatives : List String → String
  | [a, b] => quoted a ++ " or " ++ quoted b
  | [a] => quoted a
  | l => "one of " ++ ", ".intercalate (l.map quoted)

def message : Complaint → String
  | .missingField name => "missing field " ++ quoted name
  | .duplicateField name => "duplicate field " ++ quoted name
  | .unknownName name known =>
    "unknown variant " ++ quoted name ++ ", expected " ++ alternatives known

end Complaint

/-- Why a document cannot be read. -/
inductive ReadError where
  | broken (fault : Fault)
  /-- A value has another form than its place demands. -/
  | mismatch (complaint : Option Complaint)
deriving DecidableEq, Repr

/-- A reader takes what it reads off the front of the tokens. -/
abbrev Reader (α : Type) := List Token → Except ReadError (α × List Token)

namespace Reader

variable {α β σ : Type}

/-- The error of a reader that has no use for the value in front. -/
def refusal : List Token → ReadError
  | [] => .broken .truncated
  | t :: _ =>
    match t.readFault? with
    | some fault => .broken fault
    | none => .mismatch none

/-- The error of a reader that finds no mark where only a mark can stand. -/
def unmarked : List Token → ReadError
  | [] => .broken .truncated
  | _ :: _ => .broken .malformed

def map (f : α → β) (read : Reader α) : Reader β := fun l =>
  (read l).map fun (a, l) => (f a, l)

def mark (t : Token) (l : List Token) : Except ReadError (List Token) :=
  match l with
  | u :: r => if u = t then .ok r else .error (.broken .malformed)
  | [] => .error (.broken .truncated)

def text : Reader String
  | .text (some s) :: l => .ok (s, l)
  | l => .error (refusal l)

/-- Reads a text that says this. -/
def textSaying (said : String) : Reader Unit := fun l => do
  let (s, l) ← text l
  if s = said then .ok ((), l) else .error (.mismatch none)

def instant : Reader Instant := fun l => do
  let (s, l) ← text l
  match Instant.ofText? s with
  | some t => .ok (t, l)
  | none => .error (.mismatch none)

def bool : Reader Bool
  | .bool b :: l => .ok (b, l)
  | l => .error (refusal l)

def integer (least greatest : Int) : Reader Int
  | .number n :: l =>
    match n.int? with
    | some i =>
      if least ≤ i ∧ i ≤ greatest then .ok (i, l) else .error (refusal (.number n :: l))
    | none => .error (refusal (.number n :: l))
  | l => .error (refusal l)

def null : Reader Unit
  | .null :: l => .ok ((), l)
  | l => .error (refusal l)

/-- Reads null as nothing, and everything else by the given reader. -/
def optional (read : Reader α) : Reader (Option α)
  | .null :: l => .ok (none, l)
  | l => (read l).map fun (a, l) => (some a, l)

def skipped (l : List Token) : Except ReadError (List Token) :=
  (skip l).mapError .broken

/-- Reads further items up to the closing bracket, each after a comma. -/
def moreItems (read : Reader α) : (fuel : Nat) → Reader (List α)
  | fuel + 1, .comma :: l => do
    let (a, l) ← read l
    let (items, l) ← moreItems read fuel l
    return (a :: items, l)
  | _, .closeBracket :: l => .ok ([], l)
  | _, l => .error (unmarked l)

/-- Reads an array of items. -/
def list (read : Reader α) : Reader (List α)
  | .openBracket :: .closeBracket :: l => .ok ([], l)
  | .openBracket :: l => do
    let (a, l) ← read l
    let (items, l) ← moreItems read l.length l
    return (a :: items, l)
  | l => .error (refusal l)

def memberName : Reader String
  | .text (some name) :: l => .ok (name, l)
  | .brokenText wanted _ :: _ => .error (.broken wanted)
  | l => .error (unmarked l)

/-- What is done with a member by its name, after the members before it: it is refused at the name,
or its value is read. -/
abbrev Step (σ : Type) := σ → String → Except ReadError (Reader σ)

namespace Step

def skip (s : σ) : Except ReadError (Reader σ) :=
  .ok fun l => (skipped l).map fun l => (s, l)

/-- Reads the value and takes it in. -/
def take (read : Reader α) (f : α → σ) : Except ReadError (Reader σ) :=
  .ok (map f read)

/-- Refuses the second member of a name. -/
def repeated (name : String) : Except ReadError (Reader σ) :=
  .error (.mismatch (some (.duplicateField name)))

end Step

def member (step : Step σ) (s : σ) : Reader σ := fun l => do
  let (name, l) ← memberName l
  let read ← step s name
  let l ← mark .colon l
  read l

/-- Reads further members up to the closing brace, each after a comma. -/
def moreMembers (step : Step σ) : (fuel : Nat) → σ → Reader σ
  | fuel + 1, s, .comma :: l => do
    let (s, l) ← member step s l
    moreMembers step fuel s l
  | _, s, .closeBrace :: l => .ok (s, l)
  | _, _, l => .error (unmarked l)

/-- Reads members up to the closing brace. -/
def members (step : Step σ) (s : σ) : Reader σ
  | .closeBrace :: l => .ok (s, l)
  | l => do
    let (s, l) ← member step s l
    moreMembers step l.length s l

/-- Reads an object, member by member from a start. -/
def object (step : Step σ) (start : σ) : Reader σ
  | .openBrace :: l => members step start l
  | l => .error (refusal l)

/-- Reads an object the values of which are of one kind, the last member first. -/
def entries (read : Reader α) : Reader (List (String × α)) :=
  object (fun before name => Step.take read fun a => (name, a) :: before) []

/-- The value of a name, of which there must be one. -/
def named (named? : String → Option α) (known : List String) (s : String) : Except ReadError α :=
  match named? s with
  | some a => .ok a
  | none => .error (.mismatch (some (.unknownName s known)))

/-- Reads the name of a value: as a text, or as the only member of an object, which then is null. Any
other kind of value cannot stand in its place. -/
def choice (named? : String → Option α) (known : List String) : Reader α
  | .text (some s) :: l => (named named? known s).map fun a => (a, l)
  | .brokenText wanted _ :: _ => .error (.broken wanted)
  | .openBrace :: l => do
    let (s, l) ← memberName l
    let a ← named named? known s
    let l ← mark .colon l
    let ((), l) ← null l
    let l ← mark .closeBrace l
    return (a, l)
  | l => .error (unmarked l)

end Reader

def document {α : Type} (read : Reader α) (l : List Token) : Except ReadError α := do
  match ← read l with
  | (a, []) => .ok a
  | (_, _ :: _) => .error (.broken .malformed)

end ClaimTracker.Json
