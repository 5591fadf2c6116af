import ClaimTracker.Json.Token

/-!
# Skipping values

A value that nobody wants is read token by token with a stack of the brackets that are open, so that
its depth does not matter. `skip` ends behind the value; within it, text contents and the size of
numbers do not matter either.
-/

namespace ClaimTracker.Json

namespace Skip

/-- An open bracket. -/
inductive Bracket where
  | brace
  | bracket
deriving DecidableEq, Repr

/-- What may come next within the innermost open bracket. -/
inductive Place where
  | value
  /-- The first item or member, or the closing bracket. -/
  | opened
  | name
  | colon
  /-- A comma or the closing bracket. -/
  | valueRead
deriving DecidableEq, Repr

/-- A place and the open brackets, the innermost first. -/
structure State where
  place : Place
  brackets : List Bracket
deriving DecidableEq, Repr

/-- Where a value has just been read: done outside all brackets. -/
def afterValue : List Bracket → Option State
  | [] => none
  | b :: l => some ⟨.valueRead, b :: l⟩

/-- Whether a token closes the bracket. -/
def closes : Bracket → Token → Bool
  | .brace, .closeBrace => true
  | .bracket, .closeBracket => true
  | _, _ => false

/-- Reads a token where a value is due. -/
def value (brackets : List Bracket) (t : Token) : Except Fault (Option State) :=
  match t with
  | .openBrace => .ok (some ⟨.opened, .brace :: brackets⟩)
  | .openBracket => .ok (some ⟨.opened, .bracket :: brackets⟩)
  | t =>
    match t.skipFault? with
    | some fault => .error fault
    | none => .ok (afterValue brackets)

/-- Reads a token where a name is due. -/
def name (brackets : List Bracket) (t : Token) : Except Fault (Option State) :=
  match t with
  | .text _ => .ok (some ⟨.colon, brackets⟩)
  | .brokenText _ skipped => .error skipped
  | _ => .error .malformed

/-- Reads one token. The result is the next state, or nothing when the value is complete. -/
def step (s : State) (t : Token) : Except Fault (Option State) :=
  match s.place, s.brackets with
  | .value, brackets => value brackets t
  | .name, brackets => name brackets t
  | .colon, brackets =>
    if t = .colon then .ok (some ⟨.value, brackets⟩) else .error .malformed
  | .opened, b :: brackets =>
    if closes b t then .ok (afterValue brackets)
    else
      match b with
      | .bracket => value (b :: brackets) t
      | .brace => name (b :: brackets) t
  | .valueRead, b :: brackets =>
    if closes b t then .ok (afterValue brackets)
    else if t = .comma then
      match b with
      | .bracket => .ok (some ⟨.value, b :: brackets⟩)
      | .brace => .ok (some ⟨.name, b :: brackets⟩)
    else .error .malformed
  | .opened, [] | .valueRead, [] => .error .malformed

def run : State → List Token → Except Fault (List Token)
  | _, [] => .error .truncated
  | s, t :: l =>
    match step s t with
    | .error fault => .error fault
    | .ok none => .ok l
    | .ok (some s) => run s l

end Skip

/-- The tokens after the value in front. -/
def skip (l : List Token) : Except Fault (List Token) :=
  Skip.run ⟨.value, []⟩ l

end ClaimTracker.Json
