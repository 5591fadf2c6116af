import ClaimTracker.Json.Basic
import ClaimTracker.Json.Lexer
import ClaimTracker.Json.Reader

/-!
# Reading values of any form

`Reader.value` reads a value in which arrays and objects nest to a limited depth. Texts must have a
content and numbers must be in range. What is wrong with a refused value is not told; who needs to
know reads it by its form.
-/

namespace ClaimTracker.Json

mutual

/-- Reads the value in front. `depth` is the number of brackets that may still open, and `fuel`
bounds the tokens that may still be read. -/
def readValue : (fuel depth : Nat) → List Token → Option (Json × List Token)
  | fuel + 1, depth + 1, .openBracket :: l =>
    match l with
    | .closeBracket :: l => some (.array [], l)
    | l => (readItems fuel depth l).map fun (items, l) => (.array items, l)
  | fuel + 1, depth + 1, .openBrace :: l =>
    match l with
    | .closeBrace :: l => some (.object [], l)
    | l => (readMembers fuel depth l).map fun (members, l) => (.object members, l)
  | _ + 1, _, .null :: l => some (.null, l)
  | _ + 1, _, .bool b :: l => some (.bool b, l)
  | _ + 1, _, .number n :: l => if n.inRange then some (.number n, l) else none
  | _ + 1, _, .text (some s) :: l => some (.text s, l)
  | _, _, _ => none

def readItems : (fuel depth : Nat) → List Token → Option (List Json × List Token)
  | 0, _, _ => none
  | fuel + 1, depth, l => do
    let (j, l) ← readValue fuel depth l
    match l with
    | .closeBracket :: l => return ([j], l)
    | .comma :: l =>
      let (items, l) ← readItems fuel depth l
      return (j :: items, l)
    | _ => none

def readMembers : (fuel depth : Nat) → List Token → Option (List (String × Json) × List Token)
  | fuel + 1, depth, .text (some name) :: .colon :: l => do
    let (j, l) ← readValue fuel depth l
    match l with
    | .closeBrace :: l => return ([(name, j)], l)
    | .comma :: l =>
      let (members, l) ← readMembers fuel depth l
      return ((name, j) :: members, l)
    | _ => none
  | _, _, _ => none

end

def Reader.value (depth : Nat) : Reader Json := fun l =>
  match readValue (2 * l.length + 1) depth l with
  | some r => .ok r
  | none => .error (.broken .malformed)

/-- The value that the tokens spell, if arrays and objects in it nest at most `depth` deep. -/
def ofTokens? (depth : Nat) (l : List Token) : Option Json :=
  (document (Reader.value depth) l).toOption

/-- The value that a text spells, nesting at most `depth` deep. -/
def ofText (depth : Nat) (s : String) : Option Json :=
  ofTokens? depth (lexText s)

end ClaimTracker.Json
