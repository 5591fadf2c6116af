import ClaimTracker.Json.Token

/-!
# JSON values

A value keeps the members of an object in the order in which they were written. Looking a member up
finds the last one of that name; `sorted` puts members in the order of their names and keeps the last
of each. `tokens` spells a value out, and `write` is the compact form.
-/

namespace ClaimTracker

inductive Json where
  | null
  | bool (b : Bool)
  | number (n : Json.Number)
  | text (s : String)
  | array (items : List Json)
  | object (members : List (String × Json))

namespace Json

instance : Inhabited Json := ⟨.null⟩

/-- The member of that name; of several the last. -/
def member? (members : List (String × Json)) (name : String) : Option Json :=
  members.reverse.lookup name

def get? (j : Json) (name : String) : Option Json :=
  match j with
  | .object members => member? members name
  | _ => none

def text? : Json → Option String
  | .text s => some s
  | _ => none

def array? : Json → Option (List Json)
  | .array items => some items
  | _ => none

def object? : Json → Option (List (String × Json))
  | .object members => some members
  | _ => none

/-- The value of a number written as an integer. -/
def int? : Json → Option Int
  | .number n => n.int?
  | _ => none

def bool? : Json → Option Bool
  | .bool b => some b
  | _ => none

def ofInt (n : Int) : Json := .number (.ofInt n)

def ofNat (n : Nat) : Json := .ofInt n

/-- A text, or null. -/
def ofText? (s : Option String) : Json :=
  match s with
  | some s => .text s
  | none => .null

/-- Members in the order of their names, of equal names the last. -/
def sortMembers {α : Type} (members : List (String × α)) : List (String × α) :=
  let kept := members.foldr (fun m l => if l.any (·.1 == m.1) then l else m :: l) []
  kept.mergeSort fun a b => a.1 ≤ b.1

mutual

def sorted : Json → Json
  | .array items => .array (sortedItems items)
  | .object members => .object (sortMembers (sortedMembers members))
  | .null => .null
  | .bool b => .bool b
  | .number n => .number n
  | .text s => .text s

def sortedItems : List Json → List Json
  | [] => []
  | j :: items => sorted j :: sortedItems items

def sortedMembers : List (String × Json) → List (String × Json)
  | [] => []
  | (name, j) :: members => (name, sorted j) :: sortedMembers members

end

mutual

def tokens : Json → List Token
  | .null => [.null]
  | .bool b => [.bool b]
  | .number n => [.number n]
  | .text s => [.text (some s)]
  | .array items => .openBracket :: itemTokens items ++ [.closeBracket]
  | .object members => .openBrace :: memberTokens members ++ [.closeBrace]

/-- The tokens of items, with commas between them. -/
def itemTokens : List Json → List Token
  | [] => []
  | [j] => tokens j
  | j :: items => tokens j ++ .comma :: itemTokens items

def memberTokens : List (String × Json) → List Token
  | [] => []
  | [(name, j)] => .text (some name) :: .colon :: tokens j
  | (name, j) :: members =>
    .text (some name) :: .colon :: tokens j ++ .comma :: memberTokens members

end

/-- The compact form: the tokens with nothing between them. -/
def write (j : Json) : List Char :=
  j.tokens.flatMap Token.write

def compact (j : Json) : String :=
  String.ofList j.write

/-- A line break followed by two blanks per level. -/
def lineBreak (level : Nat) : List Char :=
  '\n' :: List.replicate (2 * level) ' '

mutual

/-- The indented form of a value that stands at a level: every item and member on a line of its
own, and nothing between the brackets of an empty array or object. -/
def writeIndented (level : Nat) : Json → List Char
  | .array [] => ['[', ']']
  | .array items => '[' :: indentedItems (level + 1) items ++ lineBreak level ++ [']']
  | .object [] => ['\x7b', '\x7d']
  | .object members => '\x7b' :: indentedMembers (level + 1) members ++ lineBreak level ++ ['\x7d']
  | .null => Token.write .null
  | .bool b => Token.write (.bool b)
  | .number n => n.write
  | .text s => writeText s

def indentedItems (level : Nat) : List Json → List Char
  | [] => []
  | [j] => lineBreak level ++ writeIndented level j
  | j :: items => lineBreak level ++ writeIndented level j ++ ',' :: indentedItems level items

def indentedMembers (level : Nat) : List (String × Json) → List Char
  | [] => []
  | [(name, j)] => lineBreak level ++ writeText name ++ ':' :: ' ' :: writeIndented level j
  | (name, j) :: members =>
    lineBreak level ++ writeText name ++ ':' :: ' ' :: writeIndented level j ++
      ',' :: indentedMembers level members

end

def indented (j : Json) : String :=
  String.ofList (j.writeIndented 0)

end Json

end ClaimTracker
