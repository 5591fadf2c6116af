import ClaimTracker.Text.Digits

/-!
# Socket addresses

An internet address of version 4 or 6 with the number of a service there. An address of version 6 stands in brackets, its
longest row of zero groups may be left out, its last two groups may be written as an address of
version 4, and it may name a scope. Addresses are shown in their shortest form.
-/

namespace ClaimTracker

/-- An internet address with the number of a service. -/
inductive SocketAddress where
  | v4 (octets : List Nat) (service : Nat)
  | v6 (groups : List Nat) (scope : Nat) (service : Nat)
deriving DecidableEq, Repr

namespace SocketAddress

/-! ### Reading -/

def mark (c : Char) : List Char → Option (List Char)
  | d :: l => if d = c then some l else none
  | [] => none

/-- Reads a decimal number below a bound, with leading zeros. -/
def number (bound : Nat) (l : List Char) : Option (Nat × List Char) :=
  (Text.Decimal.read? none l).filter fun (n, _) => n < bound

/-- Reads an octet: at most three digits, without leading zeros. -/
def octet (l : List Char) : Option (Nat × List Char) :=
  let digits := l.takeWhile Char.isDigit
  let n := Text.Decimal.value digits
  if digits.isEmpty ∨ 3 < digits.length ∨ 256 ≤ n ∨ (digits.head? = some '0' ∧ 1 < digits.length) then
    none
  else some (n, l.drop digits.length)

def octets (l : List Char) : Option (List Nat × List Char) := do
  let (a, l) ← octet l
  let (b, l) ← octet (← mark '.' l)
  let (c, l) ← octet (← mark '.' l)
  let (d, l) ← octet (← mark '.' l)
  return ([a, b, c, d], l)

/-- Reads a group of at most four hexadecimal digits. -/
def group (l : List Char) : Option (Nat × List Char) :=
  let digits := l.takeWhile fun c => (Text.Hexadecimal.digitValue? c).isSome
  if digits.isEmpty ∨ 4 < digits.length then none
  else (Text.Hexadecimal.value? digits).map fun n => (n, l.drop digits.length)

/-- The two groups that four octets make. -/
def groupsOf (octets : List Nat) : List Nat :=
  match octets with
  | [a, b, c, d] => [256 * a + b, 256 * c + d]
  | _ => []

/-- Groups that have been read, and whether octets ended them. -/
structure Groups where
  groups : List Nat
  withOctets : Bool
  rest : List Char

/-- Reads at most `room` groups, each but the first after a colon. -/
def groups : (room : Nat) → (first : Bool) → List Char → Groups
  | 0, _, l => ⟨[], false, l⟩
  | room + 1, first, l =>
    let front := if first then some l else mark ':' l
    match front.bind (if 0 < room then octets else fun _ => none) with
    | some (octets, rest) => ⟨groupsOf octets, true, rest⟩
    | none =>
      match front.bind group with
      | some (n, rest) =>
        let more := groups room false rest
        ⟨n :: more.groups, more.withOctets, more.rest⟩
      | none => ⟨[], false, l⟩

/-- Reads the groups of an address of version 6. -/
def address6 (l : List Char) : Option (List Nat × List Char) :=
  let head := groups 8 true l
  if head.groups.length = 8 then some (head.groups, head.rest)
  else if head.withOctets then none
  else do
    let l ← mark ':' (← mark ':' head.rest)
    let tail := groups (7 - head.groups.length) true l
    let zeros := List.replicate (8 - head.groups.length - tail.groups.length) 0
    return (head.groups ++ zeros ++ tail.groups, tail.rest)

def service (l : List Char) : Option (Nat × List Char) := do
  number 65536 (← mark ':' l)

def read4 (l : List Char) : Option (SocketAddress × List Char) := do
  let (octets, l) ← octets l
  let (service, l) ← service l
  return (.v4 octets service, l)

/-- Reads a scope, zero where there is none. -/
def scope (l : List Char) : Nat × List Char :=
  ((mark '%' l).bind (number 4294967296)).getD (0, l)

def read6 (l : List Char) : Option (SocketAddress × List Char) := do
  let (groups, l) ← address6 (← mark '[' l)
  let (scope, l) := scope l
  let (service, l) ← service (← mark ']' l)
  return (.v6 groups scope service, l)

def ofText? (s : String) : Option SocketAddress :=
  match (read4 s.toList).or (read6 s.toList) with
  | some (a, []) => some a
  | _ => none

/-! ### Writing -/

/-- Numbers in decimal, with dots between them. -/
def dotted (octets : List Nat) : String :=
  ".".intercalate (octets.map toString)

/-- Groups in hexadecimal, with colons between them. -/
def colons (groups : List Nat) : String :=
  ":".intercalate (groups.map fun n => String.ofList (Text.Hexadecimal.write n))

/-- The number of zeros in front. -/
def zerosInFront (groups : List Nat) : Nat :=
  (groups.takeWhile (· == 0)).length

/-- The first of the longest rows of zeros: where it starts, and its length. -/
def longestZeros (groups : List Nat) : Nat × Nat :=
  (List.range groups.length).foldl (fun (start, length) i =>
    let n := zerosInFront (groups.drop i)
    if length < n then (i, n) else (start, length)) (0, 0)

/-- The shortest form of the groups of an address of version 6. -/
def text6 (groups : List Nat) : String :=
  match groups with
  | [0, 0, 0, 0, 0, 0xFFFF, a, b] => "::ffff:" ++ dotted [a / 256, a % 256, b / 256, b % 256]
  | _ =>
    let (start, length) := longestZeros groups
    if length ≤ 1 then colons groups
    else colons (groups.take start) ++ "::" ++ colons (groups.drop (start + length))

def text : SocketAddress → String
  | .v4 octets service => dotted octets ++ ":" ++ toString service
  | .v6 groups scope service =>
    "[" ++ text6 groups ++ (if scope = 0 then "" else "%" ++ toString scope) ++ "]:" ++
      toString service

end SocketAddress

end ClaimTracker
