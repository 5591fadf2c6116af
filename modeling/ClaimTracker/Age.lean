import ClaimTracker.Text.Digits

/-!
# Ages

An age is shown by its two largest units where the larger is the day or the hour, and else by the
larger alone; what is left over is dropped. `readText` reads an age back as seconds.
-/

namespace ClaimTracker

/-- An age in the units in which it is shown. -/
inductive Age where
  | days (d h : Nat)
  | hours (h m : Nat)
  | minutes (m : Nat)
  | seconds (s : Nat)
deriving DecidableEq, Repr

namespace Age

def ofSeconds (n : Nat) : Age :=
  let d := n / 86400
  let h := n % 86400 / 3600
  let m := n % 3600 / 60
  if 0 < d then .days d h
  else if 0 < h then .hours h m
  else if 0 < m then .minutes m
  else .seconds (n % 60)

def toSeconds : Age → Nat
  | .days d h => d * 86400 + h * 3600
  | .hours h m => h * 3600 + m * 60
  | .minutes m => m * 60
  | .seconds s => s

/-- A number with the letter of its unit. -/
def part (n : Nat) (unit : Char) : List Char :=
  Text.Decimal.write n ++ [unit]

def write : Age → List Char
  | .days d h => part d 'd' ++ part h 'h'
  | .hours h m => part h 'h' ++ part m 'm'
  | .minutes m => part m 'm'
  | .seconds s => part s 's'

/-- How an age is shown; an unknown one is a dash. -/
def shown (seconds : Option Nat) : String :=
  match seconds with
  | some n => String.ofList (ofSeconds n).write
  | none => "-"

/-- The seconds in a unit. -/
def unit? : Char → Option Nat
  | 'd' => some 86400
  | 'h' => some 3600
  | 'm' => some 60
  | 's' => some 1
  | _ => none

def readPart (l : List Char) : Option (Nat × List Char) := do
  let (n, l) ← Text.Decimal.read? none l
  match l with
  | c :: l => (unit? c).map fun unit => (n * unit, l)
  | [] => none

/-- Reads an age of one part or two, as seconds. -/
def readText (l : List Char) : Option Nat := do
  let (n, l) ← readPart l
  if l.isEmpty then return n
  let (m, l) ← readPart l
  if l.isEmpty then return n + m
  none

end Age

end ClaimTracker
