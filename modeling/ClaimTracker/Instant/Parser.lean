import ClaimTracker.Instant
import ClaimTracker.Text.Blank
import ClaimTracker.Text.Digits

/-!
# Reading instants

A written moment is a date, one of `T`, `t` and a blank, a time of day with seconds, and an offset.
Blanks may stand around the whole, before every number and separator inside, and before the offset.
Numbers of two places may have one digit; a year without a sign has at most four, with a sign any
number of digits. Of a fraction the first nine digits count. The offset is `Z`, `UTC` in any case, or
a sign with two digits of hours and two of minutes, between which colons and blanks may stand. Second
60 is a leap second.
-/

namespace ClaimTracker.Instant

open ClaimTracker.Text

/-- Skips blanks and reads one of the characters. -/
def mark? (marks : List Char) (l : List Char) : Option (List Char) :=
  match trimStart l with
  | c :: l => if c ∈ marks then some l else none
  | [] => none

def twoDigits? (l : List Char) : Option (Nat × List Char) :=
  Decimal.read? (some 2) (trimStart l)

def year? (l : List Char) : Option (Int × List Char) :=
  match trimStart l with
  | '-' :: l => (Decimal.read? none l).map fun (n, l) => (-(n : Int), l)
  | '+' :: l => (Decimal.read? none l).map fun (n, l) => ((n : Int), l)
  | l => (Decimal.read? (some 4) l).map fun (n, l) => ((n : Int), l)

def date? (l : List Char) : Option (Date × List Char) := do
  let (year, l) ← year? l
  let l ← mark? ['-'] l
  let (month, l) ← twoDigits? l
  let l ← mark? ['-'] l
  let (day, l) ← twoDigits? l
  let date ← Date.of? year month day
  return (date, l)

/-- Reads what directly follows the seconds: a point and digits, or nothing. The value is in
nanoseconds. -/
def fraction? : List Char → Option (Nat × List Char)
  | '.' :: l =>
    match l.takeWhile Char.isDigit with
    | [] => none
    | digits =>
      let kept := digits.take 9
      some (Decimal.value kept * Nat.pow 10 (9 - kept.length), l.dropWhile Char.isDigit)
  | l => some (0, l)

/-- A time of day as written: second 60 and offsets are not resolved. -/
structure Clock where
  hour : Nat
  minute : Nat
  second : Nat
  nano : Nat

def clock? (l : List Char) : Option (Clock × List Char) := do
  let (hour, l) ← twoDigits? l
  let l ← mark? [':'] l
  let (minute, l) ← twoDigits? l
  let l ← mark? [':'] l
  let (second, l) ← twoDigits? l
  let (nano, l) ← fraction? l
  if hour < 24 ∧ minute < 60 ∧ second ≤ 60 then return (⟨hour, minute, second, nano⟩, l)
  none

def digitPair? : List Char → Option (Nat × List Char)
  | c :: d :: l => if c.isDigit ∧ d.isDigit then some (Decimal.value [c, d], l) else none
  | _ => none

/-- Reads hours and minutes of an offset; between them colons and blanks are skipped. -/
def offsetMinutes? (l : List Char) : Option (Nat × List Char) := do
  let (hours, l) ← digitPair? l
  let (minutes, l) ← digitPair? (l.dropWhile fun c => c == ':' || isBlank c)
  if minutes < 60 ∧ hours < 24 then return (hours * 60 + minutes, l)
  none

/-- Skips blanks and reads an offset, in minutes ahead of universal time. -/
def offset? (l : List Char) : Option (Int × List Char) :=
  match trimStart l with
  | '+' :: l => (offsetMinutes? l).map fun (n, l) => ((n : Int), l)
  | '-' :: l | '−' :: l => (offsetMinutes? l).map fun (n, l) => (-(n : Int), l)
  | l =>
    match l with
    | 'z' :: l | 'Z' :: l => some (0, l)
    | u :: t :: c :: l =>
      if u.toUpper = 'U' ∧ t.toUpper = 'T' ∧ c.toUpper = 'C' then some (0, l) else none
    | _ => none

def read? (l : List Char) : Option Instant := do
  let (date, l) ← date? l
  let l ← match l with
    | c :: l => if c = 'T' ∨ c = 't' ∨ c = ' ' then some l else none
    | [] => none
  let (clock, l) ← clock? l
  let (offset, l) ← offset? l
  if trimStart l ≠ [] then none
  if clock.second = 60 then
    ofLocal? date clock.hour clock.minute 59 (clock.nano + 1000000000) offset
  else
    ofLocal? date clock.hour clock.minute clock.second clock.nano offset

def ofText? (s : String) : Option Instant :=
  read? s.toList

end ClaimTracker.Instant
