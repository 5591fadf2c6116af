import ClaimTracker.Date
import ClaimTracker.Text.Digits

/-!
# Instants

An instant is a moment of universal time, to the nanosecond. A leap second is the 59th second of a
minute with a fraction of one second or more, so that instants are ordered by their fields.

An instant is written as date, `T`, time and `Z`. Years from 0 to 9999 have four digits and no sign,
all others a sign and at least four digits. The fraction has no, three, six or nine digits, as few
as lose nothing. A leap second is written as second 60.
-/

namespace ClaimTracker

/-- A moment of universal time. -/
@[ext] structure Instant where
  date : Date
  hour : Nat
  minute : Nat
  second : Nat
  /-- Nanoseconds past the second, a whole second more within a leap second. -/
  nano : Nat
  hour_lt : hour < 24
  minute_lt : minute < 60
  second_lt : second < 60
  nano_lt : nano < 2000000000
  leap_second : 1000000000 ≤ nano → second = 59
deriving DecidableEq, Repr

namespace Instant

def of? (date : Date) (hour minute second nano : Nat) : Option Instant :=
  if h : (hour < 24 ∧ minute < 60 ∧ second < 60) ∧ nano < 2000000000 ∧
      (1000000000 ≤ nano → second = 59) then
    some ⟨date, hour, minute, second, nano, h.1.1, h.1.2.1, h.1.2.2, h.2.1, h.2.2⟩
  else none

/-- The moment at which clocks that are `offset` minutes ahead show these numbers. -/
def ofLocal? (date : Date) (hour minute second nano : Nat) (offset : Int) : Option Instant := do
  let minutes : Int := hour * 60 + minute - offset
  let date ← if minutes < 0 then date.prev? else if 1440 ≤ minutes then date.next? else some date
  let ofDay := (minutes % 1440).toNat
  of? date (ofDay / 60) (ofDay % 60) second nano

def secondOfDay (t : Instant) : Nat :=
  t.hour * 3600 + t.minute * 60 + t.second

/-- Nanoseconds from `s` to `t`. A leap second counts only when the other moment lies at another
second of the day. -/
def nanosSince (t s : Instant) : Int :=
  let leap : Int :=
    if s.secondOfDay < t.secondOfDay ∧ 1000000000 ≤ s.nano then 1
    else if t.secondOfDay < s.secondOfDay ∧ 1000000000 ≤ t.nano then -1
    else 0
  let days := t.date.dayNumber - s.date.dayNumber
  (days * 86400 + t.secondOfDay - s.secondOfDay + leap) * 1000000000 + t.nano - s.nano

/-- The whole seconds from `s` to `t`, none if `s` is later. -/
def secondsSince (t s : Instant) : Nat :=
  (t.nanosSince s).toNat / 1000000000

/-- The moment that many seconds after the start of 1970, leap seconds not counted. -/
def ofUnixSeconds? (n : Int) : Option Instant := do
  let date ← Date.ofDayNumber? (n / 86400)
  let ofDay := (n % 86400).toNat
  of? date (ofDay / 3600) (ofDay / 60 % 60) (ofDay % 60) 0

theorem of?_eq_some (t : Instant) : of? t.date t.hour t.minute t.second t.nano = some t := by
  simp only [of?, t.hour_lt, t.minute_lt, t.second_lt, t.nano_lt, and_self, true_and]
  rw [dif_pos t.leap_second]

open ClaimTracker.Text

/-- The digits of a year, with a sign outside 0 to 9999. -/
def writeYear (year : Int) : List Char :=
  if 0 ≤ year ∧ year ≤ 9999 then Decimal.fixed 4 year.toNat
  else (if year < 0 then '-' else '+') :: Decimal.padded 4 year.natAbs

def writeFraction (nano : Nat) : List Char :=
  if nano = 0 then []
  else if nano % 1000000 = 0 then '.' :: Decimal.fixed 3 (nano / 1000000)
  else if nano % 1000 = 0 then '.' :: Decimal.fixed 6 (nano / 1000)
  else '.' :: Decimal.fixed 9 nano

def writeDate (d : Date) : List Char :=
  writeYear d.year ++ '-' :: Decimal.fixed 2 d.month ++ '-' :: Decimal.fixed 2 d.day

def writeTime (t : Instant) : List Char :=
  let second := if t.nano < 1000000000 then t.second else t.second + 1
  Decimal.fixed 2 t.hour ++ ':' :: Decimal.fixed 2 t.minute ++ ':' :: Decimal.fixed 2 second ++
    writeFraction (t.nano % 1000000000)

def write (t : Instant) : List Char :=
  writeDate t.date ++ 'T' :: writeTime t ++ ['Z']

def text (t : Instant) : String :=
  String.ofList t.write

end Instant

end ClaimTracker
