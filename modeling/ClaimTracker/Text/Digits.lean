/-!
# Digits

In decimal, `write` gives the digits of a number, `fixed` a given count of its last digits, and `value`
reads digits back. `word?` reads a text as a word: a number of 64 bits without a sign. Durations and
counts that are given to the program are words, and so is what a gauge shows.

In hexadecimal, `digit` and `upperDigit` write a digit in lower and in upper case, and `digitValue?` reads
both.
-/

namespace ClaimTracker

def maxWord : Nat := 18446744073709551615

namespace Text.Decimal

/-- The character of a digit below ten. -/
def digit (n : Nat) : Char :=
  Char.ofNat (48 + n % 10)

def digitValue (c : Char) : Nat :=
  c.toNat - 48

def value (l : List Char) : Nat :=
  l.foldl (fun n c => 10 * n + digitValue c) 0

/-- The digits of a number, without leading zeros. -/
def write (n : Nat) : List Char :=
  if n < 10 then [digit n] else write (n / 10) ++ [digit n]

/-- The last `width` digits of a number, with leading zeros. -/
def fixed : Nat → Nat → List Char
  | 0, _ => []
  | width + 1, n => fixed width (n / 10) ++ [digit n]

/-- The digits of a number, with leading zeros up to `width` digits. -/
def padded (width n : Nat) : List Char :=
  if n < Nat.pow 10 width then fixed width n else write n

/-- The digits in front, at most `width` of them where a width is given. -/
def leading (width : Option Nat) (l : List Char) : List Char :=
  let digits := l.takeWhile Char.isDigit
  match width with
  | none => digits
  | some w => digits.take w

/-- Reads the number in front, of at least one and at most `width` digits. -/
def read? (width : Option Nat) (l : List Char) : Option (Nat × List Char) :=
  match leading width l with
  | [] => none
  | digits => some (value digits, l.drop digits.length)

/-- The word that a text of digits writes, with or without a plus sign. -/
def word? (s : String) : Option Nat :=
  let digits := match s.toList with
    | '+' :: l => l
    | l => l
  if digits.isEmpty ∨ !digits.all Char.isDigit ∨ maxWord < value digits then none
  else some (value digits)

theorem isDigit_digit (n : Nat) : (digit n).isDigit = true := by
  have h : ∀ m < 10, (digit m).isDigit = true := by decide
  have := h (n % 10) (by omega)
  simpa [digit] using this

theorem digitValue_digit (n : Nat) : digitValue (digit n) = n % 10 := by
  have h : ∀ m < 10, digitValue (digit m) = m := by decide
  have := h (n % 10) (by omega)
  simpa [digit] using this

theorem value_append_digit (l : List Char) (n : Nat) :
    value (l ++ [digit n]) = 10 * value l + n % 10 := by
  simp [value, digitValue_digit]

theorem value_write (n : Nat) : value (write n) = n := by
  fun_induction write n with
  | case1 n h => simp [value, digitValue_digit]; omega
  | case2 n h ih => rw [value_append_digit, ih]; omega

theorem value_fixed (width n : Nat) : value (fixed width n) = n % Nat.pow 10 width := by
  induction width generalizing n with
  | zero => simp [fixed, value, Nat.mod_one]
  | succ w ih =>
    have h : Nat.pow 10 (w + 1) = 10 * Nat.pow 10 w := Nat.mul_comm _ _
    rw [fixed, value_append_digit, ih, h, Nat.mod_mul, Nat.add_comm]

end Text.Decimal

namespace Text.Hexadecimal

/-- The character of a digit below sixteen, in lower case. -/
def digit (n : Nat) : Char :=
  Nat.digitChar (n % 16)

/-- The character of a digit below sixteen, in upper case. -/
def upperDigit (n : Nat) : Char :=
  (digit n).toUpper

def digitValue? (c : Char) : Option Nat :=
  if c.isDigit then some (c.toNat - 48)
  else if 'a' ≤ c ∧ c ≤ 'f' then some (c.toNat - 87)
  else if 'A' ≤ c ∧ c ≤ 'F' then some (c.toNat - 55)
  else none

def value? (l : List Char) : Option Nat :=
  l.foldlM (fun n c => (digitValue? c).map (16 * n + ·)) 0

/-- The digits of a number, without leading zeros. -/
def write (n : Nat) : List Char :=
  Nat.toDigits 16 n

theorem digitValue?_digit (n : Nat) : digitValue? (digit n) = some (n % 16) := by
  have h : ∀ m < 16, digitValue? (digit m) = some m := by decide
  have := h (n % 16) (by omega)
  simpa [digit] using this

example : value? ['f', 'F', '0'] = some 4080 := by decide

end Text.Hexadecimal

end ClaimTracker
