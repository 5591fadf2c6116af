import ClaimTracker.Text.Blank
import ClaimTracker.Text.Digits
import Mathlib.Tactic.Lemma

/-!
# Reading back digits

Digits that are followed by no other digit are read as a whole, if they are not too many for the
place. No digit is blank, so blanks may be skipped before them.
-/

namespace ClaimTracker.Text.Decimal

/-- What follows does not go on with a digit. -/
def Stops (rest : List Char) : Prop :=
  ∀ c ∈ rest.head?, c.isDigit = false

lemma stops_cons {c : Char} (h : c.isDigit = false) (rest : List Char) : Stops (c :: rest) := by
  intro d hd
  obtain rfl : c = d := Option.some.inj hd
  exact h

lemma takeWhile_append_of_stops {digits rest : List Char} (h : ∀ c ∈ digits, c.isDigit = true)
    (stops : Stops rest) : (digits ++ rest).takeWhile Char.isDigit = digits := by
  rw [List.takeWhile_append_of_pos h]
  cases rest with
  | nil => simp
  | cons c rest => simp [stops c rfl]

lemma dropWhile_append_of_stops {digits rest : List Char} (h : ∀ c ∈ digits, c.isDigit = true)
    (stops : Stops rest) : (digits ++ rest).dropWhile Char.isDigit = rest := by
  rw [List.dropWhile_append_of_pos h]
  cases rest with
  | nil => rfl
  | cons c rest => simp [stops c rfl]

/-- Digits that fit are read up to where they stop. -/
lemma read?_append {width : Option Nat} {digits rest : List Char} (nonempty : digits ≠ [])
    (h : ∀ c ∈ digits, c.isDigit = true) (fits : ∀ w ∈ width, digits.length ≤ w)
    (stops : Stops rest) : read? width (digits ++ rest) = some (value digits, rest) := by
  have front : leading width (digits ++ rest) = digits := by
    have taken := takeWhile_append_of_stops h stops
    cases width with
    | none => exact taken
    | some w =>
      simp only [leading, taken]
      exact List.take_of_length_le (fits w rfl)
  rw [read?, front]
  cases digits with
  | nil => exact absurd rfl nonempty
  | cons c digits => simp

lemma isDigit_fixed {width n : Nat} {c : Char} (h : c ∈ fixed width n) : c.isDigit = true := by
  induction width generalizing n with
  | zero => cases h
  | succ width ih =>
    rcases List.mem_append.mp h with h | h
    · exact ih h
    · exact List.mem_singleton.mp h ▸ isDigit_digit n

lemma length_fixed (width n : Nat) : (fixed width n).length = width := by
  induction width generalizing n with
  | zero => rfl
  | succ width ih => rw [fixed, List.length_append, ih, List.length_singleton]

lemma fixed_succ_ne_nil (width n : Nat) : fixed (width + 1) n ≠ [] := by
  simp [fixed]

lemma isDigit_write {n : Nat} {c : Char} (h : c ∈ write n) : c.isDigit = true := by
  fun_induction write n with
  | case1 n _ => exact List.mem_singleton.mp h ▸ isDigit_digit n
  | case2 n _ ih =>
    rcases List.mem_append.mp h with h | h
    · exact ih h
    · exact List.mem_singleton.mp h ▸ isDigit_digit n

lemma write_ne_nil (n : Nat) : write n ≠ [] := by
  rw [write]
  split <;> simp

lemma isDigit_padded {width n : Nat} {c : Char} (h : c ∈ padded width n) : c.isDigit = true := by
  rw [padded] at h
  split at h
  · exact isDigit_fixed h
  · exact isDigit_write h

lemma padded_succ_ne_nil (width n : Nat) : padded (width + 1) n ≠ [] := by
  rw [padded]
  split
  · exact fixed_succ_ne_nil width n
  · exact write_ne_nil n

lemma value_padded (width n : Nat) : value (padded width n) = n := by
  rw [padded]
  split
  · rename_i h
    rw [value_fixed, Nat.mod_eq_of_lt h]
  · exact value_write n

/-- A number of a fixed count of digits is read where that many are wanted. -/
lemma read?_fixed {width n : Nat} (h : n < Nat.pow 10 (width + 1)) {rest : List Char}
    (stops : Stops rest) :
    read? (some (width + 1)) (fixed (width + 1) n ++ rest) = some (n, rest) := by
  rw [read?_append (fixed_succ_ne_nil width n) (fun _ => isDigit_fixed) ?_ stops, value_fixed,
    Nat.mod_eq_of_lt h]
  intro w hw
  obtain rfl : width + 1 = w := Option.some.inj hw
  exact Nat.le_of_eq (length_fixed _ n)

lemma isBlank_of_isDigit {c : Char} (h : c.isDigit = true) : isBlank c = false := by
  simp only [Char.isDigit, Bool.and_eq_true, decide_eq_true_eq, UInt32.le_iff_toNat_le] at h
  have code : c.toNat = c.val.toNat := rfl
  simp [isBlank]
  simp at h
  omega

/-- There are no blanks to skip before digits. -/
lemma trimStart_digits {digits : List Char} (nonempty : digits ≠ [])
    (h : ∀ c ∈ digits, c.isDigit = true) (rest : List Char) :
    trimStart (digits ++ rest) = digits ++ rest := by
  cases digits with
  | nil => exact absurd rfl nonempty
  | cons c digits => simp [trimStart, isBlank_of_isDigit (h c List.mem_cons_self)]

end ClaimTracker.Text.Decimal
