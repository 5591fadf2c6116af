import ClaimTracker.Instant.Parser
import ClaimTracker.Instant
import ClaimTracker.Proofs.Text.Decimal

/-!
# Reading back written instants

Part by part, what was written is read and what follows it is left: the year with its sign, the
date, the fraction with as many digits as it was given, the time of day with a second more in a leap
second, and the offset. So every instant is read as it was written.
-/

namespace ClaimTracker.Instant

open ClaimTracker.Text

lemma mark?_cons {marks : List Char} {c : Char} (h : c ∈ marks) (visible : isBlank c = false)
    (l : List Char) : mark? marks (c :: l) = some l := by
  simp [mark?, trimStart, visible, h]

lemma twoDigits?_fixed {n : Nat} (h : n < 100) {rest : List Char} (stops : Decimal.Stops rest) :
    twoDigits? (Decimal.fixed 2 n ++ rest) = some (n, rest) := by
  rw [twoDigits?, Decimal.trimStart_digits (Decimal.fixed_succ_ne_nil 1 n)
    fun _ => Decimal.isDigit_fixed]
  exact Decimal.read?_fixed h stops

/-- A year after a sign may have any number of digits. -/
lemma read?_padded (n : Nat) {rest : List Char} (stops : Decimal.Stops rest) :
    Decimal.read? none (Decimal.padded 4 n ++ rest) = some (n, rest) := by
  rw [Decimal.read?_append (Decimal.padded_succ_ne_nil 3 n) (fun _ => Decimal.isDigit_padded)
    (by simp) stops, Decimal.value_padded]

/-- A year without a sign. -/
lemma year?_digits {digits rest : List Char} {n : Nat} (nonempty : digits ≠ [])
    (h : ∀ c ∈ digits, c.isDigit = true)
    (read : Decimal.read? (some 4) (digits ++ rest) = some (n, rest)) :
    year? (digits ++ rest) = some ((n : Int), rest) := by
  have trimmed := Decimal.trimStart_digits nonempty h rest
  cases digits with
  | nil => exact absurd rfl nonempty
  | cons c digits =>
    have digit := h c List.mem_cons_self
    have plus : c ≠ '+' := by rintro rfl; cases digit
    have minus : c ≠ '-' := by rintro rfl; cases digit
    rw [List.cons_append] at trimmed read ⊢
    rw [year?, trimmed]
    split
    · rename_i l heq
      exact absurd (List.cons.inj heq).1 minus
    · rename_i l heq
      exact absurd (List.cons.inj heq).1 plus
    · rw [read]
      rfl

lemma year?_writeYear (year : Int) {rest : List Char} (stops : Decimal.Stops rest) :
    year? (writeYear year ++ rest) = some (year, rest) := by
  rw [writeYear]
  by_cases plain : 0 ≤ year ∧ year ≤ 9999
  · have value : (year.toNat : Int) = year := Int.toNat_of_nonneg plain.1
    have small : year.toNat < Nat.pow 10 4 := by simp; omega
    rw [if_pos plain, year?_digits (Decimal.fixed_succ_ne_nil 3 _) (fun _ => Decimal.isDigit_fixed)
      (Decimal.read?_fixed small stops), value]
  have magnitude := read?_padded year.natAbs stops
  rw [if_neg plain, List.cons_append]
  by_cases negative : year < 0
  · have value : -(year.natAbs : Int) = year := by omega
    have signed : ∀ l, trimStart ('-' :: l) = '-' :: l := fun l => rfl
    rw [if_pos negative, year?, signed]
    simp only [magnitude, Option.map_some, value]
  · have value : (year.natAbs : Int) = year := by omega
    have signed : ∀ l, trimStart ('+' :: l) = '+' :: l := fun l => rfl
    rw [if_neg negative, year?, signed]
    simp only [magnitude, Option.map_some, value]

lemma date?_writeDate (d : Date) {rest : List Char} (stops : Decimal.Stops rest) :
    date? (writeDate d ++ rest) = some (d, rest) := by
  have day_lt : d.day < 100 := by
    have := d.day_le
    unfold daysInMonth at this
    split at this <;> (try split at this) <;> omega
  have year := year?_writeYear d.year (Decimal.stops_cons (c := '-') rfl
    (Decimal.fixed 2 d.month ++ '-' :: (Decimal.fixed 2 d.day ++ rest)))
  have month := twoDigits?_fixed (n := d.month) (by have := d.month_le; omega)
    (Decimal.stops_cons (c := '-') rfl (Decimal.fixed 2 d.day ++ rest))
  have day := twoDigits?_fixed day_lt stops
  have hyphen : ∀ l, mark? ['-'] ('-' :: l) = some l := mark?_cons List.mem_cons_self rfl
  simp [date?, writeDate, year, month, day, hyphen, Date.of?_eq_some]

/-- The digits of a fraction stand for the nanoseconds if zeros are put behind them. -/
lemma fraction?_fixed (width : Nat) {n : Nat} (h : n < Nat.pow 10 (width + 1)) (short : width < 9)
    {rest : List Char} (stops : Decimal.Stops rest) :
    fraction? ('.' :: (Decimal.fixed (width + 1) n ++ rest)) =
      some (n * Nat.pow 10 (9 - (width + 1)), rest) := by
  have digits : ∀ c ∈ Decimal.fixed (width + 1) n, c.isDigit = true :=
    fun _ => Decimal.isDigit_fixed
  have length := Decimal.length_fixed (width + 1) n
  have kept : (Decimal.fixed (width + 1) n).take 9 = Decimal.fixed (width + 1) n :=
    List.take_of_length_le (by omega)
  simp only [fraction?, Decimal.takeWhile_append_of_stops digits stops,
    Decimal.dropWhile_append_of_stops digits stops]
  split
  · rename_i empty
    exact absurd empty (Decimal.fixed_succ_ne_nil width n)
  · rw [kept, Decimal.value_fixed, Nat.mod_eq_of_lt h, length]

lemma fraction?_writeFraction {nano : Nat} (h : nano < 1000000000) {rest : List Char}
    (stops : Decimal.Stops rest) (pointless : rest.head? ≠ some '.') :
    fraction? (writeFraction nano ++ rest) = some (nano, rest) := by
  rw [writeFraction]
  by_cases zero : nano = 0
  · rw [if_pos zero, zero, List.nil_append]
    cases rest with
    | nil => rfl
    | cons c rest =>
      have point : c ≠ '.' := fun heq => pointless (congrArg some heq)
      simp [fraction?, point]
  rw [if_neg zero]
  by_cases millis : nano % 1000000 = 0
  · rw [if_pos millis, List.cons_append,
      fraction?_fixed 2 (by simp; omega) (by omega) stops]
    simp
    omega
  rw [if_neg millis]
  by_cases micros : nano % 1000 = 0
  · rw [if_pos micros, List.cons_append,
      fraction?_fixed 5 (by simp; omega) (by omega) stops]
    simp
    omega
  · rw [if_neg micros, List.cons_append,
      fraction?_fixed 8 (by simp; omega) (by omega) stops]
    simp

lemma stops_writeFraction (nano : Nat) {rest : List Char} (stops : Decimal.Stops rest) :
    Decimal.Stops (writeFraction nano ++ rest) := by
  rw [writeFraction]
  split
  · exact stops
  split
  · exact Decimal.stops_cons rfl _
  split <;> exact Decimal.stops_cons rfl _

/-- The second that a clock shows: 60 in a leap second. -/
def shownSecond (t : Instant) : Nat :=
  if t.nano < 1000000000 then t.second else 60

lemma writeTime_eq (t : Instant) : writeTime t = Decimal.fixed 2 t.hour ++
    ':' :: Decimal.fixed 2 t.minute ++ ':' :: Decimal.fixed 2 t.shownSecond ++
      writeFraction (t.nano % 1000000000) := by
  rw [writeTime, shownSecond]
  split
  · rfl
  · rename_i leap
    rw [t.leap_second (Nat.le_of_not_lt leap)]

/-- A written time of day is read as a clock shows it. -/
lemma clock?_writeTime (t : Instant) {rest : List Char} (stops : Decimal.Stops rest)
    (pointless : rest.head? ≠ some '.') :
    clock? (writeTime t ++ rest) =
      some (⟨t.hour, t.minute, t.shownSecond, t.nano % 1000000000⟩, rest) := by
  have second_le : t.shownSecond ≤ 60 := by
    have := t.second_lt
    rw [shownSecond]
    split <;> omega
  have hour := twoDigits?_fixed (n := t.hour) (by have := t.hour_lt; omega)
    (Decimal.stops_cons (c := ':') rfl (Decimal.fixed 2 t.minute ++
      ':' :: (Decimal.fixed 2 t.shownSecond ++ (writeFraction (t.nano % 1000000000) ++ rest))))
  have minute := twoDigits?_fixed (n := t.minute) (by have := t.minute_lt; omega)
    (Decimal.stops_cons (c := ':') rfl
      (Decimal.fixed 2 t.shownSecond ++ (writeFraction (t.nano % 1000000000) ++ rest)))
  have second := twoDigits?_fixed (n := t.shownSecond) (by omega)
    (stops_writeFraction (t.nano % 1000000000) stops)
  have fraction := fraction?_writeFraction (Nat.mod_lt t.nano (by omega)) stops pointless
  have colon : ∀ l, mark? [':'] (':' :: l) = some l := mark?_cons List.mem_cons_self rfl
  simp [clock?, writeTime_eq, hour, minute, second, fraction, colon, t.hour_lt, t.minute_lt,
    second_le]

/-- A clock that is not ahead shows the moment itself. -/
lemma ofLocal?_self (t : Instant) :
    ofLocal? t.date t.hour t.minute t.second t.nano 0 = some t := by
  have minutes : ((t.hour * 60 + t.minute - 0 : Int) % 1440).toNat = t.hour * 60 + t.minute := by
    have := t.hour_lt
    have := t.minute_lt
    omega
  have hour : (t.hour * 60 + t.minute) / 60 = t.hour := by
    have := t.minute_lt
    omega
  have minute : (t.hour * 60 + t.minute) % 60 = t.minute := by
    have := t.minute_lt
    omega
  have same_day : ¬ (t.hour * 60 + t.minute - 0 : Int) < 0 ∧
      ¬ 1440 ≤ (t.hour * 60 + t.minute - 0 : Int) := by
    have := t.hour_lt
    have := t.minute_lt
    omega
  simp only [ofLocal?, minutes, hour, minute, if_neg same_day.1, if_neg same_day.2]
  exact t.of?_eq_some

/-- What was written is read. -/
lemma read?_write (t : Instant) : read? t.write = some t := by
  have date := date?_writeDate t.date (Decimal.stops_cons (c := 'T') rfl (writeTime t ++ ['Z']))
  have clock : clock? (writeTime t ++ ['Z']) =
      some (⟨t.hour, t.minute, t.shownSecond, t.nano % 1000000000⟩, ['Z']) :=
    clock?_writeTime t (Decimal.stops_cons rfl []) (by simp)
  have offset : offset? ['Z'] = some (0, []) := rfl
  have whole : t.write = writeDate t.date ++ 'T' :: (writeTime t ++ ['Z']) := by
    rw [write, List.append_assoc, List.cons_append]
  rw [whole, read?, date]
  simp only [bind, Option.bind, true_or, if_true, clock, offset, trimStart, List.dropWhile_nil,
    ne_eq, not_true, if_false]
  by_cases leap : t.nano < 1000000000
  · have second : t.shownSecond = t.second := if_pos leap
    have ordinary : t.second ≠ 60 := by
      have := t.second_lt
      omega
    simp only [second, if_neg ordinary, Nat.mod_eq_of_lt leap]
    exact ofLocal?_self t
  · have second : t.shownSecond = 60 := if_neg leap
    have nano : t.nano % 1000000000 + 1000000000 = t.nano := by
      have := t.nano_lt
      omega
    simp only [second, if_true, nano]
    rw [← t.leap_second (Nat.le_of_not_lt leap)]
    exact ofLocal?_self t

/-- The text of an instant is read as the instant. -/
theorem ofText?_text (t : Instant) : ofText? t.text = some t := by
  rw [ofText?, text, String.toList_ofList]
  exact read?_write t

end ClaimTracker.Instant
