import ClaimTracker.Instant
import ClaimTracker.Proofs.Date

/-!
# How much time has passed

The time from one moment to another is counted in whole seconds, and what is left of a second is
dropped. Nothing has passed since a moment that is still to come, also where one of the two moments
lies within a leap second.
-/

namespace ClaimTracker.Instant

def IsBefore (s t : Instant) : Prop :=
  s.date.IsBefore t.date ∨ s.date = t.date ∧
    (s.secondOfDay < t.secondOfDay ∨ s.secondOfDay = t.secondOfDay ∧ s.nano < t.nano)

lemma secondOfDay_lt (t : Instant) : t.secondOfDay < 86400 := by
  have hour := t.hour_lt
  have minute := t.minute_lt
  have second := t.second_lt
  simp only [secondOfDay]
  omega

/-- A leap second ends its minute. -/
lemma le_secondOfDay_of_leap {t : Instant} (leap : 1000000000 ≤ t.nano) : 59 ≤ t.secondOfDay := by
  have second := t.leap_second leap
  simp only [secondOfDay]
  omega

/-- Since a moment that is still to come, less than a second has passed. It may be more than nothing, as a
leap second at the end of a day reaches past the start of the next one. -/
lemma nanosSince_lt_of_isBefore {s t : Instant} (h : t.IsBefore s) :
    t.nanosSince s < 1000000000 := by
  have within := t.secondOfDay_lt
  have nano := t.nano_lt
  have late : 1000000000 ≤ s.nano → 59 ≤ s.secondOfDay := le_secondOfDay_of_leap
  simp only [nanosSince]
  rcases h with date | ⟨date, second | ⟨second, fraction⟩⟩
  · have days := date.dayNumber_lt
    split_ifs <;> omega
  · rw [date]
    split_ifs <;> omega
  · rw [date, second]
    split_ifs <;> omega

lemma secondsSince_eq_zero_of_isBefore {s t : Instant} (h : t.IsBefore s) :
    t.secondsSince s = 0 := by
  have short := nanosSince_lt_of_isBefore h
  rw [secondsSince]
  omega

/-- A span of nanoseconds has so many whole seconds, and none if it is less than nothing. -/
def IsWholeSeconds (span : Int) (n : Nat) : Prop :=
  span < 0 ∧ n = 0 ∨ n * 1000000000 ≤ span ∧ span < (n + 1) * 1000000000

lemma isWholeSeconds_secondsSince (t s : Instant) :
    IsWholeSeconds (t.nanosSince s) (t.secondsSince s) := by
  rw [IsWholeSeconds, secondsSince]
  omega

end ClaimTracker.Instant
