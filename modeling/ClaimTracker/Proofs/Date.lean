import Mathlib.Tactic.IntervalCases
import Mathlib.Tactic.Lemma
import ClaimTracker.Date

/-!
# The order of the calendar

Days are counted on from one date to the next, through months of different lengths and leap years. So
of two dates the earlier one has the smaller number.
-/

namespace ClaimTracker.Date

def IsBefore (d e : Date) : Prop :=
  d.year < e.year ∨ d.year = e.year ∧ (d.month < e.month ∨ d.month = e.month ∧ d.day < e.day)

/-- The year that a date falls in, if years begin in March. -/
def marchYear (d : Date) : Int :=
  if d.month ≤ 2 then d.year - 1 else d.year

/-- The months that have passed since March. -/
def marchMonth (d : Date) : Int :=
  if d.month ≤ 2 then d.month + 9 else d.month - 3

def yearStart (year : Int) : Int :=
  365 * year + year / 4 - year / 100 + year / 400

def monthStart (month : Int) : Int :=
  (153 * month + 2) / 5

lemma dayNumber_eq (d : Date) :
    d.dayNumber = yearStart d.marchYear + monthStart d.marchMonth + d.day - 1 - 719468 := rfl

lemma yearStart_mono {y z : Int} (h : y ≤ z) : yearStart y ≤ yearStart z := by
  simp only [yearStart]
  omega

lemma monthStart_mono {m n : Int} (h : m ≤ n) : monthStart m ≤ monthStart n := by
  simp only [monthStart]
  omega

lemma monthStart_marchMonth_nonneg (d : Date) : 0 ≤ monthStart d.marchMonth := by
  have pos := d.month_pos
  simp only [monthStart, marchMonth]
  split <;> omega

lemma marchMonth_le (d : Date) : d.marchMonth ≤ 11 := by
  have le := d.month_le
  simp only [marchMonth]
  split <;> omega

/-- The 29th of February is there in leap years only, and is the last day of the year that begins in
March. -/
lemma daysInMonth_two_le (year : Int) :
    yearStart (year - 1) + monthStart 11 + daysInMonth year 2 ≤ yearStart year := by
  simp only [daysInMonth, yearStart, monthStart]
  split
  · rename_i leap
    simp only [isLeapYear, Bool.and_eq_true, Bool.or_eq_true, beq_iff_eq, bne_iff_ne] at leap
    omega
  · omega

/-- A month ends where the next one begins, or before. -/
lemma day_le_monthStart {d : Date} (h : d.marchMonth < 11) :
    monthStart d.marchMonth + d.day ≤ monthStart (d.marchMonth + 1) := by
  obtain ⟨year, month, day, _, _, pos, le, _, day_le⟩ := d
  simp only [marchMonth, monthStart] at h ⊢
  interval_cases month
  all_goals simp only [daysInMonth] at day_le
  all_goals omega

/-- A year ends where the next one begins. -/
lemma day_le_yearStart (d : Date) :
    yearStart d.marchYear + monthStart d.marchMonth + d.day ≤ yearStart (d.marchYear + 1) := by
  rcases lt_or_eq_of_le d.marchMonth_le with early | last
  · have month := day_le_monthStart early
    simp only [monthStart, yearStart] at month ⊢
    omega
  · have february : d.month = 2 := by
      have pos := d.month_pos
      have le := d.month_le
      simp only [marchMonth] at last
      split at last <;> omega
    have day := d.day_le
    have whole := daysInMonth_two_le d.year
    rw [february] at day
    rw [last, marchYear, if_pos (Nat.le_of_eq february), Int.sub_add_cancel]
    omega

/-- The earlier of two dates is in an earlier year, in an earlier month of one year, or on an earlier day
of one month, also if years begin in March. -/
lemma IsBefore.march {d e : Date} (h : d.IsBefore e) :
    d.marchYear < e.marchYear ∨ d.marchYear = e.marchYear ∧
      (d.marchMonth < e.marchMonth ∨ d.marchMonth = e.marchMonth ∧ d.day < e.day) := by
  have pos := e.month_pos
  have le := d.month_le
  simp only [IsBefore, marchYear, marchMonth] at h ⊢
  split <;> split <;> omega

/-- The earlier of two dates has the smaller number. -/
lemma IsBefore.dayNumber_lt {d e : Date} (h : d.IsBefore e) : d.dayNumber < e.dayNumber := by
  have day_pos := e.day_pos
  have month_nonneg := e.monthStart_marchMonth_nonneg
  rw [dayNumber_eq, dayNumber_eq]
  rcases h.march with year | ⟨year, month | ⟨month, day⟩⟩
  · have ends := d.day_le_yearStart
    have starts := yearStart_mono (Int.add_one_le_of_lt year)
    omega
  · have ends := day_le_monthStart (lt_of_lt_of_le month e.marchMonth_le)
    have starts := monthStart_mono (Int.add_one_le_of_lt month)
    rw [year]
    omega
  · rw [year, month]
    omega

end ClaimTracker.Date
