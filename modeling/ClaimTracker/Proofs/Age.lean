import ClaimTracker.Overview
import ClaimTracker.Proofs.Instant.Elapsed
import ClaimTracker.Proofs.Text.Decimal

/-!
# What a shown age tells

An age is shown in its largest units, and the smallest of them says how exactly. Read back, it is the
greatest multiple of that unit which does not exceed the seconds that have passed. The unit gets larger
as time goes on, and yet the age that is read back never gets less.
-/

namespace ClaimTracker

namespace Age

def resolution (n : Nat) : Nat :=
  if 86400 ≤ n then 3600 else if 60 ≤ n then 60 else 1

/-- The first part is not none unless it counts seconds, and no part but days comes to a larger unit. -/
def IsReduced : Age → Prop
  | .days d h => 1 ≤ d ∧ h < 24
  | .hours h m => 1 ≤ h ∧ h < 24 ∧ m < 60
  | .minutes m => 1 ≤ m ∧ m < 60
  | .seconds s => s < 60

section Truncation

lemma isReduced_ofSeconds (n : Nat) : (ofSeconds n).IsReduced := by
  simp only [ofSeconds]
  split_ifs <;> simp only [IsReduced] <;> omega

lemma toSeconds_ofSeconds (n : Nat) :
    (ofSeconds n).toSeconds = n / resolution n * resolution n := by
  simp only [ofSeconds, resolution]
  split_ifs <;> simp only [toSeconds] <;> omega

lemma toSeconds_ofSeconds_le (n : Nat) : (ofSeconds n).toSeconds ≤ n := by
  rw [toSeconds_ofSeconds]
  exact Nat.div_mul_le_self n (resolution n)

lemma resolution_pos (n : Nat) : 0 < resolution n := by
  simp only [resolution]
  split_ifs <;> omega

lemma lt_toSeconds_ofSeconds_add (n : Nat) : n < (ofSeconds n).toSeconds + resolution n := by
  rw [toSeconds_ofSeconds]
  exact Nat.lt_div_mul_add (resolution_pos n)

lemma toSeconds_ofSeconds_mono {m n : Nat} (h : m ≤ n) :
    (ofSeconds m).toSeconds ≤ (ofSeconds n).toSeconds := by
  rw [toSeconds_ofSeconds, toSeconds_ofSeconds]
  -- Where the unit changes, the boundary between the two numbers is a multiple of both units.
  simp only [resolution]
  split_ifs <;> omega

end Truncation

section Reading

variable {unit : Char}

lemma isDigit_of_unit? {k : Nat} (known : unit? unit = some k) : unit.isDigit = false := by
  simp only [unit?] at known
  split at known
  · rfl
  · rfl
  · rfl
  · rfl
  · cases known

/-- The number of a part is read up to the letter of its unit. -/
lemma read?_part (letter : unit.isDigit = false) (n : Nat) (l : List Char) :
    Text.Decimal.read? none (part n unit ++ l) = some (n, unit :: l) := by
  have read : Text.Decimal.read? none (Text.Decimal.write n ++ unit :: l) =
      some (Text.Decimal.value (Text.Decimal.write n), unit :: l) :=
    Text.Decimal.read?_append (Text.Decimal.write_ne_nil n)
      (fun _ => Text.Decimal.isDigit_write) (by simp) (Text.Decimal.stops_cons letter l)
  rw [Text.Decimal.value_write] at read
  rwa [part, List.append_assoc]

lemma read?_part_nil (letter : unit.isDigit = false) (n : Nat) :
    Text.Decimal.read? none (part n unit) = some (n, [unit]) := by
  have read := read?_part letter n []
  rwa [List.append_nil] at read

lemma readPart_part {k : Nat} (known : unit? unit = some k) (n : Nat) (l : List Char) :
    readPart (part n unit ++ l) = some (n * k, l) := by
  simp [readPart, read?_part (isDigit_of_unit? known), known]

lemma readPart_part_nil {k : Nat} (known : unit? unit = some k) (n : Nat) :
    readPart (part n unit) = some (n * k, []) := by
  have read := readPart_part known n []
  rwa [List.append_nil] at read

lemma part_ne_nil (n : Nat) (unit : Char) : part n unit ≠ [] := by
  simp [part]

/-- What is written of an age is read back as its seconds. -/
lemma readText_write (a : Age) : readText a.write = some a.toSeconds := by
  cases a with
  | days d h =>
    have first : readPart (part d 'd' ++ part h 'h') = some (d * 86400, part h 'h') :=
      readPart_part rfl d _
    have second : readPart (part h 'h') = some (h * 3600, []) := readPart_part_nil rfl h
    simp [readText, write, first, second, part_ne_nil, toSeconds]
  | hours h m =>
    have first : readPart (part h 'h' ++ part m 'm') = some (h * 3600, part m 'm') :=
      readPart_part rfl h _
    have second : readPart (part m 'm') = some (m * 60, []) := readPart_part_nil rfl m
    simp [readText, write, first, second, part_ne_nil, toSeconds]
  | minutes m =>
    have whole : readPart (part m 'm') = some (m * 60, []) := readPart_part_nil rfl m
    simp [readText, write, whole, toSeconds]
  | seconds s =>
    have whole : readPart (part s 's') = some (s * 1, []) := readPart_part_nil rfl s
    simp [readText, write, whole, toSeconds]

def lead : Age → Nat × List Char
  | .days d h => (d, 'd' :: part h 'h')
  | .hours h m => (h, 'h' :: part m 'm')
  | .minutes m => (m, ['m'])
  | .seconds s => (s, ['s'])

lemma read?_write (a : Age) : Text.Decimal.read? none a.write = some a.lead := by
  cases a with
  | days d h => exact read?_part rfl d _
  | hours h m => exact read?_part rfl h _
  | minutes m => exact read?_part_nil rfl m
  | seconds s => exact read?_part_nil rfl s

lemma part_inj (letter : unit.isDigit = false) {n m : Nat} : part n unit = part m unit ↔ n = m := by
  constructor
  · intro same
    have read := read?_part_nil letter n
    rw [same, read?_part_nil letter] at read
    exact (Prod.ext_iff.mp (Option.some.inj read)).1.symm
  · rintro rfl
    rfl

/-- Different ages are written differently. -/
lemma write_injective : Function.Injective write := by
  intro a b same
  have leads : a.lead = b.lead := by
    rw [← Option.some_inj, ← read?_write, ← read?_write, same]
  cases a <;> cases b <;> simp_all [lead, part_inj]

end Reading

end Age

namespace Overview

lemma toList_age (now created : Instant) :
    (age now (some created)).toList = (Age.ofSeconds (now.secondsSince created)).write :=
  String.toList_ofList

/-- The whole seconds since a moment count, and there are none if the moment is still to come. The age that
is shown falls short of them by less than an hour from the first day on, by less than a minute from the
first minute on, and by nothing before that. Its text is that of no other age, none of its parts comes to
a larger unit, and where no less time has passed, no less is read back. -/
theorem age_truncated (now created : Instant) :
    let s := now.secondsSince created
    let shown := (age now (some created)).toList
    (now.IsBefore created → s = 0) ∧
    Instant.IsWholeSeconds (now.nanosSince created) s ∧
    ∃ v, Age.readText shown = some v ∧ v ≤ s ∧ s < v + Age.resolution s ∧
      (∃ a : Age, shown = a.write) ∧
      (∀ a : Age, shown = a.write → a.IsReduced ∧ a.toSeconds = v) ∧
      ∀ later before : Instant, s ≤ later.secondsSince before →
        ∃ w, Age.readText (age later (some before)).toList = some w ∧ v ≤ w := by
  intro s shown
  have written : shown = (Age.ofSeconds s).write := toList_age now created
  refine ⟨Instant.secondsSince_eq_zero_of_isBefore, now.isWholeSeconds_secondsSince created,
    (Age.ofSeconds s).toSeconds, ?read, Age.toSeconds_ofSeconds_le s,
    Age.lt_toSeconds_ofSeconds_add s, ⟨_, written⟩, ?reduced, ?monotone⟩
  case read => rw [written, Age.readText_write]
  case reduced =>
    intro a same
    obtain rfl : Age.ofSeconds s = a := Age.write_injective (written.symm.trans same)
    exact ⟨Age.isReduced_ofSeconds s, rfl⟩
  case monotone =>
    intro later before longer
    refine ⟨_, ?_, Age.toSeconds_ofSeconds_mono longer⟩
    rw [toList_age, Age.readText_write]

end Overview

end ClaimTracker
