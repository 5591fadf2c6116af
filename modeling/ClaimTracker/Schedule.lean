import ClaimTracker.Cycle

/-!
# Schedules

A tracker polls at once and then at every tick, until it is told to stop. Only requests and the wait
for a tick take time. A tick that finds the tracker still at work fires as soon as the cycle ends, and
the tick after it comes a whole period later instead of at its old place. A cycle that is still
waiting for an answer when the tracker is told to stop is abandoned where it stands. With no time
between ticks there is no schedule, and the tracker does nothing.
-/

namespace ClaimTracker

/-- Milliseconds between two ticks. -/
def Settings.period (s : Settings) : Nat :=
  max 1 (s.interval / 1000000)

namespace Schedule

/-- Milliseconds by which a tick may be late without moving the ticks after it. -/
def tolerance : Nat := 5

/-- When the next tick is due, after one that was due and fired at these times. -/
def nextDue (period due fired : Nat) : Nat :=
  if due + tolerance < fired then fired + period else due + period

theorem add_le_nextDue (period due fired : Nat) : due + period ≤ nextDue period due fired := by
  unfold nextDue
  split <;> omega

end Schedule

namespace Tracker

variable {σ κ : Type} [Keep κ]

/-- Carries out actions until a request would not be answered before `stop`. Such a request is made,
and nothing after it happens. The truth value tells whether everything was carried out. -/
def performUntil (now : Instant) (stop : Nat) : Tracker σ κ → List (Action σ) → Tracker σ κ × Bool
  | w, [] => (w, true)
  | w, .call c :: l =>
    if 0 < c.duration ∧ stop ≤ w.clock + c.duration then
      ({ w with clock := stop, log := w.log ++ [(w.clock, c.request)] }, false)
    else (w.act now (.call c)).performUntil now stop l
  | w, a :: l => (w.act now a).performUntil now stop l

variable [Listing.Source σ]

/-- What a tracker on a schedule has done. -/
structure Run (σ κ : Type) where
  tracker : Tracker σ κ
  cycles : Nat
  stopped : Bool

/-- Polls at the tick that is due at a time and at all ticks after it, until `stop`. The namespace
configurations and the moment stamped on documents are those of the time at which a cycle starts. -/
def runFrom (settings : Settings) (configs : Nat → Option (List NamespaceConfig))
    (now : Nat → Instant) (stop due : Nat) (w : Tracker σ κ) : Run σ κ :=
  let start := max w.clock due
  if start < stop then
    let begun := { w with clock := start }.begin
    match begun.performUntil (now start) stop (begun.nextActions settings (configs start)) with
    | (abandoned, false) => ⟨abandoned, 0, true⟩
    | (ended, true) =>
      let rest :=
        runFrom settings configs now stop (Schedule.nextDue settings.period due start) ended
      ⟨rest.tracker, rest.cycles + 1, rest.stopped⟩
  else ⟨w, 0, true⟩
termination_by stop - due
decreasing_by
  have := Schedule.add_le_nextDue settings.period due (max w.clock due)
  have : 1 ≤ settings.period := Nat.le_max_left _ _
  omega

/-- Polls from now on until `stop` milliseconds have passed. -/
def run (settings : Settings) (configs : Nat → Option (List NamespaceConfig))
    (now : Nat → Instant) (stop : Nat) (w : Tracker σ κ) : Run σ κ :=
  let w := { w with clock := 0, log := [] }
  if settings.interval = 0 then ⟨w, 0, false⟩ else runFrom settings configs now stop 0 w

end Tracker

end ClaimTracker
