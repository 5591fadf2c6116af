import ClaimTracker.Proofs.Cycle.Forgetting
import ClaimTracker.Proofs.Cycle.Process

/-!
# Scheduled cycles as processes

A cycle that runs to its end is a process that nobody interrupts, and so is a whole schedule, the
last cycle of which may be abandoned at a request. What holds of processes therefore holds of both.
-/

namespace ClaimTracker

namespace Tracker

variable {σ κ : Type} [Keep κ]

lemma isUnlocked_act {w : Tracker σ κ} (h : w.store.IsUnlocked) (now : Instant) (a : Action σ) :
    (w.act now a).store.IsUnlocked := by
  cases hs : w.store with
  | memory i =>
    obtain ⟨f, hf⟩ := store_act (w := w) (a := a) now fun _ => ⟨i, hs⟩
    rw [hf]
    exact (Store.isUnlocked_modify _ f).mpr h
  | durable d =>
    by_cases ha : a = .persist
    · subst ha
      rw [hs] at h
      simp only [act, persist, hs, Durable.persist_of_unlocked h]
      exact h
    · obtain ⟨f, hf⟩ := store_act (w := w) now fun hp => absurd hp ha
      rw [hf]
      exact (Store.isUnlocked_modify _ f).mpr h

lemma isUnlocked_perform {w : Tracker σ κ} (h : w.store.IsUnlocked) (now : Instant)
    (l : List (Action σ)) : (w.perform now l).store.IsUnlocked := by
  induction l generalizing w with
  | nil => exact h
  | cons a l ih => exact ih (isUnlocked_act h now a)

lemma isUnlocked_poll [Listing.Source σ] {w : Tracker σ κ} (h : w.store.IsUnlocked)
    (settings : Settings) (configs : Option (List NamespaceConfig)) (now : Instant) :
    (w.poll settings configs now).store.IsUnlocked :=
  isUnlocked_perform (w := w.begin) h now _

end Tracker

namespace Process

variable {σ κ : Type} [Keep κ]

/-- The phases of a persist that nothing comes between. -/
lemma within_persist {w : Tracker σ κ} (h : w.store.IsUnlocked) (now : Instant)
    (done rest : List (Action σ)) :
    Within ⟨w, done, .persist :: rest, none⟩
      ⟨w.act now .persist, done ++ [.persist], rest, none⟩ := by
  cases hs : w.store with
  | memory i => exact .single (Step.act now fun _ => ⟨i, hs⟩)
  | durable d =>
    obtain ⟨inventory, keep, limit, locked⟩ := d
    rw [hs] at h
    obtain rfl : locked = false := h
    have ends : w.act now .persist = w.persist now := rfl
    rw [ends]
    simp only [Tracker.persist, hs,
      Durable.persist_of_unlocked (d := ⟨inventory, keep, limit, false⟩) rfl]
    exact (((((Relation.ReflTransGen.single (Step.start hs)).tail (Step.advance now hs)).tail
      (Step.advance now rfl)).tail (Step.advance now rfl)).tail (Step.advance now rfl)).tail
        (Step.advance now rfl) |>.tail Step.conclude

/-- Actions that are carried out one after the other. -/
lemma within_perform {w : Tracker σ κ} (h : w.store.IsUnlocked) (now : Instant)
    (done l rest : List (Action σ)) :
    Within ⟨w, done, l ++ rest, none⟩ ⟨w.perform now l, done ++ l, rest, none⟩ := by
  induction l generalizing w done with
  | nil =>
    rw [List.append_nil]
    exact .refl
  | cons a l ih =>
    have first : Within ⟨w, done, a :: (l ++ rest), none⟩
        ⟨w.act now a, done ++ [a], l ++ rest, none⟩ := by
      by_cases ha : a = .persist
      · subst ha
        exact within_persist h now done (l ++ rest)
      · exact .single (Step.act now fun hp => absurd hp ha)
    have others := ih (Tracker.isUnlocked_act h now a) (done ++ [a])
    rw [List.append_assoc] at others
    exact first.trans others

/-- Actions that are carried out until a request is not answered in time. -/
lemma within_performUntil {w : Tracker σ κ} (h : w.store.IsUnlocked) (now : Instant) (stop : Nat)
    (done l : List (Action σ)) :
    ∃ done', Within ⟨w, done, l, none⟩ ⟨(w.performUntil now stop l).1, done', [], none⟩ ∧
      (w.performUntil now stop l).1.store.IsUnlocked := by
  induction l generalizing w done with
  | nil => exact ⟨done, .refl, h⟩
  | cons a l ih =>
    obtain ⟨done', others, unlocked⟩ := ih (Tracker.isUnlocked_act h now a) (done ++ [a])
    have first : Within ⟨w, done, a :: l, none⟩ ⟨w.act now a, done ++ [a], l, none⟩ := by
      simpa using within_perform h now done [a] l
    cases a with
    | call c =>
      by_cases late : 0 < c.duration ∧ stop ≤ w.clock + c.duration
      · rw [Tracker.performUntil, if_pos late]
        exact ⟨done, .single (Step.abandonCall stop), h⟩
      · rw [Tracker.performUntil, if_neg late]
        exact ⟨done', first.trans others, unlocked⟩
    | _ => exact ⟨done', first.trans others, unlocked⟩

variable [Listing.Source σ]

/-- A cycle that nobody interrupts is a process. -/
lemma reaches_poll {w : Tracker σ κ} (h : w.store.IsUnlocked) (settings : Settings) (source : σ)
    (configs : Option (List NamespaceConfig)) (now : Instant) (done : List (Action σ)) :
    Reaches settings ⟨w, done, [], none⟩
      ⟨{ w with source }.poll settings configs now,
        { w with source }.nextActions settings configs, [], none⟩ := by
  have begins : Begins settings ⟨w, done, [], none⟩
      ⟨{ w with source }.begin, [], { w with source }.nextActions settings configs, none⟩ :=
    .intro source w.clock configs
  have performs := within_perform (w := { w with source }.begin) h now []
    ({ w with source }.nextActions settings configs) []
  rw [List.append_nil] at performs
  exact .head (Or.inl begins) performs.reaches

/-- Cycles one after the other are a process. -/
lemma reaches_rounds {w : Tracker σ κ} (h : w.store.IsUnlocked) (settings : Settings) (served : Bool)
    (l : List (Round σ)) (done : List (Action σ)) :
    ∃ done', Reaches settings ⟨w, done, [], none⟩
      ⟨w.rounds settings served l, done', [], none⟩ := by
  induction l generalizing w done with
  | nil => exact ⟨done, .refl⟩
  | cons r l ih =>
    have first := reaches_poll h settings r.source (r.configs? served) r.now done
    obtain ⟨done', others⟩ := ih (Tracker.isUnlocked_poll (w := w.facing r.source) h settings
      (r.configs? served) r.now) _
    exact ⟨done', first.trans others⟩

/-- A cycle that begins at a time and is abandoned when it is time to stop is a process. -/
lemma reaches_cycle {w : Tracker σ κ} (h : w.store.IsUnlocked) (settings : Settings)
    (configs : Option (List NamespaceConfig)) (now : Instant) (start stop : Nat)
    (done : List (Action σ)) :
    let begun := { w with clock := start }.begin
    let outcome := begun.performUntil now stop (begun.nextActions settings configs)
    ∃ done', Reaches settings ⟨w, done, [], none⟩ ⟨outcome.1, done', [], none⟩ ∧
      outcome.1.store.IsUnlocked := by
  intro begun outcome
  have begins : Begins settings ⟨w, done, [], none⟩
      ⟨begun, [], begun.nextActions settings configs, none⟩ := .intro w.source start configs
  obtain ⟨done', performs, unlocked⟩ :=
    within_performUntil (w := begun) h now stop [] (begun.nextActions settings configs)
  exact ⟨done', .head (Or.inl begins) performs.reaches, unlocked⟩

/-- A schedule is a process. -/
lemma reaches_runFrom (settings : Settings) (configs : Nat → Option (List NamespaceConfig))
    (now : Nat → Instant) (stop due : Nat) {w : Tracker σ κ} (h : w.store.IsUnlocked)
    (done : List (Action σ)) :
    ∃ done', Reaches settings ⟨w, done, [], none⟩
      ⟨(w.runFrom settings configs now stop due).tracker, done', [], none⟩ := by
  fun_induction Tracker.runFrom settings configs now stop due w generalizing done with
  | case1 due w start early begun abandoned hrun =>
    obtain ⟨done', cycle, -⟩ := reaches_cycle h settings (configs start) (now start) start stop done
    rw [hrun] at cycle
    exact ⟨done', cycle⟩
  | case2 due w start early begun ended hrun rest ih =>
    obtain ⟨done', cycle, unlocked⟩ :=
      reaches_cycle h settings (configs start) (now start) start stop done
    rw [hrun] at cycle unlocked
    obtain ⟨done'', others⟩ := ih unlocked done'
    exact ⟨done'', cycle.trans others⟩
  | case3 due w start late => exact ⟨done, .refl⟩

lemma reaches_run (settings : Settings) (configs : Nat → Option (List NamespaceConfig))
    (now : Nat → Instant) (stop : Nat) {w : Tracker σ κ} (h : w.store.IsUnlocked) :
    ∃ done, Reaches settings ⟨{ w with clock := 0, log := [] }, [], [], none⟩
      ⟨(w.run settings configs now stop).tracker, done, [], none⟩ := by
  rw [Tracker.run]
  split
  · exact ⟨[], .refl⟩
  · exact reaches_runFrom settings configs now stop 0 (w := { w with clock := 0, log := [] }) h []

end Process

end ClaimTracker
