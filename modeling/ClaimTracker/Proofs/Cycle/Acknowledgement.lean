import ClaimTracker.Proofs.Cycle.Progress

/-!
# When a cycle says that it has persisted

A report says that the inventory was persisted only after a write that has succeeded. After such a
write the cycle either says so or is abandoned before its end.
-/

namespace ClaimTracker

open ClaimTracker.Cycle

namespace Process

variable {σ κ : Type} [Keep κ] {actions polled : List (Action σ)} {p q r : Process σ κ}

def Wrote (p q : Process σ κ) : Prop :=
  ∃ r s now, Within p r ∧ Writes now r s ∧ Within s q

def Succeeded (phase : Option Durable.Phase) : Prop :=
  phase = some (.unlocking (.ok ())) ∨ phase = some (.done (.ok ()))

lemma Wrote.tail (h : Wrote p q) (hs : Step q r) : Wrote p r := by
  obtain ⟨a, b, now, hpa, hab, hbq⟩ := h
  exact ⟨a, b, now, hpa, hab, hbq.tail hs⟩

/-- A persist that succeeds has just written, or had succeeded before. -/
lemma wrote_or_succeeded {w : Tracker σ κ} {done pending : List (Action σ)} {phase : Durable.Phase}
    {d : Durable κ} (now : Instant) (durable : w.store = .durable d)
    (h : Succeeded (some (d.advance now phase).1)) :
    Writes now ⟨w, done, pending, some phase⟩ ⟨{ w with store := .durable (d.advance now phase).2 },
        done, pending, some (d.advance now phase).1⟩ ∨ Succeeded (some phase) := by
  cases phase with
  | waiting =>
    unfold Durable.advance Succeeded at h
    dsimp only at h
    split at h <;> simp at h
  | readingClaims => simp [Durable.advance, Succeeded] at h
  | readingComposites claims => simp [Durable.advance, Succeeded] at h
  | writing claims composites =>
    refine Or.inl ⟨d, claims, composites, durable, rfl, ?_, rfl⟩
    simp only [Durable.advance, Succeeded, Option.some.injEq, Durable.Phase.unlocking.injEq,
      reduceCtorEq, or_false] at h
    cases hr : (Keep.put (Snapshot.encode ⟨claims, composites, now⟩) d.keep).1 with
    | ok u => rfl
    | error e =>
      rw [hr] at h
      cases h
  | unlocking result =>
    refine Or.inr (Or.inl ?_)
    simpa [Durable.advance, Succeeded] using h
  | done result =>
    refine Or.inr (Or.inr ?_)
    simpa [Durable.advance, Succeeded] using h

/-- Whatever says that a persist was done, there was a write. -/
lemma wrote_of_reported (fresh : p.tracker.report.persisted = false) (idle : p.phase = none)
    (hw : Within p q) :
    (q.tracker.report.persisted = true → Wrote p q) ∧ (Succeeded q.phase → Wrote p q) := by
  induction hw with
  | refl =>
    constructor
    · intro h
      rw [fresh] at h
      cases h
    · intro h
      rw [idle] at h
      rcases h with h | h <;> cases h
  | tail hw hs ih =>
    obtain ⟨reported, succeeded⟩ := ih
    have none_succeeded : ¬ Succeeded none := by
      rintro (h | h) <;> cases h
    cases hs with
    | act now simple =>
      refine ⟨fun h => ?_, fun h => absurd h none_succeeded⟩
      rw [Tracker.persisted_act now simple] at h
      exact (reported h).tail (Step.act now simple)
    | start durable =>
      refine ⟨fun h => (reported h).tail (Step.start durable), fun h => ?_⟩
      rcases h with h | h <;> cases h
    | advance now durable =>
      refine ⟨fun h => (reported h).tail (Step.advance now durable), fun h => ?_⟩
      rcases wrote_or_succeeded now durable h with writes | before
      · exact ⟨_, _, now, hw, writes, .refl⟩
      · exact (succeeded before).tail (Step.advance now durable)
    | conclude =>
      rename_i w done rest result
      refine ⟨fun h => ?_, fun h => absurd h none_succeeded⟩
      cases result with
      | ok u => exact (succeeded (Or.inr rfl)).tail Step.conclude
      | error e => cases h
    | abandon =>
      exact ⟨fun h => (reported h).tail Step.abandon, fun h => absurd h none_succeeded⟩
    | abandonCall stop =>
      exact ⟨fun h => (reported h).tail (Step.abandonCall stop), fun h => absurd h none_succeeded⟩
    | lock locked durable free =>
      exact ⟨fun h => (reported h).tail (Step.lock locked durable free),
        fun h => (succeeded h).tail (Step.lock locked durable free)⟩

/-- After a write that has succeeded: the persist is still under way, or the report says that it was
done, or the cycle has been abandoned before its end. -/
def FollowsWrite (q : Process σ κ) : Prop :=
  Succeeded q.phase ∨ (q.tracker.report.persisted = true ∧ .persist ∈ q.done) ∨
    q.pending = [] ∧ q.phase = none ∧ .finish ∉ q.done

lemma Writes.follows {now : Instant} (h : Writes now q r) : FollowsWrite r := by
  obtain ⟨d, claims, composites, durable, phase, written, rfl⟩ := h
  refine Or.inl (Or.inl ?_)
  simp only [Durable.advance, written]
  rfl

lemma FollowsWrite.step (h : FollowsWrite q) (split : Splits polled actions)
    (progress : Progress actions q) (hs : Step q r) : FollowsWrite r := by
  have none_succeeded : ¬ Succeeded none := by
    rintro (h | h) <;> cases h
  cases hs with
  | act now simple =>
    rcases h with h | ⟨h, hmem⟩ | ⟨h, -⟩
    · exact absurd h none_succeeded
    · refine Or.inr (Or.inl ⟨?_, List.mem_append_left _ hmem⟩)
      rwa [Tracker.persisted_act now simple]
    · cases h
  | start durable =>
    rcases h with h | ⟨-, hmem⟩ | ⟨h, -⟩
    · exact absurd h none_succeeded
    · exact absurd hmem (split.notMem_of_persist (progress.eq_of_pending rfl)).1
    · cases h
  | advance now durable =>
    rename_i w done pending phase d
    rcases h with (h | h) | h | ⟨-, h, -⟩
    · cases h
      exact Or.inl (Or.inr rfl)
    · cases h
      exact Or.inl (Or.inr rfl)
    · exact Or.inr (Or.inl h)
    · cases h
  | conclude =>
    rcases h with (h | h) | ⟨-, hmem⟩ | ⟨h, -⟩
    · cases h
    · cases h
      exact Or.inr (Or.inl ⟨rfl, List.mem_append_right _ List.mem_cons_self⟩)
    · exact absurd hmem (split.notMem_of_persist (progress.eq_of_pending rfl)).1
    · cases h
  | abandon =>
    rename_i w done pending phase
    rcases h with h | h | ⟨-, -, h⟩
    · have under_way : ∃ ph, phase = some ph := by
        rcases h with h | h <;> exact ⟨_, h⟩
      obtain ⟨ph, rfl⟩ := under_way
      obtain ⟨rest, d, hpending, -⟩ := progress.persisting ph rfl
      exact Or.inr (Or.inr ⟨rfl, rfl,
        (split.notMem_of_persist (progress.eq_of_pending hpending)).2⟩)
    · exact Or.inr (Or.inl h)
    · exact Or.inr (Or.inr ⟨rfl, rfl, h⟩)
  | abandonCall stop =>
    rcases h with h | h | ⟨h, -⟩
    · exact absurd h none_succeeded
    · exact Or.inr (Or.inl h)
    · cases h
  | lock locked durable free => exact h

lemma Wrote.follows (h : Wrote p q) (split : Splits polled actions)
    (progress : Progress actions p) :
    FollowsWrite q := by
  obtain ⟨r, s, now, hpr, hrs, hsq⟩ := h
  have at_s := (progress.within hpr).step hrs.step
  induction hsq with
  | refl => exact hrs.follows
  | tail hw hs ih => exact ih.step split (at_s.within hw) hs

lemma isDurable_step (hs : Step q r) :
    (∃ d, q.tracker.store = .durable d) → ∃ d, r.tracker.store = .durable d := by
  rintro ⟨d, hd⟩
  cases hs with
  | act now simple =>
    obtain ⟨f, hf⟩ := Tracker.store_act now simple
    exact ⟨_, hf.trans (congrArg (Store.modify f) hd)⟩
  | start durable => exact ⟨d, hd⟩
  | advance now durable => exact ⟨_, rfl⟩
  | conclude => exact ⟨d, hd⟩
  | abandon =>
    simp only [Tracker.release]
    split
    · exact ⟨_, congrArg Store.unlock hd⟩
    · exact ⟨d, hd⟩
  | abandonCall stop => exact ⟨d, hd⟩
  | lock locked durable free => exact ⟨_, rfl⟩

lemma isDurable_within (hw : Within q r) :
    (∃ d, q.tracker.store = .durable d) → ∃ d, r.tracker.store = .durable d := by
  induction hw with
  | refl => exact id
  | tail _ hs ih => exact fun h => isDurable_step hs (ih h)

/-- At the end of a cycle the report says that the inventory was persisted exactly if nothing has
failed, there is a keep, and the write has succeeded. -/
lemma persisted_iff (split : Splits polled actions) (progress : Progress actions p)
    (fresh : p.tracker.report.persisted = false) (idle : p.phase = none) (hw : Within p q)
    (finished : .finish ∈ q.done) :
    q.tracker.report.persisted = true ↔ q.tracker.report.failures = [] ∧
      (∃ d, q.tracker.store = .durable d) ∧ Wrote p q := by
  have at_q := progress.within hw
  constructor
  · intro reported
    have wrote := (wrote_of_reported fresh idle hw).1 reported
    obtain ⟨r, s, now, hpr, hrs, hsq⟩ := id wrote
    obtain ⟨d, claims, composites, durable, phase, -, -⟩ := id hrs
    obtain ⟨rest, e, hpending, -⟩ := (progress.within hpr).persisting _ phase
    obtain ⟨clean, -⟩ := split.done_eq_of_persist ((progress.within hpr).eq_of_pending hpending)
    refine ⟨at_q.failures_eq_nil ?_, isDurable_within hsq (isDurable_step hrs.step ⟨d, durable⟩),
      wrote⟩
    rw [split.eq, clean, List.filterMap_append, clean]
    rfl
  · rintro ⟨-, -, wrote⟩
    rcases wrote.follows split progress with succeeded | ⟨reported, -⟩ | ⟨-, -, unfinished⟩
    · have under_way : ∃ ph, q.phase = some ph := by
        rcases succeeded with h | h <;> exact ⟨_, h⟩
      obtain ⟨ph, hph⟩ := under_way
      obtain ⟨rest, d, hpending, -⟩ := at_q.persisting ph hph
      exact absurd finished (split.notMem_of_persist (at_q.eq_of_pending hpending)).2
    · exact reported
    · exact absurd finished unfinished

end Process

end ClaimTracker
