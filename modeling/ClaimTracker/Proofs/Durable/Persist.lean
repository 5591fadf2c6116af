import ClaimTracker.Cycle
import ClaimTracker.Proofs.Keep.Whole

/-!
# What a persist does

A persist that nothing comes between waits if the lock is held, and otherwise writes the inventory
as it stands and gives the lock back. In no case does it change the inventory.
-/

namespace ClaimTracker

namespace Durable

def Phase.HasRead (i : Inventory) : Phase → Prop
  | .readingComposites claims => claims = i.claimList
  | .writing claims composites => claims = i.claimList ∧ composites = i.compositeList
  | .waiting | .readingClaims | .unlocking _ | .done _ => True

def Phase.holdsLock : Phase → Bool
  | .waiting | .done _ => false
  | .readingClaims | .readingComposites _ | .writing _ _ | .unlocking _ => true

variable {κ : Type} [Keep κ]

def document (i : Inventory) (now : Instant) : Octets :=
  Snapshot.encode ⟨i.claimList, i.compositeList, now⟩

lemma advance_inventory (now : Instant) (phase : Phase) (d : Durable κ) :
    (d.advance now phase).2.inventory = d.inventory := by
  cases phase with
  | waiting => unfold advance; dsimp only; split <;> rfl
  | readingClaims => rfl
  | readingComposites claims => rfl
  | writing claims composites => rfl
  | unlocking result => rfl
  | done result => rfl

lemma hasRead_advance {now : Instant} {phase : Phase} {d : Durable κ}
    (h : phase.HasRead d.inventory) : (d.advance now phase).1.HasRead d.inventory := by
  cases phase with
  | waiting => unfold advance; dsimp only; split <;> trivial
  | readingClaims => rfl
  | readingComposites claims => exact ⟨h, rfl⟩
  | writing claims composites => trivial
  | unlocking result => trivial
  | done result => trivial

/-- Only writing changes the keep. -/
lemma keep_advance {now : Instant} {phase : Phase} (d : Durable κ)
    (h : ∀ claims composites, phase ≠ .writing claims composites) :
    (d.advance now phase).2.keep = d.keep := by
  cases phase with
  | waiting => unfold advance; dsimp only; split <;> rfl
  | readingClaims => rfl
  | readingComposites claims => rfl
  | writing claims composites => exact absurd rfl (h claims composites)
  | unlocking result => rfl
  | done result => rfl

lemma whole_advance {now : Instant} {phase : Phase} {d : Durable κ} (h : Keep.Whole d.keep) :
    Keep.Whole (d.advance now phase).2.keep := by
  cases phase with
  | writing claims composites => exact h.put _
  | _ => rwa [keep_advance d (by simp)]

lemma persist_of_locked {now : Instant} {d : Durable κ} (h : d.locked = true) :
    d.persist now = (none, d) := by
  have waits : ∀ n, d.advanceBy now n .waiting = (.waiting, d) := by
    intro n
    induction n with
    | zero => rfl
    | succ n ih =>
      have step : d.advance now .waiting = (.waiting, d) := by simp [advance, h]
      simp only [advanceBy, step, ih]
  simp only [persist, waits]

lemma persist_of_unlocked {now : Instant} {d : Durable κ} (h : d.locked = false) :
    d.persist now =
      (some ((Keep.put (document d.inventory now) d.keep).1.mapError (.put (Keep.location d.keep))),
        { d with keep := (Keep.put (document d.inventory now) d.keep).2 }) := by
  have step : d.advance now .waiting = (.readingClaims, { d with locked := true }) := by
    simp [advance, h]
  simp only [persist, advanceBy, step]
  cases d
  cases h
  rfl

lemma persist_inventory (now : Instant) (d : Durable κ) :
    (d.persist now).2.inventory = d.inventory := by
  cases h : d.locked with
  | true => rw [persist_of_locked h]
  | false => rw [persist_of_unlocked h]

end Durable

namespace Tracker

variable {σ κ : Type} [Keep κ]

/-- A persist changes the store but not the inventory in it, the metrics, and whether the report
says that it was done. -/
lemma persist_frame (now : Instant) (w : Tracker σ κ) :
    ∃ store metrics persisted, w.persist now =
        { w with store, metrics, report := { w.report with persisted } } ∧
      store.inventory = w.store.inventory := by
  cases hs : w.store with
  | memory i =>
    refine ⟨.memory i, w.metrics, w.report.persisted, ?_, rfl⟩
    simp only [persist, hs]
    rw [← hs]
  | durable d =>
    have kept := Durable.persist_inventory now d
    cases hp : d.persist now with
    | mk result e =>
      rw [hp] at kept
      cases result with
      | none => exact ⟨.durable e, w.metrics, w.report.persisted, by simp [persist, hs, hp], kept⟩
      | some result =>
        exact ⟨.durable e, Durable.countPersist w.metrics result, result.isOk,
          by simp [persist, hs, hp], kept⟩

@[simp] lemma persist_inventory (now : Instant) (w : Tracker σ κ) :
    (w.persist now).inventory = w.inventory := by
  obtain ⟨store, metrics, persisted, heq, kept⟩ := persist_frame now w
  rw [heq]
  exact kept

@[simp] lemma persist_failures (now : Instant) (w : Tracker σ κ) :
    (w.persist now).report.failures = w.report.failures := by
  obtain ⟨store, metrics, persisted, heq, -⟩ := persist_frame now w
  rw [heq]

@[simp] lemma persist_declared (now : Instant) (w : Tracker σ κ) :
    (w.persist now).declared = w.declared := by
  obtain ⟨store, metrics, persisted, heq, -⟩ := persist_frame now w
  rw [heq]

end Tracker

end ClaimTracker
