import ClaimTracker.Proofs.Cycle.Order
import ClaimTracker.Proofs.Cycle.Process

/-!
# How far a cycle has come

In the course of a cycle a front of its actions has been carried out, and a persist that is under
way has read the inventory as it is. The document changes only while a persist writes it, which
happens only in a cycle without failures and after enrichment; it becomes the document of the
inventory right after enrichment.
-/

namespace ClaimTracker

open ClaimTracker.Cycle

namespace Tracker

variable {σ κ : Type} [Keep κ]

/-- Only a persist says that it was done. -/
lemma persisted_act {a : Action σ} {w : Tracker σ κ} (now : Instant)
    (simple : a = .persist → ∃ i, w.store = .memory i) :
    (w.act now a).report.persisted = w.report.persisted := by
  cases a with
  | persist =>
    obtain ⟨i, hi⟩ := simple rfl
    simp [act, persist, hi]
  | _ => rfl

/-- What comes after enrichment leaves the inventory alone. -/
lemma inventory_act_of_mem_closing {clean : Bool} {a : Action σ} (h : a ∈ closing clean)
    (now : Instant) (w : Tracker σ κ) : (w.act now a).inventory = w.inventory := by
  rcases eq_of_mem_closing h with rfl | ⟨rfl, -⟩ | rfl
  · rfl
  · exact persist_inventory now w
  · rfl

end Tracker

namespace Process

variable {σ κ : Type}

/-- Where a cycle with these actions can be. What has been carried out is a front of them, and the
rest is still pending unless the cycle has been abandoned. -/
structure Progress (actions : List (Action σ)) (q : Process σ κ) : Prop where
  front : ∃ rest, q.done ++ rest = actions ∧ (q.pending = rest ∨ q.pending = [])
  failures : q.tracker.report.failures = q.done.filterMap Action.failure?
  persisting : ∀ phase, q.phase = some phase → ∃ rest d, q.pending = .persist :: rest ∧
    q.tracker.store = .durable d ∧ phase.HasRead d.inventory

variable {actions polled : List (Action σ)} {p q r : Process σ κ}

lemma Progress.eq_of_pending (h : Progress actions q) {a : Action σ} {rest : List (Action σ)}
    (hp : q.pending = a :: rest) : q.done ++ a :: rest = actions := by
  obtain ⟨all, heq, hpending | hpending⟩ := h.front
  · rw [← hp, hpending]
    exact heq
  · rw [hp] at hpending
    cases hpending

/-- What a cycle has failed to do is among what its actions tell of. -/
lemma Progress.failures_eq_nil (h : Progress actions q)
    (clean : actions.filterMap Action.failure? = []) : q.tracker.report.failures = [] := by
  obtain ⟨rest, heq, -⟩ := h.front
  rw [← heq, List.filterMap_append] at clean
  rw [h.failures]
  exact (List.append_eq_nil_iff.mp clean).1

variable [Keep κ]

lemma Progress.step (h : Progress actions q) (hs : Step q r) : Progress actions r := by
  cases hs with
  | act now simple =>
    rename_i w done a rest
    refine ⟨⟨rest, ?_, Or.inl rfl⟩, ?_, fun _ hphase => by cases hphase⟩
    · rw [List.append_assoc]
      exact h.eq_of_pending rfl
    · rw [Tracker.failures_act, h.failures, List.filterMap_append]
      cases ha : a.failure? <;> simp [ha]
  | start durable =>
    rename_i w done rest d
    refine ⟨h.front, h.failures, ?_⟩
    rintro phase hphase
    obtain rfl : .waiting = phase := Option.some.inj hphase
    exact ⟨rest, d, rfl, durable, trivial⟩
  | advance now durable =>
    rename_i w done pending phase d
    refine ⟨h.front, h.failures, ?_⟩
    rintro next hnext
    obtain rfl : (d.advance now phase).1 = next := Option.some.inj hnext
    obtain ⟨rest, e, hpending, he, read⟩ := h.persisting phase rfl
    obtain rfl : e = d := Store.durable.inj (he.symm.trans durable)
    refine ⟨rest, _, hpending, rfl, ?_⟩
    rw [Durable.advance_inventory]
    exact Durable.hasRead_advance read
  | conclude =>
    rename_i w done rest result
    refine ⟨⟨rest, ?_, Or.inl rfl⟩, ?_, fun _ hphase => by cases hphase⟩
    · rw [List.append_assoc]
      exact h.eq_of_pending rfl
    · rw [List.filterMap_append]
      exact h.failures.trans (List.append_nil _).symm
  | abandon =>
    obtain ⟨rest, heq, -⟩ := h.front
    exact ⟨⟨rest, heq, Or.inr rfl⟩, h.failures, fun _ hphase => by cases hphase⟩
  | abandonCall stop =>
    obtain ⟨rest, heq, -⟩ := h.front
    exact ⟨⟨rest, heq, Or.inr rfl⟩, h.failures, fun _ hphase => by cases hphase⟩
  | lock locked durable free =>
    rename_i w done pending phase d
    refine ⟨h.front, h.failures, ?_⟩
    intro phase hphase
    obtain ⟨rest, e, hpending, he, read⟩ := h.persisting phase hphase
    obtain rfl : e = d := Store.durable.inj (he.symm.trans durable)
    exact ⟨rest, _, hpending, rfl, read⟩

lemma Progress.within (h : Progress actions p) (hw : Within p q) : Progress actions q := by
  induction hw with
  | refl => exact h
  | tail _ hs ih => exact ih.step hs

/-- After enrichment the inventory is what it was right after it. -/
lemma exists_enriched (split : Splits polled actions) (start : p.done = [])
    (h : Progress actions p) (hw : Within p q) (enriched : .enrich ∈ q.done) :
    ∃ r, Within p r ∧ Within r q ∧ r.done = polled ++ [.enrich] ∧
      r.tracker.inventory = q.tracker.inventory := by
  induction hw with
  | refl =>
    rw [start] at enriched
    cases enriched
  | tail hw hs ih =>
    rename_i q q'
    have progress := h.within hw
    -- A step after enrichment that leaves the inventory alone changes nothing about where it was.
    have extend : .enrich ∈ q.done → q'.tracker.inventory = q.tracker.inventory →
        ∃ r, Within p r ∧ Within r q' ∧ r.done = polled ++ [.enrich] ∧
          r.tracker.inventory = q'.tracker.inventory := by
      intro before same
      obtain ⟨r, hpr, hrq, hdone, heq⟩ := ih before
      exact ⟨r, hpr, hrq.tail hs, hdone, heq.trans same.symm⟩
    cases hs with
    | act now simple =>
      rename_i w done a rest
      have heq := progress.eq_of_pending rfl
      by_cases before : .enrich ∈ done
      · exact extend before
          (Tracker.inventory_act_of_mem_closing (split.mem_closing heq before) now w)
      · rcases List.mem_append.mp enriched with hm | hm
        · exact absurd hm before
        · obtain rfl := List.mem_singleton.mp hm
          obtain rfl := split.done_eq heq
          exact ⟨_, hw.tail (Step.act now simple), .refl, rfl, rfl⟩
    | start durable => exact extend enriched rfl
    | advance now durable =>
      rename_i w done pending phase d
      refine extend enriched ?_
      simp only [Tracker.inventory, Store.inventory, durable]
      exact Durable.advance_inventory now phase d
    | conclude =>
      refine extend ?_ rfl
      rcases List.mem_append.mp enriched with hm | hm
      · exact hm
      · cases List.mem_singleton.mp hm
    | abandon =>
      rename_i w done pending phase
      exact extend enriched (Tracker.inventory_release w phase)
    | abandonCall stop => exact extend enriched rfl
    | lock locked durable free =>
      refine extend enriched ?_
      simp only [Tracker.inventory, Store.inventory, durable]

/-- A step leaves the document alone, or it writes that of the inventory. -/
lemma held_step (h : Progress actions q) (whole : q.tracker.store.Whole) (hs : Step q r) :
    r.held = q.held ∨ (∃ rest, q.pending = .persist :: rest) ∧
      ∃ now, r.held = some (Durable.document q.tracker.inventory now) := by
  cases hs with
  | act now simple =>
    obtain ⟨f, hf⟩ := Tracker.store_act now simple
    exact Or.inl ((congrArg Store.held hf).trans (Store.held_modify _ f))
  | start durable => exact Or.inl rfl
  | advance now durable =>
    rename_i w done pending phase d
    obtain ⟨rest, e, hpending, he, read⟩ := h.persisting phase rfl
    obtain rfl : e = d := Store.durable.inj (he.symm.trans durable)
    have held : ∀ w' : Tracker σ κ, w'.store = .durable e →
        (Process.mk w' done pending (some phase)).held = Keep.held e.keep := by
      intro w' hw'
      simp only [Process.held, Store.held, hw']
    rw [held w durable]
    cases phase with
    | writing claims composites =>
      obtain ⟨rfl, rfl⟩ := read
      have body : w.inventory = e.inventory := by
        simp only [Tracker.inventory, Store.inventory, durable]
      have wholeKeep : Keep.Whole e.keep := by
        simpa only [Store.Whole, durable] using whole
      rw [body]
      rcases wholeKeep.writes (Durable.document e.inventory now) with ⟨-, written⟩ | ⟨-, kept⟩
      · exact Or.inr ⟨⟨rest, hpending⟩, now, written⟩
      · exact Or.inl kept
    | _ =>
      refine Or.inl ?_
      exact congrArg Keep.held (Durable.keep_advance e (by simp))
  | conclude => exact Or.inl rfl
  | abandon => exact Or.inl (Tracker.held_release _ _)
  | abandonCall stop => exact Or.inl rfl
  | lock locked durable free =>
    refine Or.inl ?_
    simp only [Process.held, Store.held, durable]

lemma whole_step (whole : q.tracker.store.Whole) (hs : Step q r) : r.tracker.store.Whole := by
  cases hs with
  | act now simple =>
    obtain ⟨f, hf⟩ := Tracker.store_act now simple
    rw [hf]
    exact (Store.whole_modify _ f).mpr whole
  | start durable => exact whole
  | advance now durable =>
    rename_i w done pending phase d
    have wholeKeep : Keep.Whole d.keep := by
      simpa only [Store.Whole, durable] using whole
    exact Durable.whole_advance wholeKeep
  | conclude => exact whole
  | abandon => exact Tracker.whole_release whole
  | abandonCall stop => exact whole
  | lock locked durable free => simpa only [Store.Whole, durable] using whole

lemma whole_within (whole : p.tracker.store.Whole) (hw : Within p q) : q.tracker.store.Whole := by
  induction hw with
  | refl => exact whole
  | tail _ hs ih => exact whole_step ih hs

/-- In the course of a cycle the document is as it was at its beginning, or nothing fails in the
cycle and the document is that of the inventory right after enrichment. -/
lemma held_within (split : Splits polled actions) (start : p.done = []) (h : Progress actions p)
    (whole : p.tracker.store.Whole) (hw : Within p q) :
    q.held = p.held ∨ polled.filterMap Action.failure? = [] ∧
      ∃ r now, Within p r ∧ Within r q ∧ r.done = polled ++ [.enrich] ∧
        q.held = some (Durable.document r.tracker.inventory now) := by
  induction hw with
  | refl => exact Or.inl rfl
  | tail hw hs ih =>
    have progress := h.within hw
    rcases held_step progress (whole_within whole hw) hs with same | ⟨⟨rest, pending⟩, now, written⟩
    · rw [same]
      rcases ih with kept | ⟨clean, r, now, hpr, hrq, hdone, held⟩
      · exact Or.inl kept
      · exact Or.inr ⟨clean, r, now, hpr, hrq.tail hs, hdone, held⟩
    · obtain ⟨clean, hdone, -⟩ := split.done_eq_of_persist (progress.eq_of_pending pending)
      have enriched := hdone ▸ List.mem_append_right polled List.mem_cons_self
      obtain ⟨r, hpr, hrq, hr, heq⟩ := exists_enriched split start h hw enriched
      rw [← heq] at written
      exact Or.inr ⟨clean, r, now, hpr, hrq.tail hs, hr, written⟩

end Process

end ClaimTracker
