import Mathlib.Logic.Relation
import ClaimTracker.Proofs.Cycle.Effects
import ClaimTracker.Proofs.Keep.Whole
import ClaimTracker.Schedule

/-!
# Cycles step by step

A process is a tracker at some point of a cycle. It carries out one action at a time; the persist of
a durable store takes a step for each of its phases and waits while others hold the lock. At any
point the cycle can be abandoned, which gives the lock back if it was held. Whoever else holds the
lock changes neither the inventory nor the document.
-/

namespace ClaimTracker

namespace Store

variable {κ : Type}

def unlock : Store κ → Store κ
  | .memory i => .memory i
  | .durable d => .durable { d with locked := false }

def IsUnlocked : Store κ → Prop
  | .memory _ => True
  | .durable d => d.locked = false

@[simp] lemma inventory_unlock (s : Store κ) : s.unlock.inventory = s.inventory := by
  cases s <;> rfl

@[simp] lemma modify_id (s : Store κ) : s.modify id = s := by
  cases s <;> rfl

@[simp] lemma isUnlocked_modify (s : Store κ) (f : Inventory → Inventory) :
    (s.modify f).IsUnlocked ↔ s.IsUnlocked := by
  cases s <;> rfl

variable [Keep κ]

def held : Store κ → Option Octets
  | .memory _ => none
  | .durable d => Keep.held d.keep

/-- The store has no keep, or one that writes whole documents. -/
def Whole : Store κ → Prop
  | .memory _ => True
  | .durable d => Keep.Whole d.keep

@[simp] lemma held_unlock (s : Store κ) : s.unlock.held = s.held := by
  cases s <;> rfl

@[simp] lemma whole_unlock (s : Store κ) : s.unlock.Whole ↔ s.Whole := by
  cases s <;> rfl

@[simp] lemma held_modify (s : Store κ) (f : Inventory → Inventory) :
    (s.modify f).held = s.held := by
  cases s <;> rfl

@[simp] lemma whole_modify (s : Store κ) (f : Inventory → Inventory) :
    (s.modify f).Whole ↔ s.Whole := by
  cases s <;> rfl

end Store

/-- A tracker at some point of a cycle. -/
structure Process (σ κ : Type) where
  tracker : Tracker σ κ
  /-- The actions of the cycle that have been carried out. -/
  done : List (Action σ) := []
  /-- The actions of the cycle that are still to be carried out. -/
  pending : List (Action σ) := []
  /-- How far a persist has come that is under way. -/
  phase : Option Durable.Phase := none

namespace Tracker

variable {σ κ : Type}

/-- The tracker that has taken note of how a persist ended. -/
def conclude (w : Tracker σ κ) (result : Except Durable.PersistError Unit) : Tracker σ κ :=
  { w with
    metrics := Durable.countPersist w.metrics result
    report := { w.report with persisted := result.isOk } }

/-- The tracker after a persist that had come this far, if one was under way, has been given up. -/
def release (w : Tracker σ κ) (phase : Option Durable.Phase) : Tracker σ κ :=
  { w with store := if phase.any Durable.Phase.holdsLock then w.store.unlock else w.store }

lemma inventory_release (w : Tracker σ κ) (phase : Option Durable.Phase) :
    (w.release phase).inventory = w.inventory := by
  simp only [release, inventory]
  split
  · exact Store.inventory_unlock w.store
  · rfl

variable [Keep κ]

lemma held_release (w : Tracker σ κ) (phase : Option Durable.Phase) :
    (w.release phase).store.held = w.store.held := by
  simp only [release]
  split
  · exact Store.held_unlock w.store
  · rfl

lemma whole_release {w : Tracker σ κ} {phase : Option Durable.Phase}
    (h : w.store.Whole) : (w.release phase).store.Whole := by
  simp only [release]
  split
  · exact (Store.whole_unlock w.store).mpr h
  · exact h

/-- Apart from the persist of a durable store, actions change nothing of a store but its
inventory. -/
lemma store_act {a : Action σ} {w : Tracker σ κ} (now : Instant)
    (simple : a = .persist → ∃ i, w.store = .memory i) :
    ∃ f, (w.act now a).store = w.store.modify f := by
  cases a with
  | replaceClaims p items => exact ⟨_, rfl⟩
  | replaceComposites p items => exact ⟨_, rfl⟩
  | retireClaims p => exact ⟨_, rfl⟩
  | retireComposites p => exact ⟨_, rfl⟩
  | enrich => exact ⟨_, rfl⟩
  | persist =>
    obtain ⟨i, hi⟩ := simple rfl
    exact ⟨id, by simp [act, persist, hi]⟩
  | _ => exact ⟨id, (Store.modify_id w.store).symm⟩

end Tracker

namespace Process

variable {σ κ : Type} [Keep κ]

inductive Step : Process σ κ → Process σ κ → Prop
  | act {w done a rest} (now : Instant) (simple : a = .persist → ∃ i, w.store = .memory i) :
      Step ⟨w, done, a :: rest, none⟩ ⟨w.act now a, done ++ [a], rest, none⟩
  | start {w done rest d} (durable : w.store = .durable d) :
      Step ⟨w, done, .persist :: rest, none⟩ ⟨w, done, .persist :: rest, some .waiting⟩
  | advance {w done pending phase d} (now : Instant) (durable : w.store = .durable d) :
      Step ⟨w, done, pending, some phase⟩
        ⟨{ w with store := .durable (d.advance now phase).2 }, done, pending,
          some (d.advance now phase).1⟩
  | conclude {w done rest result} :
      Step ⟨w, done, .persist :: rest, some (.done result)⟩
        ⟨w.conclude result, done ++ [.persist], rest, none⟩
  | abandon {w done pending phase} :
      Step ⟨w, done, pending, phase⟩ ⟨w.release phase, done, [], none⟩
  /-- A request has been made, and nobody waits for its answer any more. -/
  | abandonCall {w done c rest} (stop : Nat) :
      Step ⟨w, done, .call c :: rest, none⟩
        ⟨{ w with clock := stop, log := w.log ++ [(w.clock, c.request)] }, done, [], none⟩
  /-- Others take the lock or give it back. -/
  | lock {w done pending phase d} (locked : Bool) (durable : w.store = .durable d)
      (free : phase.any Durable.Phase.holdsLock = false) :
      Step ⟨w, done, pending, phase⟩
        ⟨{ w with store := .durable { d with locked } }, done, pending, phase⟩

abbrev Within : Process σ κ → Process σ κ → Prop := Relation.ReflTransGen Step

def held (p : Process σ κ) : Option Octets := p.tracker.store.held

def IsIdle (p : Process σ κ) : Prop := p.pending = [] ∧ p.phase = none

/-- The write that is due at a moment succeeds and leads from `p` to `q`. -/
def Writes (now : Instant) (p q : Process σ κ) : Prop :=
  ∃ d claims composites, p.tracker.store = .durable d ∧ p.phase = some (.writing claims composites) ∧
    (Keep.put (Snapshot.encode ⟨claims, composites, now⟩) d.keep).1 = .ok () ∧
    q = { p with
      tracker := { p.tracker with
        store := .durable (d.advance now (.writing claims composites)).2 }
      phase := some (d.advance now (.writing claims composites)).1 }

lemma Writes.step {now : Instant} {p q : Process σ κ} (h : Writes now p q) : Step p q := by
  obtain ⟨d, claims, composites, durable, phase, -, rfl⟩ := h
  cases p
  cases phase
  exact Step.advance now durable

variable [Listing.Source σ]

/-- A cycle begins: with the pages that requests lead to from now on, the time, and the namespace
configurations as they are. -/
inductive Begins (settings : Settings) : Process σ κ → Process σ κ → Prop
  | intro {w done} (source : σ) (clock : Nat) (configs : Option (List NamespaceConfig)) :
      Begins settings ⟨w, done, [], none⟩
        ⟨{ w with source, clock }.begin, [],
          { w with source, clock }.nextActions settings configs, none⟩

abbrev Reaches (settings : Settings) : Process σ κ → Process σ κ → Prop :=
  Relation.ReflTransGen fun p q => Begins settings p q ∨ Step p q

/-- All listings and replacements of a cycle have been done, and enrichment, and nothing else. -/
def IsEnriched (settings : Settings) (p : Process σ κ) : Prop :=
  ∃ configs before source, p.done = Cycle.polling settings configs before source ++ [.enrich]

lemma Within.reaches {settings : Settings} {p q : Process σ κ} (h : Within p q) :
    Reaches settings p q :=
  Relation.ReflTransGen.mono (fun _ _ => Or.inr) p q h

end Process

end ClaimTracker
