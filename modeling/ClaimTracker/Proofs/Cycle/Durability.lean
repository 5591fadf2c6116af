import ClaimTracker.Proofs.Cycle.Acknowledgement
import ClaimTracker.Proofs.Cycle.Scheduled

/-!
# The document of a tracker at work

The document changes only while a persist writes it, and a persist is due only in a cycle without
failures, after enrichment. So the document is always the one from before the tracker began, or that
of the whole inventory after some cycle without failures had been polled and enriched.
-/

namespace ClaimTracker

open ClaimTracker.Cycle

namespace Process

variable {σ κ : Type} {p q r b : Process σ κ} {settings : Settings}

/-- How a cycle begins. -/
lemma Begins.progress [Listing.Source σ] (h : Begins settings p b) :
    ∃ polled actions, Splits polled actions ∧ Progress actions b ∧ b.done = [] ∧ b.phase = none ∧
      b.tracker.report.persisted = false ∧ b.tracker.store = p.tracker.store ∧
        ∀ q : Process σ κ, q.done = polled ++ [.enrich] → q.IsEnriched settings := by
  cases h with
  | intro source clock configs =>
    rename_i w done
    refine ⟨_, _, splits_actions settings configs w.declared source, ?_, rfl, rfl, rfl, rfl, ?_⟩
    · exact ⟨⟨_, rfl, Or.inl rfl⟩, rfl, fun _ hphase => by cases hphase⟩
    · intro q hq
      exact ⟨configs, w.declared, source, hq⟩

variable [Keep κ]

/-- Between cycles nothing writes. -/
lemma IsIdle.step (h : q.IsIdle) (hs : Step q r) : r.IsIdle ∧ r.held = q.held := by
  obtain ⟨hpending, hphase⟩ := h
  cases hs with
  | act now simple => cases hpending
  | start durable => cases hpending
  | advance now durable => cases hphase
  | conclude => cases hpending
  | abandon => exact ⟨⟨rfl, rfl⟩, Tracker.held_release _ _⟩
  | abandonCall stop => cases hpending
  | lock locked durable free =>
    refine ⟨⟨hpending, hphase⟩, ?_⟩
    simp only [held, Store.held, durable]

variable [Listing.Source σ]

lemma whole_reaches (whole : p.tracker.store.Whole) (h : Reaches settings p q) :
    q.tracker.store.Whole := by
  induction h with
  | refl => exact whole
  | tail _ hs ih =>
    rcases hs with begins | step
    · obtain ⟨_, _, _, _, _, _, _, store, _⟩ := begins.progress
      rwa [store]
    · exact whole_step ih step

/-- The document is that of `p`, or that of the whole inventory as it was after enrichment in a
cycle without failures that was under way between `p` and `q`. -/
def Documented (settings : Settings) (p q : Process σ κ) : Prop :=
  q.held = p.held ∨ ∃ r now, Reaches settings p r ∧ Reaches settings r q ∧ r.IsEnriched settings ∧
    r.tracker.report.failures = [] ∧ q.held = some (Durable.document r.tracker.inventory now)

lemma documented_of_kept (h : Documented settings p q) (hr : Reaches settings q r)
    (kept : r.held = q.held) : Documented settings p r := by
  rcases h with same | ⟨a, now, hpa, haq, enriched, clean, held⟩
  · exact Or.inl (kept.trans same)
  · exact Or.inr ⟨a, now, hpa, haq.trans hr, enriched, clean, kept.trans held⟩

/-- A cycle leaves the document as it was or makes it that of the inventory after enrichment. -/
lemma documented_within (h : Documented settings p q) (hpq : Reaches settings p q)
    (whole : q.tracker.store.Whole) (begins : Begins settings q b) (hw : Within b r) :
    Documented settings p r := by
  obtain ⟨polled, actions, split, progress, start, idle, -, store, enriched⟩ := begins.progress
  have hqb : Reaches settings q b := .single (Or.inl begins)
  have held : b.held = q.held := congrArg Store.held store
  rcases held_within split start progress (store ▸ whole) hw with
    kept | ⟨clean, a, now, hba, har, hdone, written⟩
  · exact documented_of_kept h (hqb.trans hw.reaches) (kept.trans held)
  · refine Or.inr ⟨a, now, hpq.trans (hqb.trans hba.reaches), har.reaches, enriched a hdone, ?_,
      written⟩
    rw [(progress.within hba).failures, hdone, List.filterMap_append, clean]
    rfl

/-- A process is between two cycles, or in one that has begun. -/
lemma idle_or_within (idle : p.IsIdle) (whole : p.tracker.store.Whole)
    (h : Reaches settings p q) :
    q.IsIdle ∧ Documented settings p q ∨
      ∃ a b, Reaches settings p a ∧ Documented settings p a ∧ Begins settings a b ∧ Within b q := by
  induction h with
  | refl => exact Or.inl ⟨idle, Or.inl rfl⟩
  | tail hpq hs ih =>
    rename_i q r
    have documented : Documented settings p q := by
      rcases ih with ⟨-, h⟩ | ⟨a, b, hpa, ha, begins, hw⟩
      · exact h
      · exact documented_within ha hpa (whole_reaches whole hpa) begins hw
    rcases hs with begins | step
    · exact Or.inr ⟨q, r, hpq, documented, begins, .refl⟩
    · rcases ih with ⟨hidle, -⟩ | ⟨a, b, hpa, ha, begins, hw⟩
      · obtain ⟨next, kept⟩ := hidle.step step
        exact Or.inl ⟨next, documented_of_kept documented (.single (Or.inr step)) kept⟩
      · exact Or.inr ⟨a, b, hpa, ha, begins, hw.tail step⟩

lemma documented_of_reaches (idle : p.IsIdle) (whole : p.tracker.store.Whole)
    (h : Reaches settings p q) : Documented settings p q := by
  rcases idle_or_within idle whole h with ⟨-, documented⟩ | ⟨a, b, hpa, ha, begins, hw⟩
  · exact documented
  · exact documented_within ha hpa (whole_reaches whole hpa) begins hw

/-- A schedule leaves the document as it was or makes it that of a whole inventory. -/
lemma documented_run (settings : Settings) (configs : Nat → Option (List NamespaceConfig))
    (now : Nat → Instant) (stop : Nat) {w : Tracker σ κ} (unlocked : w.store.IsUnlocked)
    (whole : w.store.Whole) :
    ∃ done, Documented settings ⟨{ w with clock := 0, log := [] }, [], [], none⟩
      ⟨(w.run settings configs now stop).tracker, done, [], none⟩ := by
  obtain ⟨done, h⟩ := reaches_run settings configs now stop unlocked
  exact ⟨done, documented_of_reaches ⟨rfl, rfl⟩ whole h⟩

/-- In any run, with any failures, and abandoned wherever it may be: the document is at every moment
the one from before the run or that of a whole inventory after a cycle without failures; a cycle
with a failure never changes it; and a cycle that ends has persisted the inventory exactly if
nothing has failed, there is a keep, and the write has succeeded. -/
theorem document_never_partial (settings : Settings) {p q : Process σ κ} (idle : p.IsIdle)
    (whole : p.tracker.store.Whole) (h : Reaches settings p q) :
    (q.held = p.held ∨ ∃ r now, Reaches settings p r ∧ Reaches settings r q ∧
        r.IsEnriched settings ∧ r.tracker.report.failures = [] ∧
          q.held = some (Snapshot.encode
            ⟨r.tracker.inventory.claimList, r.tracker.inventory.compositeList, now⟩)) ∧
      (∀ b, Begins settings q b → ∀ r s, Within b r → Within r s →
        s.tracker.report.failures ≠ [] → r.held = q.held) ∧
      ∀ b, Begins settings q b → ∀ s, Within b s → .finish ∈ s.done →
        (s.tracker.report.persisted = true ↔ s.tracker.report.failures = [] ∧
          (∃ d, s.tracker.store = .durable d) ∧
            ∃ r t now, Within b r ∧ Writes now r t ∧ Within t s) := by
  refine ⟨documented_of_reaches idle whole h, ?_, ?_⟩
  · intro b begins r s hbr hrs failed
    obtain ⟨polled, actions, split, progress, start, -, -, store, -⟩ := begins.progress
    have wholeStart : b.tracker.store.Whole := store ▸ whole_reaches whole h
    rcases held_within split start progress wholeStart hbr with kept | ⟨clean, -⟩
    · exact kept.trans (congrArg Store.held store)
    · refine absurd ((progress.within (hbr.trans hrs)).failures_eq_nil ?_) failed
      rw [split.eq, clean, List.filterMap_append, clean]
      rfl
  · intro b begins s hbs finished
    obtain ⟨polled, actions, split, progress, -, idle, fresh, -⟩ := begins.progress
    exact persisted_iff split progress fresh idle hbs finished

def idleDurable : Tracker Cluster Slot :=
  { Tracker.idleTracker with store := .durable ⟨∅, {}, Durable.defaultLimit, false⟩ }

/-- The same tracker after a troubled cycle and a quiet one. -/
def workedDurable : Tracker Cluster Slot :=
  idleDurable.rounds Tracker.sampleSettings true [Tracker.troubledRound, Tracker.quietRound]

/-- The document after the two cycles is that of the inventory after enrichment in the quiet one. -/
theorem quiet_cycle_documented :
    ∃ done, ∃ q : Process Cluster Slot, q = ⟨workedDurable, done, [], none⟩ ∧
      Reaches Tracker.sampleSettings ⟨idleDurable, [], [], none⟩ q ∧
        ∃ r now, Reaches Tracker.sampleSettings ⟨idleDurable, [], [], none⟩ r ∧
          Reaches Tracker.sampleSettings r q ∧ r.IsEnriched Tracker.sampleSettings ∧
            r.tracker.report.failures = [] ∧ q.held = some (Snapshot.encode
              ⟨r.tracker.inventory.claimList, r.tracker.inventory.compositeList, now⟩) := by
  obtain ⟨done, run⟩ := reaches_rounds (w := idleDurable) rfl Tracker.sampleSettings true
    [Tracker.troubledRound, Tracker.quietRound] []
  refine ⟨done, _, rfl, run, ?_⟩
  have whole : idleDurable.store.Whole := Slot.whole {}
  have never := document_never_partial Tracker.sampleSettings ⟨rfl, rfl⟩ whole run
  rcases never.1 with same | documented
  · cases same
  · exact documented

end Process

end ClaimTracker
