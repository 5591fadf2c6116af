import ClaimTracker.Proofs.Cycle.Forgetting
import ClaimTracker.Proofs.Cycle.Report
import ClaimTracker.Proofs.Inventory.Operations
import ClaimTracker.Proofs.Metrics.Sums

/-!
# Reports, records and metrics agree

A cycle observes the inventory after its last change and counts it at its end, so the gauges of a
family, the number shown as stored, the report and the inventory tell the same number of records. Each
failure and each skipped declaration is counted when it is reported, so the counters stand at what all
reports together tell.
-/

namespace ClaimTracker

open ClaimTracker.Cycle ClaimTracker.Metrics

namespace Metrics

def IsOutcome (writes : List Write) : Prop :=
  ∀ x ∈ writes, x = .persist ∨ x = .persistFailed

lemma IsOutcome.filterMap_eq_nil {β : Type} {f : Write → Option β} {writes : List Write}
    (h : IsOutcome writes) (persist : f .persist = none) (failed : f .persistFailed = none) :
    writes.filterMap f = [] := by
  refine List.filterMap_eq_nil_iff.mpr fun x hx => ?_
  rcases h x hx with rfl | rfl
  · exact persist
  · exact failed

def endOfCycle (i : Inventory) (outcome : List Write) : List Write :=
  .inventory i.claimList i.compositeList :: (outcome ++ [.cycle i.claimCount i.compositeCount])

/-- What has been written ends with an inventory as it is observed and counted. -/
structure EndsWith (writes : List Write) (i : Inventory) : Prop where
  claims : (writes.filterMap Write.claims?).getLast? = some i.claimList
  composites : (writes.filterMap Write.composites?).getLast? = some i.compositeList
  counts : (writes.filterMap Write.counts?).getLast? = some (i.claimCount, i.compositeCount)

lemma EndsWith.append {writes : List Write} {i : Inventory} (h : EndsWith writes i)
    (before : List Write) : EndsWith (before ++ writes) i := by
  constructor
  · rw [List.filterMap_append, List.getLast?_append, h.claims, Option.some_or]
  · rw [List.filterMap_append, List.getLast?_append, h.composites, Option.some_or]
  · rw [List.filterMap_append, List.getLast?_append, h.counts, Option.some_or]

lemma endsWith_endOfCycle {outcome : List Write} (h : IsOutcome outcome) (i : Inventory) :
    EndsWith (endOfCycle i outcome) i := by
  have claims : outcome.filterMap Write.claims? = [] := h.filterMap_eq_nil rfl rfl
  have composites : outcome.filterMap Write.composites? = [] := h.filterMap_eq_nil rfl rfl
  constructor
  · simp [endOfCycle, List.filterMap_cons, Write.claims?, claims]
  · simp [endOfCycle, List.filterMap_cons, Write.composites?, composites]
  · simp [endOfCycle, List.filterMap_cons, Write.counts?]

/-- Metrics whose writing ends with an inventory show its numbers of records. -/
lemma EndsWith.showTotal {writes : List Write} {i : Inventory} (h : EndsWith writes i) :
    (written writes).ShowTotal (written writes).claimGauges "crossplane_claims_total"
        "xtrack_store_claims" i.claimCount ∧
      (written writes).ShowTotal (written writes).compositeGauges "crossplane_xr_total"
        "xtrack_store_composites" i.compositeCount := by
  obtain ⟨claims, composites⟩ := current_written writes
  obtain ⟨-, -, storedClaims, storedComposites⟩ := counted_written writes
  have claimCount : i.claimList.length = i.claimCount := Table.length_records i.claims
  have compositeCount : i.compositeList.length = i.compositeCount := Table.length_records i.composites
  rw [h.counts, Option.map_some] at storedClaims storedComposites
  rw [← claimCount] at storedClaims ⊢
  rw [← compositeCount] at storedComposites ⊢
  have claimGauges := claim_gauges_mem_families (written writes)
  have compositeGauges := composite_gauges_mem_families (written writes)
  exact ⟨claims.holdLast.showTotal h.claims storedClaims (by decide) claimGauges (by simp [families]),
    composites.holdLast.showTotal h.composites storedComposites (by decide) compositeGauges
      (by simp [families])⟩

end Metrics

namespace Tracker

variable {σ κ : Type} [Keep κ]

/-- A persist writes its outcome to the metrics, if it has one. -/
lemma metrics_persist (now : Instant) (w : Tracker σ κ) :
    ∃ outcome, IsOutcome outcome ∧
      (w.persist now).metrics = outcome.foldl Metrics.write w.metrics := by
  cases hs : w.store with
  | memory i =>
    refine ⟨[], nofun, ?_⟩
    simp only [persist, hs, List.foldl_nil]
  | durable d =>
    cases hp : d.persist now with
    | mk result e =>
      cases result with
      | none =>
        refine ⟨[], nofun, ?_⟩
        simp only [persist, hs, hp, List.foldl_nil]
      | some result =>
        cases result with
        | ok done =>
          refine ⟨[.persist], by simp [IsOutcome], ?_⟩
          simp only [persist, hs, hp]
          rfl
        | error cause =>
          refine ⟨[.persistFailed], by simp [IsOutcome], ?_⟩
          simp only [persist, hs, hp]
          rfl

/-- What a tracker counts while carrying out actions is what these tell of. -/
structure Counts (l : List (Action σ)) (writes : List Write) : Prop where
  errors : writes.filterMap Write.listError? =
    (l.filterMap Action.failure?).map ListFailure.partition
  skips : writes.filterMap Write.skippedType? = l.filterMap Action.skipped?

lemma Counts.append {l m : List (Action σ)} {writes more : List Write} (first : Counts l writes)
    (second : Counts m more) : Counts (l ++ m) (writes ++ more) := by
  constructor
  · rw [List.filterMap_append, first.errors, second.errors, List.filterMap_append, List.map_append]
  · rw [List.filterMap_append, first.skips, second.skips, List.filterMap_append]

/-- What an action writes to the metrics. -/
lemma metrics_act (now : Instant) (w : Tracker σ κ) (a : Action σ) :
    ∃ writes, Counts [a] writes ∧ (w.act now a).metrics = writes.foldl Metrics.write w.metrics := by
  cases a with
  | listFailed f => exact ⟨[.listError f.partition], ⟨rfl, rfl⟩, rfl⟩
  | skip p => exact ⟨[.skippedType p], ⟨rfl, rfl⟩, rfl⟩
  | configs n => exact ⟨[.configs n], ⟨rfl, rfl⟩, rfl⟩
  | publish =>
    exact ⟨[.inventory w.inventory.claimList w.inventory.compositeList], ⟨rfl, rfl⟩, rfl⟩
  | finish =>
    exact ⟨[.cycle w.inventory.claimCount w.inventory.compositeCount], ⟨rfl, rfl⟩, rfl⟩
  | persist =>
    obtain ⟨outcome, kinds, heq⟩ := metrics_persist now w
    exact ⟨outcome, ⟨kinds.filterMap_eq_nil rfl rfl, kinds.filterMap_eq_nil rfl rfl⟩, heq⟩
  | call | replaceClaims | replaceComposites | remember | retireClaims | retireComposites | enrich =>
    exact ⟨[], ⟨rfl, rfl⟩, rfl⟩

lemma metrics_perform (now : Instant) (w : Tracker σ κ) (l : List (Action σ)) :
    ∃ writes, Counts l writes ∧ (w.perform now l).metrics = writes.foldl Metrics.write w.metrics := by
  induction l generalizing w with
  | nil => exact ⟨[], ⟨rfl, rfl⟩, rfl⟩
  | cons a l ih =>
    obtain ⟨first, counts, heq⟩ := metrics_act now w a
    obtain ⟨rest, counted, heq'⟩ := ih (w.act now a)
    refine ⟨first ++ rest, counts.append counted, ?_⟩
    rw [perform_cons, heq', heq, List.foldl_append]

/-- After enrichment a cycle writes the inventory as it is then and stays. -/
lemma metrics_closing (clean : Bool) (now : Instant) (w : Tracker σ κ) :
    ∃ outcome, IsOutcome outcome ∧ (w.perform now (closing clean)).metrics =
      (endOfCycle w.inventory outcome).foldl Metrics.write w.metrics := by
  cases clean with
  | false => exact ⟨[], nofun, rfl⟩
  | true =>
    obtain ⟨outcome, kinds, heq⟩ := metrics_persist now (w.act now .publish)
    have kept : ((w.act now .publish).persist now).inventory = w.inventory := persist_inventory now _
    refine ⟨outcome, kinds, ?_⟩
    calc (w.perform now (closing true)).metrics
        = ((w.act now .publish).persist now).metrics.observeCycle
            ((w.act now .publish).persist now).inventory.claimCount
            ((w.act now .publish).persist now).inventory.compositeCount := rfl
      _ = (endOfCycle w.inventory outcome).foldl Metrics.write w.metrics := by
          rw [kept, heq, endOfCycle, List.foldl_cons, List.foldl_concat]
          rfl

/-- The end of a cycle tells of no failure and skips nothing. -/
lemma Counts.endOfCycle {i : Inventory} {outcome : List Write} (h : IsOutcome outcome) (clean : Bool) :
    Counts (.enrich :: closing clean : List (Action σ)) (endOfCycle i outcome) := by
  have errors : outcome.filterMap Write.listError? = [] := h.filterMap_eq_nil rfl rfl
  have skips : outcome.filterMap Write.skippedType? = [] := h.filterMap_eq_nil rfl rfl
  constructor
  · cases clean <;>
      simp [Metrics.endOfCycle, closing, List.filterMap_cons, Write.listError?, Action.failure?,
        errors]
  · cases clean <;>
      simp [Metrics.endOfCycle, closing, List.filterMap_cons, Write.skippedType?,
        Action.skipped?, skips]

variable [Listing.Source σ]

/-- What the metrics have been written, and what has been reported, agree. -/
structure Accounts (w : Tracker σ κ) (reports : List CycleReport) (writes : List Write) : Prop where
  metrics : w.metrics = written writes
  errors : writes.filterMap Write.listError? =
    (reports.flatMap CycleReport.failures).map ListFailure.partition
  skips : writes.filterMap Write.skippedType? = reports.flatMap CycleReport.skipped

section Poll

variable (settings : Settings) (configs : Option (List NamespaceConfig)) (now : Instant)
  (w : Tracker σ κ)

/-- What a cycle writes before its end is what its polling counts. -/
lemma exists_before_closing : ∃ (clean : Bool) (v : Tracker σ κ) (polled : List Write),
    w.nextActions settings configs =
      polling settings configs w.declared w.source ++ .enrich :: closing clean ∧
    w.poll settings configs now = v.perform now (closing clean) ∧
    Counts (polling settings configs w.declared w.source) polled ∧
    v.metrics = polled.foldl Metrics.write w.metrics := by
  obtain ⟨polled, counts, metrics⟩ :=
    metrics_perform now w.begin (polling settings configs w.declared w.source)
  refine ⟨_, (w.begin.perform now (polling settings configs w.declared w.source)).act now .enrich,
    polled, actions_eq_closing settings configs w.declared w.source, ?_, counts, metrics⟩
  rw [poll, nextActions, actions_eq_closing, perform_append, perform_cons]

/-- A cycle counts what it reports, and ends with its inventory. -/
lemma metrics_poll : ∃ writes, (w.poll settings configs now).metrics =
      writes.foldl Metrics.write w.metrics ∧
    writes.filterMap Write.listError? =
      (w.poll settings configs now).report.failures.map ListFailure.partition ∧
    writes.filterMap Write.skippedType? = (w.poll settings configs now).report.skipped ∧
    EndsWith writes (w.poll settings configs now).inventory := by
  obtain ⟨clean, v, polled, actions, ends, counts, early⟩ :=
    exists_before_closing settings configs now w
  obtain ⟨outcome, kinds, late⟩ := metrics_closing clean now v
  have all : Counts (w.nextActions settings configs) (polled ++ endOfCycle v.inventory outcome) := by
    rw [actions]
    exact counts.append (Counts.endOfCycle kinds clean)
  refine ⟨polled ++ endOfCycle v.inventory outcome, ?_, all.errors.trans ?_, all.skips.trans ?_, ?_⟩
  · rw [List.foldl_append, ends, late, early]
  · rw [poll, failures_perform]
    rfl
  · rw [poll, skipped_perform]
    rfl
  · rw [ends, inventory_closing]
    exact (endsWith_endOfCycle kinds v.inventory).append polled

/-- A cycle reports the numbers of records that it leaves. -/
lemma report_poll :
    (w.poll settings configs now).report.claims = (w.poll settings configs now).inventory.claimCount ∧
      (w.poll settings configs now).report.composites =
        (w.poll settings configs now).inventory.compositeCount := by
  obtain ⟨clean, v, -, -, ends, -, -⟩ := exists_before_closing settings configs now w
  rw [ends]
  cases clean <;> exact ⟨rfl, rfl⟩

end Poll

section Rounds

variable {settings : Settings} {served : Bool}

def reports (settings : Settings) (served : Bool) (w : Tracker σ κ) :
    List (Round σ) → List CycleReport
  | [] => []
  | r :: l =>
    (w.round settings served r).report :: reports settings served (w.round settings served r) l

lemma reports_append_singleton (w : Tracker σ κ) (l : List (Round σ)) (r : Round σ) :
    w.reports settings served (l ++ [r]) =
      w.reports settings served l ++
        [((w.rounds settings served l).round settings served r).report] := by
  induction l generalizing w with
  | nil => rfl
  | cons first l ih =>
    rw [List.cons_append, reports, ih]
    rfl

variable {w : Tracker σ κ}

/-- One more cycle keeps the accounts, and they end with its inventory. -/
lemma Accounts.round {reports : List CycleReport} {writes : List Write}
    (h : w.Accounts reports writes) (r : Round σ) :
    ∃ more, (w.round settings served r).Accounts (reports ++ [(w.round settings served r).report])
        (writes ++ more) ∧ EndsWith (writes ++ more) (w.round settings served r).inventory := by
  obtain ⟨more, metrics, errors, skips, ends⟩ :=
    metrics_poll settings (r.configs? served) r.now (w.facing r.source)
  refine ⟨more, ⟨?_, ?_, ?_⟩, ?_⟩
  · rw [written, List.foldl_append, ← written, ← h.metrics]
    exact metrics
  · rw [List.filterMap_append, h.errors, List.flatMap_append, List.map_append, List.flatMap_singleton]
    exact congrArg _ errors
  · rw [List.filterMap_append, h.skips, List.flatMap_append, List.flatMap_singleton]
    exact congrArg _ skips
  · exact ends.append writes

lemma accounts_rounds (settings : Settings) (served : Bool) (own : w.metrics = ∅)
    (l : List (Round σ)) :
    ∃ writes, (w.rounds settings served l).Accounts (w.reports settings served l) writes := by
  induction l using List.reverseRecOn with
  | nil => exact ⟨[], own, rfl, rfl⟩
  | append_singleton l r ih =>
    obtain ⟨writes, accounts⟩ := ih
    obtain ⟨more, accounts, -⟩ := accounts.round r
    refine ⟨writes ++ more, ?_⟩
    rw [reports_append_singleton, rounds, List.foldl_concat]
    exact accounts

/-- After every cycle of a tracker with metrics of its own, the gauges of a family together, the number
shown as stored, the report and the inventory tell the same number of records, and the counters stand at
the failures and the skipped declarations of all reports, each under its type. -/
theorem reports_and_metrics_agree (settings : Settings) (served : Bool) (w : Tracker σ κ)
    (own : w.metrics = ∅) (l : List (Round σ)) (r : Round σ) :
    let after := w.rounds settings served (l ++ [r])
    let reports := w.reports settings served (l ++ [r])
    reports.getLast? = some after.report ∧
      after.report.claims = after.inventory.claimCount ∧
      after.report.composites = after.inventory.compositeCount ∧
      after.metrics.ShowTotal after.metrics.claimGauges "crossplane_claims_total"
        "xtrack_store_claims" after.report.claims ∧
      after.metrics.ShowTotal after.metrics.compositeGauges "crossplane_xr_total"
        "xtrack_store_composites" after.report.composites ∧
      (∀ g n, ⟨"xtrack_poll_errors_total", [("gvr", g)], n⟩ ∈ after.metrics.series ↔
        0 < n ∧ n = ((reports.flatMap CycleReport.failures).map ListFailure.partition).count g) ∧
      ∀ g n, ⟨"xtrack_namespace_gvr_skipped_total", [("gvr", g)], n⟩ ∈ after.metrics.series ↔
        0 < n ∧ n = (reports.flatMap CycleReport.skipped).count g := by
  intro after reports
  obtain ⟨before, accounts⟩ := accounts_rounds settings served own l
  obtain ⟨more, accounts, ends⟩ := accounts.round r
  have round : after = (w.rounds settings served l).round settings served r :=
    List.foldl_concat _ _ _ _
  have all : reports = w.reports settings served l ++ [after.report] := by
    rw [round]
    exact reports_append_singleton w l r
  obtain ⟨claims, composites⟩ : after.report.claims = after.inventory.claimCount ∧
      after.report.composites = after.inventory.compositeCount := by
    rw [round]
    exact report_poll settings (r.configs? served) r.now _
  rw [← round] at accounts ends
  rw [← all] at accounts
  -- What has been written so far counts all reports, and ends with the inventory of this cycle.
  obtain ⟨errors, skips, -, -⟩ := counted_written (before ++ more)
  obtain ⟨shownClaims, shownComposites⟩ := ends.showTotal
  rw [← accounts.metrics] at errors skips shownClaims shownComposites
  rw [accounts.errors] at errors
  rw [accounts.skips] at skips
  rw [← claims] at shownClaims
  rw [← composites] at shownComposites
  have countedErrors : Family.counters "xtrack_poll_errors_total" after.metrics.listErrors ∈
      after.metrics.families := by simp [families]
  have countedSkips : Family.counters "xtrack_namespace_gvr_skipped_total"
      after.metrics.skippedTypes ∈ after.metrics.families := by simp [families]
  refine ⟨by rw [all, List.getLast?_concat], claims, composites, shownClaims, shownComposites,
    fun g n => ?_, fun g n => ?_⟩
  · rw [mem_series_of_counters countedErrors, errors, getElem?_increments, started_eq_some_iff]
  · rw [mem_series_of_counters countedSkips, skips, getElem?_increments, started_eq_some_iff]

/-- A failed listing of an earlier cycle is still counted, and the gauges tell what is left. -/
theorem troubled_cycle_accounted :
    let after := idleTracker.rounds sampleSettings true ([troubledRound] ++ [quietRound])
    idleTracker.metrics = ∅ ∧ after.metrics.claimGauges.sum = after.inventory.claimCount ∧
      ⟨"xtrack_poll_errors_total", [("gvr", "g/v1/xwidgets")], 1⟩ ∈ after.metrics.series := by
  intro after
  obtain ⟨-, claims, -, shown, -, errors, -⟩ :=
    reports_and_metrics_agree sampleSettings true idleTracker rfl [troubledRound] quietRound
  refine ⟨rfl, shown.held.trans claims, (errors _ _).mpr ⟨Nat.one_pos, ?_⟩⟩
  have first : (idleTracker.round sampleSettings true troubledRound).report.failures =
      [⟨"g/v1/xwidgets", none, "down"⟩] := failures_round troubledRound
  have second : ((idleTracker.round sampleSettings true troubledRound).round sampleSettings true
      quietRound).report.failures = [] := failures_round quietRound
  simp [reports, first, second]

end Rounds

end Tracker

end ClaimTracker
