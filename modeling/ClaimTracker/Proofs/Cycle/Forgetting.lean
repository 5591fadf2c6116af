import ClaimTracker.Cluster
import ClaimTracker.Keep.Slot
import ClaimTracker.Proofs.Cycle.Retirement

/-!
# What a cycle remembers of earlier ones

Cycles follow one another, each with the pages and the namespace configurations that it meets. The
inventory stays within what is central or was declared in the cycle before, also through cycles in
which listings fail. So a cycle without failures finds nothing that it does not replace or retire,
and leaves the inventory that it would leave if it came first.
-/

namespace ClaimTracker

open ClaimTracker.Cycle

/-- What a cycle is given: the pages that requests lead to, the namespace configurations as they are
at its start, and the time. -/
structure Round (σ : Type) where
  source : σ
  configs : List NamespaceConfig
  now : Instant

/-- The configurations that a tracker polls for, none if it does not serve namespaces. -/
def Round.configs? {σ : Type} (served : Bool) (r : Round σ) : Option (List NamespaceConfig) :=
  if served then some r.configs else none

namespace Tracker

variable {σ κ : Type}

/-- The tracker in front of other pages. -/
def facing (w : Tracker σ κ) (source : σ) : Tracker σ κ := { w with source }

structure IsNew (w : Tracker σ κ) : Prop where
  inventory : w.inventory = ∅
  declared : w.declared = {}

/-- All records are of central types or of types declared in the cycle before, and without
namespaces nothing is declared. -/
structure Settled (settings : Settings) (served : Bool) (w : Tracker σ κ) : Prop where
  covers : Covers settings w.declared w.inventory
  consistent : served = false → w.declared = {}

variable {settings : Settings} {served : Bool} {w : Tracker σ κ}

lemma IsNew.settled (h : w.IsNew) : w.Settled settings served := by
  constructor
  · rw [h.inventory]
    exact covers_empty settings w.declared
  · intro _
    exact h.declared

lemma Settled.consistent_configs (h : w.Settled settings served) (r : Round σ) :
    Consistent (r.configs? served) w.declared := by
  cases served with
  | false => exact fun _ => h.consistent rfl
  | true => intro hnone; cases hnone

variable [Listing.Source σ] [Keep κ]

def round (settings : Settings) (served : Bool) (w : Tracker σ κ) (r : Round σ) : Tracker σ κ :=
  (w.facing r.source).poll settings (r.configs? served) r.now

def rounds (settings : Settings) (served : Bool) (w : Tracker σ κ) (l : List (Round σ)) :
    Tracker σ κ :=
  l.foldl (round settings served) w

lemma inventory_round (r : Round σ) :
    (w.round settings served r).inventory =
      (w.inventory.replaceAll ((polling settings (r.configs? served) w.declared
        r.source).filterMap Action.replacement?)).enrich :=
  inventory_poll settings (r.configs? served) r.now (w.facing r.source)

lemma failures_round (r : Round σ) :
    (w.round settings served r).report.failures =
      (listing settings (r.configs? served) r.source).filterMap
        Action.failure? := by
  rw [round, failures_poll, failures_polling]
  rfl

lemma declared_round (h : w.Settled settings served) (r : Round σ) :
    (w.round settings served r).declared =
      declaredNow settings (r.configs? served) := by
  rw [round, declared_poll]
  cases served with
  | false => exact h.consistent rfl
  | true => rfl

/-- Every cycle preserves what is known of the inventory, also one in which listings fail. -/
lemma Settled.round (h : w.Settled settings served) (r : Round σ) :
    (w.round settings served r).Settled settings served := by
  constructor
  · rw [declared_round h, inventory_round]
    exact (h.covers.polled (h.consistent_configs r)).enrich
  · rintro rfl
    exact declared_round h r

lemma Settled.rounds (h : w.Settled settings served) (l : List (Round σ)) :
    (w.rounds settings served l).Settled settings served := by
  induction l generalizing w with
  | nil => exact h
  | cons r l ih => exact ih (h.round r)

lemma listing_clean {r : Round σ} (clean : (w.round settings served r).report.isClean = true) :
    ∀ x ∈ listing settings (r.configs? served) r.source,
      isFailure x = false := by
  intro x hx
  have none : (w.round settings served r).report.failures = [] := List.isEmpty_iff.mp clean
  rw [failures_round] at none
  rw [isFailure_eq, List.filterMap_eq_nil_iff.mp none x hx]
  rfl

/-- What a cycle without failures leaves depends on what it lists alone. -/
lemma Settled.inventory_of_clean (h : w.Settled settings served) {r : Round σ}
    (clean : ∀ x ∈ listing settings (r.configs? served) r.source,
      isFailure x = false) :
    (w.round settings served r).inventory =
      Inventory.enrich ⟨(∅ : Table Claim).replaceAll
          (claimCalls settings (r.configs? served) r.source),
        (∅ : Table Composite).replaceAll
          (compositeCalls settings (r.configs? served) r.source)⟩ := by
  rw [inventory_round,
    replaceAll_polling_of_clean h.covers (h.consistent_configs r) clean]

/-- A cycle without failures, whatever came before it, leaves the inventory that it leaves if it is
the first one, and all records in it were listed in this cycle. -/
theorem inventory_forgets_history {κ' : Type} [Keep κ'] (settings : Settings) (served : Bool)
    {w : Tracker σ κ} {v : Tracker σ κ'} (hw : w.IsNew) (hv : v.IsNew) (history : List (Round σ))
    (last : Round σ)
    (clean : ((w.rounds settings served history).round settings served last).report.isClean = true) :
    let before := (w.rounds settings served history).facing last.source
    let after := (w.rounds settings served history).round settings served last
    after.inventory = (v.round settings served last).inventory ∧
      (∀ (k : String) (c : Claim), after.inventory.claims[k]? = some c →
        ∃ items, .replaceClaims c.partition items ∈
            before.nextActions settings (last.configs? served) ∧
          ∃ b ∈ items, Record.key b = k ∧
            c = { b with partition := c.partition, composition := c.composition }) ∧
      ∀ (k : String) (x : Composite), after.inventory.composites[k]? = some x →
        ∃ items, .replaceComposites x.partition items ∈
            before.nextActions settings (last.configs? served) ∧
          ∃ y ∈ items, Record.key y = k ∧ x = { y with partition := x.partition } := by
  have settled : (w.rounds settings served history).Settled settings served :=
    hw.settled.rounds history
  have listed := listing_clean clean
  have left := settled.inventory_of_clean listed
  refine ⟨?_, ?_, ?_⟩
  · rw [left, hv.settled.inventory_of_clean listed]
  · intro k c hc
    rw [left, Inventory.getElem?_enrich_claims] at hc
    obtain ⟨a, ha, rfl⟩ := Option.map_eq_some_iff.mp hc
    obtain ⟨items, replaced, b, hb, hkey, heq⟩ := exists_listed_claim ha
    refine ⟨items, mem_actions_of_mem_listing replaced, b, hb, hkey, ?_⟩
    rw [heq]
  · intro k x hx
    rw [left] at hx
    obtain ⟨items, replaced, y, hy, hkey, heq⟩ := exists_listed_composite hx
    exact ⟨items, mem_actions_of_mem_listing replaced, y, hy, hkey, heq⟩

/-- One central claim type and one central composite type. -/
def sampleSettings : Settings where
  claimTypes := [⟨"g", "v1", "widgets"⟩]
  compositeTypes := [⟨"g", "v1", "xwidgets"⟩]
  namespaces := []
  keys := ⟨none, none, RecordKeys.defaultComposition⟩
  interval := Settings.second

def sampleObject (ns name : String) : ClusterObject where
  kind := none
  metadata := { name := some name, ns := some ns }
  data := .object []

def sampleMoment : Instant where
  date := ⟨2024, 1, 1, by decide, by decide, by decide, by decide, by decide, by decide⟩
  hour := 0
  minute := 0
  second := 0
  nano := 0
  hour_lt := by decide
  minute_lt := by decide
  second_lt := by decide
  nano_lt := by decide
  leap_second := by decide

/-- A namespace declares a type, and composites cannot be listed. -/
def troubledRound : Round Cluster where
  source :=
    { pageSize := 500
      objects := [("g/v1/widgets", [sampleObject "a" "old"]), ("g/v1/gadgets", [sampleObject "a" "x"])]
      faults := [⟨"g/v1/xwidgets", none, none, "down"⟩] }
  configs := [⟨"a", "types", [⟨"g", "v1", "gadgets"⟩], [], none, none⟩]
  now := sampleMoment

/-- No namespace declares anything any more, and everything can be listed. -/
def quietRound : Round Cluster where
  source := { pageSize := 500, objects := [("g/v1/widgets", [sampleObject "a" "new"])] }
  configs := []
  now := sampleMoment

def idleTracker : Tracker Cluster Slot where
  source := { pageSize := 500 }
  store := .memory ∅

/-- Two claims that a troubled cycle has stored are forgotten in the next. -/
theorem trouble_forgotten :
    (idleTracker.rounds sampleSettings true [troubledRound]).report.failures =
        [⟨"g/v1/xwidgets", none, "down"⟩] ∧
      ((idleTracker.rounds sampleSettings true [troubledRound]).round sampleSettings true
        quietRound).report.isClean = true ∧
      ((idleTracker.rounds sampleSettings true [troubledRound]).round sampleSettings true
        quietRound).inventory = (idleTracker.round sampleSettings true quietRound).inventory := by
  have new : idleTracker.IsNew := ⟨rfl, rfl⟩
  have clean : ((idleTracker.rounds sampleSettings true [troubledRound]).round sampleSettings true
      quietRound).report.isClean = true := by
    rw [CycleReport.isClean, failures_round]
    rfl
  refine ⟨failures_round troubledRound, clean, ?_⟩
  exact (inventory_forgets_history sampleSettings true new new [troubledRound] quietRound clean).1

end Tracker

end ClaimTracker
