import ClaimTracker.Double
import ClaimTracker.Tally

/-!
# Metrics

The tracker counts its own work and publishes the tallies of the inventory as gauges. Labels that the
last inventory had and the present one lacks keep a gauge, at zero. A series appears once something
has been written to it. A counter shows its exact number, a gauge the double nearest to it.
-/

namespace ClaimTracker

/-- What has been written to the metrics so far. -/
structure Metrics where
  cyclesTimed : Nat := 0
  listErrors : Std.ExtTreeMap String Nat := ∅
  storedClaims : Option Nat := none
  storedComposites : Option Nat := none
  namespaceConfigs : Option Nat := none
  skippedTypes : Std.ExtTreeMap String Nat := ∅
  persistsTimed : Nat := 0
  persistFailures : Nat := 0
  claimGauges : Tally.Sheet ClaimLabels := ∅
  compositeGauges : Tally.Sheet CompositeLabels := ∅
  publishedClaims : Tally.Sheet ClaimLabels := ∅
  publishedComposites : Tally.Sheet CompositeLabels := ∅

namespace Metrics

def empty : Metrics := {}

instance : EmptyCollection Metrics := ⟨empty⟩

/-- Gauges after the tallies `now` have been published over those published last. -/
def publish {κ : Type} [Ord κ] [Std.TransOrd κ] (gauges last now : Tally.Sheet κ) :
    Tally.Sheet κ :=
  (gauges ∪ last.map fun _ _ => .zero) ∪ now

def observeInventory (m : Metrics) (claims : List Claim) (composites : List Composite) : Metrics :=
  let claims := Tally.ofClaims claims
  let composites := Tally.ofComposites composites
  { m with
    claimGauges := publish m.claimGauges m.publishedClaims claims
    compositeGauges := publish m.compositeGauges m.publishedComposites composites
    publishedClaims := claims
    publishedComposites := composites }

/-- The metrics as a tracker takes them up: what has been written stands, and the tallies published
last are those of its own metrics. -/
def takenUp (m own : Metrics) : Metrics :=
  { m with
    publishedClaims := own.publishedClaims
    publishedComposites := own.publishedComposites }

/-- The metrics as a new tracker takes them up, which has published nothing. -/
def handedOver (m : Metrics) : Metrics :=
  m.takenUp ∅

/-- The numbers of different labels of the claims and of the composites published last. -/
def publishedCounts (m : Metrics) : Nat × Nat :=
  (m.publishedClaims.size, m.publishedComposites.size)

def increment (counters : Std.ExtTreeMap String Nat) (label : String) :
    Std.ExtTreeMap String Nat :=
  counters.alter label fun n => some (n.getD 0 + 1)

def listError (m : Metrics) (partition : String) : Metrics :=
  { m with listErrors := increment m.listErrors partition }

def skippedType (m : Metrics) (partition : String) : Metrics :=
  { m with skippedTypes := increment m.skippedTypes partition }

def observeCycle (m : Metrics) (claims composites : Nat) : Metrics :=
  { m with
    cyclesTimed := m.cyclesTimed + 1
    storedClaims := some claims
    storedComposites := some composites }

def observeConfigs (m : Metrics) (n : Nat) : Metrics :=
  { m with namespaceConfigs := some n }

def observePersist (m : Metrics) : Metrics :=
  { m with persistsTimed := m.persistsTimed + 1 }

def persistFailed (m : Metrics) : Metrics :=
  { m with persistFailures := m.persistFailures + 1 }

/-- A published number with its labels, ordered by label name. -/
structure Series where
  name : String
  labels : List (String × String)
  value : Nat
deriving DecidableEq, Repr

/-- The order of series: by name, then by labels. -/
def Series.listedBefore (a b : Series) : Bool :=
  ((compare a.name b.name).then
    (compare (a.labels.map Prod.snd) (b.labels.map Prod.snd))).isLE

def claimSeriesLabels (l : ClaimLabels) : List (String × String) :=
  [("composition", l.composition), ("creator", l.creator), ("group", l.group), ("kind", l.kind),
    ("namespace", l.ns), ("team", l.team)]

def compositeSeriesLabels (l : CompositeLabels) : List (String × String) :=
  [("composition", l.composition), ("group", l.group), ("kind", l.kind), ("namespace", l.ns)]

/-- Series that go by certain names. -/
structure Family where
  names : List String
  series : List Series
  named : ∀ s ∈ series, s.name ∈ names

namespace Family

/-- A series without labels, if something has been written to it. -/
def plain (name : String) (value : Option Nat) : Family where
  names := [name]
  series := (value.map fun n => ⟨name, [], n⟩).toList
  named := by simp

/-- A gauge without labels, if it has been set. -/
def gauge (name : String) (value : Option Nat) : Family :=
  plain name (value.map Double.toWord)

def counters (name : String) (counts : Std.ExtTreeMap String Nat) : Family where
  names := [name]
  series := counts.toList.map fun (label, n) => ⟨name, [("gvr", label)], n⟩
  named := List.forall_mem_map.mpr fun _ _ => List.mem_singleton.mpr rfl

def gauges {κ : Type} [Ord κ] [Std.TransOrd κ] (totalName readyName : String)
    (labels : κ → List (String × String)) (sheet : Tally.Sheet κ) : Family where
  names := [totalName, readyName]
  series := sheet.toList.flatMap fun (k, t) =>
    [⟨totalName, labels k, Double.toWord t.total⟩, ⟨readyName, labels k, Double.toWord t.ready⟩]
  named := by
    intro s h
    obtain ⟨p, -, shown⟩ := List.mem_flatMap.mp h
    simp only [List.mem_cons, List.not_mem_nil, or_false] at shown ⊢
    rcases shown with rfl | rfl
    · exact Or.inl rfl
    · exact Or.inr rfl

end Family

/-- A count that starts with the first recording. -/
def started (n : Nat) : Option Nat :=
  if n = 0 then none else some n

def families (m : Metrics) : List Family :=
  [.plain "xtrack_poll_duration_seconds" (started m.cyclesTimed),
    .counters "xtrack_poll_errors_total" m.listErrors,
    .gauge "xtrack_store_claims" m.storedClaims,
    .gauge "xtrack_store_composites" m.storedComposites,
    .gauge "xtrack_namespace_configs" m.namespaceConfigs,
    .counters "xtrack_namespace_gvr_skipped_total" m.skippedTypes,
    .plain "xtrack_persist_duration_seconds" (started m.persistsTimed),
    .plain "xtrack_persist_failures_total" (started m.persistFailures),
    .gauges "crossplane_claims_total" "crossplane_claims_ready" claimSeriesLabels m.claimGauges,
    .gauges "crossplane_xr_total" "crossplane_xr_ready" compositeSeriesLabels m.compositeGauges]

/-- Everything written so far, in order. -/
def series (m : Metrics) : List Series :=
  (m.families.flatMap Family.series).mergeSort Series.listedBefore

end Metrics

end ClaimTracker
