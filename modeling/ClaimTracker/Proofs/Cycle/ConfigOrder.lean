import ClaimTracker.Proofs.Listing.Requests
import ClaimTracker.Proofs.Cycle.Forgetting
import ClaimTracker.Proofs.Cycle.Reordering

/-!
# The order of configurations

A cycle is given namespace configurations in some order. As long as identity keys tell apart what is
listed, the order shows in the order of requests and in the report only. An identity key that two
namespaces share goes to the namespace that is listed last.
-/

namespace ClaimTracker

open ClaimTracker.Cycle

namespace Tracker

variable {σ κ : Type} [Listing.Source σ] [Keep κ]

/-- The order of the namespace configurations is of no consequence, whatever is stored and whatever
fails: if types can be told apart, no two configurations of a namespace declare the same claim type,
and no identity key is listed for two types of one table or for one type in two namespaces, then a
cycle leaves the same inventory and reports the same, if in another order. -/
theorem poll_reordered (settings : Settings) {configs configs' : List NamespaceConfig}
    (perm : configs.Perm configs') (unambiguous : Unambiguous configs) (now : Instant)
    (w : Tracker σ κ)
    {answer : ResourceType → Option String → Except Listing.Error (List ClusterObject)}
    (steady : Listing.Steady w.source answer)
    (types : TypesApart answer (namespaceJobs settings (some configs)))
    (places : PlacesApart answer (namespaceJobs settings (some configs))) :
    let one := w.poll settings (some configs) now
    let other := w.poll settings (some configs') now
    one.inventory = other.inventory ∧ one.report.failures.Perm other.report.failures ∧
      one.report.skipped.Perm other.report.skipped ∧
      one.report.retired.Perm other.report.retired := by
  intro one other
  have jobs : Reordered (namespaceJobs settings (some configs))
      (namespaceJobs settings (some configs')) := reordered_namespaceJobs perm unambiguous
  -- The central types come first, and in the same order.
  have later : Listing.Steady
      (sequence Job.poll (centralJobs settings) w.source).source answer :=
    steady.of_leads (sequence_poll_eq _ _).2
  refine ⟨?_, ?_, ?_, ?_⟩
  · simp only [one, other, inventory_poll_eq, visitsOf_eq, List.filterMap_append,
      Table.replaceAll_append, retiredNow_of_perm perm,
      jobs.replaceAll_eq later converts_claim types places,
      jobs.replaceAll_eq later converts_composite types places]
  · have reported : ∀ configs : List NamespaceConfig,
        (w.poll settings (some configs) now).report.failures =
          (centralJobs settings).flatMap (Job.failures answer) ++
            (namespaceJobs settings (some configs)).flatMap (Job.failures answer) := by
      intro configs
      rw [failures_poll_eq, visitsOf_eq, List.flatMap_append,
        flatMap_visits fun v hv => failures_of_steady steady hv,
        flatMap_visits fun v hv => failures_of_steady later hv]
    rw [reported, reported]
    exact jobs.failures_perm.append_left _
  · rw [skipped_poll, skipped_poll]
    exact NamespacePlan.perm_skipped perm
  · rw [retired_poll, retired_poll, retiredNow_of_perm perm, retiredNow_of_perm perm]

def bareSettings : Settings := { sampleSettings with claimTypes := [], compositeTypes := [] }

section Plain

/-- Two namespaces declare the same types, one of them one more. -/
def plainConfigs : List NamespaceConfig :=
  [⟨"a", "types", [⟨"g", "v1", "gadgets"⟩], [⟨"g", "v1", "xgadgets"⟩], some "creator", none⟩,
    ⟨"b", "types", [⟨"g", "v1", "gizmos"⟩, ⟨"g", "v1", "gadgets"⟩], [⟨"g", "v1", "xgadgets"⟩], none,
      none⟩]

/-- Claims in both namespaces and a composite, and a type that cannot be listed. -/
def plainCluster : Cluster where
  pageSize := 500
  objects := [("g/v1/gadgets", [sampleObject "a" "x", sampleObject "b" "x"]),
    ("g/v1/xgadgets", [sampleObject "" "x1"])]
  faults := [⟨"g/v1/gizmos", none, none, "down"⟩, ⟨"g/v1/gadgets", some "b", none, "down"⟩]

/-- A type was declared before and no longer is. -/
def plainTracker : Tracker Cluster Slot :=
  { idleTracker.facing plainCluster with declared := ⟨["g/v1/old"], []⟩ }

/-- Two orders lead to the same inventory, and to the failures in two orders. -/
theorem plain_reordered :
    let one := plainTracker.poll bareSettings (some plainConfigs) sampleMoment
    let other := plainTracker.poll bareSettings (some plainConfigs.reverse) sampleMoment
    one.inventory = other.inventory ∧ one.report.failures.Perm other.report.failures ∧
      one.report.skipped.Perm other.report.skipped ∧
      one.report.retired.Perm other.report.retired ∧
      one.report.failures =
        [⟨"g/v1/gadgets", some "b", "down"⟩, ⟨"g/v1/gizmos", some "b", "down"⟩] ∧
      other.report.failures =
        [⟨"g/v1/gizmos", some "b", "down"⟩, ⟨"g/v1/gadgets", some "b", "down"⟩] := by
  intro one other
  have unambiguous : Unambiguous plainConfigs := ⟨by decide, by decide⟩
  have plain : ∀ c ∈ plainConfigs, IsPlain c.ns := by
    decide
  let answer := fun type ns => (Listing.all type ns plainCluster).result
  let xgadgets : Job := ⟨.composites, ⟨"g", "v1", "xgadgets"⟩,
    [⟨none, ⟨⟨some "creator", none, RecordKeys.defaultComposition⟩, .declared⟩⟩]⟩
  let gadgets : Job := ⟨.claims, ⟨"g", "v1", "gadgets"⟩,
    [⟨some "a", ⟨⟨some "creator", none, RecordKeys.defaultComposition⟩, .declared⟩⟩,
      ⟨some "b", ⟨⟨none, none, RecordKeys.defaultComposition⟩, .declared⟩⟩]⟩
  let gizmos : Job := ⟨.claims, ⟨"g", "v1", "gizmos"⟩,
    [⟨some "b", ⟨⟨none, none, RecordKeys.defaultComposition⟩, .declared⟩⟩]⟩
  have all : namespaceJobs bareSettings (some plainConfigs) = [xgadgets, gadgets, gizmos] := rfl
  have nothing : ∀ ns k, ¬ gizmos.Lists answer ns k := by
    rintro ns k ⟨place, objects, ok, -⟩
    obtain rfl : ns = some "b" := List.mem_singleton.mp place
    cases ok
  -- Of each table only one type has anything listed.
  have only : ∀ i ∈ namespaceJobs bareSettings (some plainConfigs), ∀ ns k, i.Lists answer ns k →
      i.type = if i.family = .claims then gadgets.type else xgadgets.type := by
    intro i hi ns k lists
    rw [all] at hi
    simp only [List.mem_cons, List.not_mem_nil, or_false] at hi
    rcases hi with rfl | rfl | rfl
    · rfl
    · rfl
    · exact absurd lists (nothing ns k)
  have types : TypesApart answer (namespaceJobs bareSettings (some plainConfigs)) := by
    intro i hi j hj family ns ns' k lists lists'
    rw [only i hi ns k lists, only j hj ns' k lists', family]
  have places : PlacesApart answer (namespaceJobs bareSettings (some plainConfigs)) :=
    placesApart_of_plain plainCluster.steady plainCluster.heeds plain
  obtain ⟨inventory, failures, skipped, retired⟩ := poll_reordered bareSettings
    (List.reverse_perm plainConfigs).symm unambiguous sampleMoment plainTracker plainCluster.steady
    types places
  refine ⟨inventory, failures, skipped, retired, ?_, ?_⟩
  · rw [failures_poll_eq]
    rfl
  · rw [failures_poll_eq]
    rfl

end Plain

section Slash

/-- Two namespaces, one of them with a slash, declare one claim type. -/
def slashConfigs : List NamespaceConfig :=
  [⟨"a/b", "types", [⟨"g", "v1", "widgets"⟩], [], none, none⟩,
    ⟨"a", "types", [⟨"g", "v1", "widgets"⟩], [], none, none⟩]

/-- A claim in each of the namespaces, with the same identity key. -/
def slashTracker : Tracker Cluster Slot :=
  idleTracker.facing
    { pageSize := 500
      objects := [("g/v1/widgets", [sampleObject "a/b" "c", sampleObject "a" "b/c"])] }

/-- An identity key of two namespaces goes to the one whose configuration comes last, although no key
is listed for two types and the source heeds namespaces. -/
theorem slash_order_matters :
    let answer := fun type ns => (Listing.all type ns slashTracker.source).result
    slashConfigs.Perm slashConfigs.reverse ∧ Unambiguous slashConfigs ∧
      Listing.Steady slashTracker.source answer ∧ Listing.Heeds slashTracker.source ∧
      TypesApart answer (jobs bareSettings (some slashConfigs)) ∧
      (slashTracker.poll bareSettings (some slashConfigs) sampleMoment).inventory ≠
        (slashTracker.poll bareSettings (some slashConfigs.reverse) sampleMoment).inventory := by
  intro answer
  refine ⟨(List.reverse_perm slashConfigs).symm, ⟨by decide, by decide⟩, Cluster.steady _,
    Cluster.heeds _, ?_, ?_⟩
  · have all : jobs bareSettings (some slashConfigs) = [⟨.claims, ⟨"g", "v1", "widgets"⟩,
        [⟨some "a/b", bareSettings.keys, .declared⟩, ⟨some "a", bareSettings.keys, .declared⟩]⟩] := rfl
    intro i hi j hj _ _ _ _ _ _
    rw [all] at hi hj
    rw [List.mem_singleton.mp hi, List.mem_singleton.mp hj]
  · let keys : ListingKeys := ⟨bareSettings.keys, .declared⟩
    let deep := (sampleObject "a/b" "c").claim ⟨"g", "v1", "widgets"⟩ keys
    let flat := (sampleObject "a" "b/c").claim ⟨"g", "v1", "widgets"⟩ keys
    have stored : ∀ (configs : List NamespaceConfig) (items : List Claim) (c : Claim),
        (visitsOf bareSettings (some configs) slashTracker.source).filterMap
            (Visit.call? .claims ClusterObject.claim) = [("g/v1/widgets", items)] →
        Table.lastOf "a/b/c" items = some c →
        ((slashTracker.poll bareSettings (some configs) sampleMoment).inventory.claims["a/b/c"]?).map
          Claim.ns = some c.ns := by
      intro configs items c calls last
      have retired : retiredNow bareSettings (some configs) slashTracker.declared .claims = [] := rfl
      have replaced : (slashTracker.inventory.claims.replace "g/v1/widgets" items)["a/b/c"]? =
          some { c with partition := "g/v1/widgets" } :=
        Table.getElem?_replace_eq_some_iff.mpr (Or.inl (by rw [last]; rfl))
      rw [inventory_poll_eq, Inventory.getElem?_enrich_claims, calls, retired]
      show (((slashTracker.inventory.claims.replace "g/v1/widgets" items)["a/b/c"]?).map _).map _ = _
      rw [replaced]
      rfl
    have first := stored slashConfigs [deep, flat] flat rfl (by decide)
    have second := stored slashConfigs.reverse [flat, deep] deep rfl (by decide)
    intro same
    rw [same, second] at first
    revert first
    decide

end Slash

end Tracker

end ClaimTracker
