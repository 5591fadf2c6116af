import ClaimTracker.Proofs.Listing.Requests
import ClaimTracker.Proofs.Cycle.Distinct
import ClaimTracker.Proofs.Cycle.Forgetting
import ClaimTracker.Proofs.Cycle.Steady
import ClaimTracker.Proofs.Inventory.Disjoint

/-!
# Failures keep to their own type

Whatever listings fail, a cycle tries every scope of every type once, and reports one failure for each
scope that could not be listed. A type of which some scope could be listed is replaced by what its
scopes gave; a type of which none could is left as it was. Only another type that lists a key of its
records can take them away.
-/

namespace ClaimTracker

open ClaimTracker.Cycle

namespace Cycle

section Partitions

variable {ρ : Type} [Record ρ]
  (answer : ResourceType → Option String → Except Listing.Error (List ClusterObject))
  (convert : ClusterObject → ResourceType → ListingKeys → ρ)

/-- No other type that is polled for the same table lists a key of the partition of a job, neither of
its records before the cycle nor of those that the job lists. -/
def Undisturbed (all : List Job) (t : Table ρ) (j : Job) : Prop :=
  ∀ other ∈ all, other.family = j.family → other.type ≠ j.type →
    ∀ s ∈ other.listed answer convert,
      (∀ r, t[Record.key s]? = some r → Record.partition r ≠ j.type.display) ∧
        ∀ r ∈ j.listed answer convert, Record.key s ≠ Record.key r

/-- What a job makes of its partition: what its scopes list, of equal keys the last, if some scope can
be listed, and what it was if none can. -/
structure Refreshed (j : Job) (before after : Table ρ) : Prop where
  replaced : j.Succeeds answer → after.Holds j.type.display (j.listed answer convert)
  kept : ¬ j.Succeeds answer → ∀ (k : String) (r : ρ), Record.partition r = j.type.display →
    (after[k]? = some r ↔ before[k]? = some r)

end Partitions

section Steady

variable {σ ρ : Type} [Listing.Source σ] [Record ρ] [LawfulRecord ρ] {settings : Settings}
  {configs : Option (List NamespaceConfig)} {s : σ}
  {answer : ResourceType → Option String → Except Listing.Error (List ClusterObject)}
  {convert : ClusterObject → ResourceType → ListingKeys → ρ} {family : Inventory.Family}

/-- The calls of a cycle on a table and the retirement of other types refresh the partition of every
job for the table that is not disturbed. -/
lemma refreshed_of_calls (steady : Listing.Steady s answer)
    (distinct : (centralOf settings family).Nodup) {retired : List String}
    (apart : ∀ p ∈ retired, p ∉ centralOf settings family ∧
      p ∉ declaredOf (declaredNow settings configs) family)
    {j : Job} (hj : j ∈ jobs settings configs) (hfamily : j.family = family) {t : Table ρ}
    (undisturbed : Undisturbed answer convert (jobs settings configs) t j) :
    Refreshed answer convert j t (t.replaceAll
      ((visitsOf settings configs s).filterMap (Visit.call? family convert) ++
        Table.clearing retired)) := by
  subst hfamily
  have cleared : ∀ c ∈ (Table.clearing retired : List (Table.Call ρ)),
      c.1 ≠ j.type.display ∧ c.2 = [] := by
    intro c hc
    -- What is retired is neither central nor declared, and every job is for a type that is.
    obtain ⟨p, hp, rfl⟩ := List.mem_map.mp hc
    refine ⟨fun (heq : p = j.type.display) => ?_, rfl⟩
    rcases display_of_mem_jobs hj with central | declared
    · exact (apart p hp).1 (heq ▸ central)
    · exact (apart p hp).2 (heq ▸ declared)
  have clear : Table.Apart t j.type.display (j.listed answer convert)
      ((visitsOf settings configs s).filterMap (Visit.call? j.family convert) ++
        Table.clearing retired) := by
    intro c hc hne r hr
    rcases List.mem_append.mp hc with call | retirement
    · obtain ⟨other, hother, same, -, rfl⟩ := (mem_calls_iff steady).mp call
      exact undisturbed other hother same (fun heq => hne (congrArg ResourceType.display heq)) r hr
    · rw [(cleared c retirement).2] at hr
      cases hr
  constructor
  · intro succeeds
    refine Table.holds_of_replaced clear
      (List.mem_append_left _ ((mem_calls_iff steady).mpr ⟨j, hj, rfl, succeeds, rfl⟩)) ?_
    intro c hc heq
    rcases List.mem_append.mp hc with call | retirement
    · obtain ⟨other, hother, same, -, rfl⟩ := (mem_calls_iff steady).mp call
      rw [eq_of_mem_jobs distinct hother hj same heq]
    · exact absurd heq (cleared c retirement).1
  · intro fails k r hr
    refine Table.kept_of_not_replaced clear (fun c hc heq => ?_) hr
    rcases List.mem_append.mp hc with call | retirement
    · obtain ⟨other, hother, same, succeeds, rfl⟩ := (mem_calls_iff steady).mp call
      rw [eq_of_mem_jobs distinct hother hj same heq] at succeeds
      exact fails succeeds
    · exact (cleared c retirement).1 heq

end Steady

end Cycle

namespace Tracker

variable {σ κ : Type} [Listing.Source σ] [Keep κ]

/-- Failures of a cycle keep to their scopes. Up to enrichment, every partition that is polled and
not disturbed by another is replaced by what its scopes give, or kept if all of them fail. There is
one failure for each scope that fails, and one first request for each scope. -/
theorem failures_isolated (settings : Settings) (configs : Option (List NamespaceConfig))
    (now : Instant) (w : Tracker σ κ)
    (answer : ResourceType → Option String → Except Listing.Error (List ClusterObject))
    (distinct : ∀ family, (centralOf settings family).Nodup)
    (steady : Listing.Steady w.source answer) :
    let after := w.poll settings configs now
    (∃ polled : Inventory, after.inventory = polled.enrich ∧
      (∀ j ∈ jobs settings configs, j.family = .claims →
        Undisturbed answer ClusterObject.claim (jobs settings configs) w.inventory.claims j →
        Refreshed answer ClusterObject.claim j w.inventory.claims polled.claims) ∧
      ∀ j ∈ jobs settings configs, j.family = .composites →
        Undisturbed answer ClusterObject.composite (jobs settings configs) w.inventory.composites j →
        Refreshed answer ClusterObject.composite j w.inventory.composites polled.composites) ∧
    after.report.failures = (jobs settings configs).flatMap (Job.failures answer) ∧
    ∃ requests, after.log.map Prod.snd = w.log.map Prod.snd ++ requests ∧
      requests.filter (·.token.isNone) = (jobs settings configs).flatMap Job.openings := by
  intro after
  refine ⟨⟨_, inventory_poll_eq settings configs now w, ?_, ?_⟩, ?_, _, requests_poll _ _ _ _, ?_⟩
  · intro j hj hfamily undisturbed
    exact refreshed_of_calls steady (distinct .claims) (fun p => apart_of_mem_retiredNow) hj hfamily
      undisturbed
  · intro j hj hfamily undisturbed
    exact refreshed_of_calls steady (distinct .composites) (fun p => apart_of_mem_retiredNow) hj
      hfamily undisturbed
  · rw [failures_poll_eq]
    exact flatMap_visits fun v hv => failures_of_steady steady hv
  · rw [List.filter_flatMap]
    exact flatMap_visits fun v hv => openings_of_steady steady hv

/-- Claims of one central type in two namespaces. -/
def outageSettings : Settings := { sampleSettings with namespaces := ["a", "b"] }

/-- Another namespace declares another claim type. -/
def outageConfigs : Option (List NamespaceConfig) :=
  some [⟨"c", "types", [⟨"g", "v1", "gadgets"⟩], [], none, none⟩]

/-- The composites cannot be listed, nor the claims in one of the namespaces. -/
def outageCluster : Cluster where
  pageSize := 500
  objects := [("g/v1/widgets", [sampleObject "a" "w1", sampleObject "b" "w2"]),
    ("g/v1/gadgets", [sampleObject "c" "x"])]
  faults := [⟨"g/v1/xwidgets", none, none, "down"⟩, ⟨"g/v1/widgets", some "b", none, "down"⟩]

/-- A claim and a composite are known from before. -/
def outageTracker : Tracker Cluster Slot where
  source := outageCluster
  store := .memory (((∅ : Inventory).replaceClaims "g/v1/widgets"
    [(sampleObject "b" "old").claim ⟨"g", "v1", "widgets"⟩ sampleSettings.keys.central]).replaceComposites
      "g/v1/xwidgets"
      [(sampleObject "" "x1").composite ⟨"g", "v1", "xwidgets"⟩ sampleSettings.keys.central])

/-- The claims of the namespace that answers replace all claims of their type, and the composites stay
as they are. -/
theorem outage_isolated :
    let after := outageTracker.poll outageSettings outageConfigs sampleMoment
    let claim := (sampleObject "a" "w1").claim ⟨"g", "v1", "widgets"⟩ sampleSettings.keys.central
    (∃ polled : Inventory, after.inventory = polled.enrich ∧
      polled.claims.Holds "g/v1/widgets" [claim] ∧
      ∀ (k : String) (x : Composite), x.partition = "g/v1/xwidgets" →
        (polled.composites[k]? = some x ↔ outageTracker.inventory.composites[k]? = some x)) ∧
    after.report.failures =
      [⟨"g/v1/xwidgets", none, "down"⟩, ⟨"g/v1/widgets", some "b", "down"⟩] := by
  intro after claim
  let answer := fun type ns => (Listing.all type ns outageCluster).result
  have distinct : ∀ family, (centralOf outageSettings family).Nodup := by
    intro family
    cases family <;> decide
  obtain ⟨⟨polled, heq, claims, composites⟩, failures, -⟩ :=
    failures_isolated outageSettings outageConfigs sampleMoment outageTracker answer distinct
      outageCluster.steady
  let widgets : Job :=
    ⟨.claims, ⟨"g", "v1", "widgets"⟩, claimScopes outageSettings⟩
  let xwidgets : Job :=
    ⟨.composites, ⟨"g", "v1", "xwidgets"⟩, [⟨none, sampleSettings.keys.central⟩]⟩
  let gadgets : Job :=
    ⟨.claims, ⟨"g", "v1", "gadgets"⟩, [⟨some "c", ⟨⟨none, none, RecordKeys.defaultComposition⟩, .declared⟩⟩]⟩
  have all : jobs outageSettings outageConfigs = [xwidgets, widgets, gadgets] := rfl
  rw [all] at claims composites
  refine ⟨⟨polled, heq, ?_, ?_⟩, failures⟩
  · have undisturbed : Undisturbed answer ClusterObject.claim [xwidgets, widgets, gadgets]
        outageTracker.inventory.claims widgets := by
      intro other hother same apart s hs
      -- Only the other claim type has a listing, of one claim in a namespace of its own.
      obtain rfl : other = gadgets := by
        rcases List.mem_cons.mp hother with rfl | hother
        · cases same
        · rcases List.mem_cons.mp hother with rfl | hother
          · exact absurd rfl apart
          · exact List.mem_singleton.mp hother
      have key : Record.key s = "c/x" := by
        obtain rfl := List.mem_singleton.mp hs
        decide
      constructor
      · intro r hr
        have unknown : outageTracker.inventory.claims["c/x"]? = none := by
          refine (Table.getElem?_replace _ _ _ _).trans ?_
          rw [show (∅ : Inventory).claims["c/x"]? = none from Std.ExtTreeMap.getElem?_empty]
          decide
        rw [key, unknown] at hr
        cases hr
      · intro r hr
        obtain rfl := List.mem_singleton.mp hr
        rw [key]
        decide
    have refreshed := claims widgets (by simp) rfl undisturbed
    exact refreshed.replaced ⟨_, List.mem_cons_self, _, rfl⟩
  · have undisturbed : Undisturbed answer ClusterObject.composite [xwidgets, widgets, gadgets]
        outageTracker.inventory.composites xwidgets := by
      intro other hother same apart
      rcases List.mem_cons.mp hother with rfl | hother
      · exact absurd rfl apart
      · rcases List.mem_cons.mp hother with rfl | hother
        · cases same
        · obtain rfl := List.mem_singleton.mp hother
          cases same
    have refreshed := composites xwidgets (by simp) rfl undisturbed
    refine refreshed.kept ?_
    rintro ⟨scope, hscope, objects, ok⟩
    obtain rfl := List.mem_singleton.mp hscope
    cases ok

end Tracker

end ClaimTracker
