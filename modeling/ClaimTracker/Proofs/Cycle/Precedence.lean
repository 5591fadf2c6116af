import ClaimTracker.Proofs.Listing.Requests
import ClaimTracker.Proofs.Cycle.Distinct
import ClaimTracker.Proofs.Cycle.Forgetting
import ClaimTracker.Proofs.Cycle.Order
import ClaimTracker.Proofs.Cycle.Report

/-!
# Central types come first

What is polled on behalf of namespaces is never a type that is central for the same table: such
declarations are skipped. So once a central type has been listed, all its records are of central
origin, whatever was stored before. Claims of a namespace are listed there only, and composites never
in a namespace.
-/

namespace ClaimTracker

namespace Table

variable {ρ : Type} [Record ρ] [LawfulRecord ρ]

lemma exists_item_of_replaced {t : Table ρ} {calls : List (Call ρ)} {k : String} {r : ρ}
    (h : (t.replaceAll calls)[k]? = some r) (replaced : ∃ c ∈ calls, c.1 = Record.partition r) :
    ∃ items, (Record.partition r, items) ∈ calls ∧
      ∃ s ∈ items, r = Record.assign (Record.partition r) s := by
  rcases item_or_spared h with ⟨items, call, s, hs, -, heq⟩ | ⟨-, spared⟩
  · exact ⟨items, call, s, hs, heq⟩
  · obtain ⟨c, hc, hp⟩ := replaced
    exact absurd hp (spared c hc).1

end Table

/-- All records of a partition are of central origin. -/
def Inventory.IsCentral (i : Inventory) (p : String) : Inventory.Family → Prop
  | .claims => ∀ (k : String) (c : Claim), i.claims[k]? = some c → c.partition = p →
      c.origin = .central
  | .composites => ∀ (k : String) (x : Composite), i.composites[k]? = some x → x.partition = p →
      x.origin = .central

namespace Cycle

variable {settings : Settings} {configs : Option (List NamespaceConfig)}

/-- The central types that a configuration declares all the same, composites first. -/
def skips (settings : Settings) (c : NamespaceConfig) : List String :=
  (c.compositeTypes.filter (·.display ∈ centralComposites settings)).map ResourceType.display ++
    (c.claimTypes.filter (·.display ∈ centralClaims settings)).map ResourceType.display

lemma skipped_eq (settings : Settings) (configs : Option (List NamespaceConfig)) :
    (configs.map fun configs => (plan settings configs).skipped).getD [] =
      (configs.getD []).flatMap (skips settings) := by
  cases configs with
  | none => rfl
  | some configs =>
    refine List.flatMap_congr fun c _ => ?_
    simp [skips, List.filter_map, Function.comp_def]

/-- A central job is for a central type. It gives its records a central origin, and lists composites
everywhere. -/
structure Job.IsCentral (settings : Settings) (j : Job) : Prop where
  central : j.type.display ∈ centralOf settings j.family
  origin : ∀ scope ∈ j.scopes, scope.keys.origin = .central
  composites : j.family = .composites → ∀ scope ∈ j.scopes, scope.ns = none

lemma isCentral_of_mem_centralJobs {j : Job} (h : j ∈ centralJobs settings) :
    j.IsCentral settings := by
  rcases List.mem_append.mp h with composite | claim
  · obtain ⟨t, ht, rfl⟩ := List.mem_map.mp composite
    refine ⟨List.mem_map_of_mem ht, fun scope hs => ?_, fun _ scope hs => ?_⟩
    · rw [List.mem_singleton.mp hs]
      rfl
    · rw [List.mem_singleton.mp hs]
  · obtain ⟨t, ht, rfl⟩ := List.mem_map.mp claim
    refine ⟨List.mem_map_of_mem ht, fun scope hs => ?_, nofun⟩
    change scope ∈ claimScopes settings at hs
    rw [claimScopes] at hs
    split at hs
    · rw [List.mem_singleton.mp hs]
      rfl
    · obtain ⟨ns, -, rfl⟩ := List.mem_map.mp hs
      rfl

/-- A job for a namespace is for a type that is declared and not central. It lists claims where they
are declared, and composites everywhere. -/
structure Job.Serves (settings : Settings) (configs : List NamespaceConfig) (j : Job) : Prop where
  uncentral : j.type.display ∉ centralOf settings j.family
  declared : ∃ c ∈ configs, Declares c j.family j.type.display
  claims : j.family = .claims → ∀ scope ∈ j.scopes,
    ∃ c ∈ configs, scope.ns = some c.ns ∧ Declares c .claims j.type.display
  composites : j.family = .composites → ∀ scope ∈ j.scopes, scope.ns = none

lemma serves_of_mem_namespaceJobs {j : Job} (h : j ∈ namespaceJobs settings configs) :
    j.Serves settings (configs.getD []) := by
  cases configs with
  | none => cases h
  | some configs =>
    rcases List.mem_append.mp h with composite | claim
    · obtain ⟨p, hp, rfl⟩ := List.mem_map.mp composite
      obtain ⟨uncentral, c, hc, ht, -⟩ := NamespacePlan.mem_composites hp
      refine ⟨uncentral, ⟨c, hc, p.1, ht, rfl⟩, nofun, fun _ scope hs => ?_⟩
      obtain rfl := List.mem_singleton.mp hs
      rfl
    · obtain ⟨p, hp, rfl⟩ := List.mem_map.mp claim
      obtain ⟨uncentral, c, hc, ht⟩ := NamespacePlan.mem_claims hp
      refine ⟨uncentral, ⟨c, hc, p.type, ht, rfl⟩, fun _ scope hs => ?_, nofun⟩
      obtain ⟨planned, hplanned, rfl⟩ := List.mem_map.mp hs
      obtain ⟨d, hd, hns, -, declared⟩ := NamespacePlan.mem_scopes hp hplanned
      exact ⟨d, hd, congrArg some hns.symm, declared⟩

variable {σ ρ : Type} [Listing.Source σ] {s : σ} {family : Inventory.Family}
  {convert : ClusterObject → ResourceType → ListingKeys → ρ}

/-- An item of a call was listed in a scope of a job for the partition. -/
lemma exists_scope_of_call {c : Table.Call ρ}
    (h : c ∈ (visitsOf settings configs s).filterMap (Visit.call? family convert)) {r : ρ}
    (hr : r ∈ c.2) :
    ∃ j ∈ jobs settings configs, j.family = family ∧ j.type.display = c.1 ∧
      ∃ scope ∈ j.scopes, ∃ u, Listing.Leads s u ∧
        ∃ objects, (Listing.all j.type scope.ns u).result = .ok objects ∧
          ∃ o ∈ objects, r = convert o j.type scope.keys := by
  obtain ⟨v, hv, call⟩ := List.mem_filterMap.mp h
  rw [Visit.call?] at call
  split at call
  · rename_i hfamily
    obtain ⟨items, given, rfl⟩ := Option.map_eq_some_iff.mp call
    obtain ⟨t, ht, objects, ok, o, ho, heq⟩ := Visit.exists_turn_of_records? given hr
    obtain ⟨htype, hscope, u, leads, outcome⟩ := mem_turns_of_mem_visits hv ht
    rw [outcome] at ok
    rw [htype] at heq
    exact ⟨v.job, (mem_visits hv).1, hfamily, rfl, t.scope, hscope, u, leads, objects, ok, o, ho, heq⟩
  · cases call

lemma exists_central_of_call {c : Table.Call ρ}
    (h : c ∈ (visitsOf settings configs s).filterMap (Visit.call? family convert))
    (central : c.1 ∈ centralOf settings family) {r : ρ} (hr : r ∈ c.2) :
    ∃ o type keys, r = convert o type keys ∧ keys.origin = .central := by
  obtain ⟨j, hj, rfl, hp, scope, hscope, -, -, -, -, o, -, rfl⟩ := exists_scope_of_call h hr
  refine ⟨o, j.type, scope.keys, rfl, ?_⟩
  rcases List.mem_append.mp hj with job | job
  · exact (isCentral_of_mem_centralJobs job).origin scope hscope
  · exact absurd (hp ▸ central) (serves_of_mem_namespaceJobs job).uncentral

/-- Once a central type has been listed, all that is stored of it was listed centrally. -/
lemma exists_central_of_visit [Record ρ] [LawfulRecord ρ] {t : Table ρ} {retired : List String}
    {v : Visit σ} (hv : v ∈ visits (centralJobs settings) s) (hfamily : v.job.family = family)
    (succeeds : v.Succeeds) {k : String} {r : ρ}
    (h : (t.replaceAll ((visitsOf settings configs s).filterMap (Visit.call? family convert) ++
      Table.clearing retired))[k]? = some r) (hp : Record.partition r = v.job.type.display) :
    ∃ o type keys, r = Record.assign (Record.partition r) (convert o type keys) ∧
      keys.origin = .central := by
  obtain ⟨given, hgiven⟩ : ∃ items, v.records? convert = some items := succeeds.exists_records?
  have call : (v.job.type.display, given) ∈
      (visitsOf settings configs s).filterMap (Visit.call? family convert) := by
    have visited : v ∈ visitsOf settings configs s := by
      rw [visitsOf_eq]
      exact List.mem_append_left _ hv
    refine List.mem_filterMap.mpr ⟨v, visited, ?_⟩
    rw [Visit.call?, if_pos hfamily, hgiven]
    rfl
  have central : v.job.type.display ∈ centralOf settings family :=
    hfamily ▸ (isCentral_of_mem_centralJobs (mem_visits hv).1).central
  obtain ⟨items, listed, b, hb, heq⟩ :=
    Table.exists_item_of_replaced h ⟨_, List.mem_append_left _ call, hp.symm⟩
  rcases List.mem_append.mp listed with call' | retirement
  · obtain ⟨o, type, keys, rfl, origin⟩ := exists_central_of_call call' (hp ▸ central) hb
    exact ⟨o, type, keys, heq, origin⟩
  · -- Retirement lists nothing.
    obtain ⟨q, -, hq⟩ := List.mem_map.mp retirement
    cases hq
    cases hb

lemma mem_claimCalls_of_replaceClaims {before : DeclaredPartitions} {p : String} {items : List Claim}
    (h : .replaceClaims p items ∈ actions settings configs before s) :
    (p, items) ∈ claimCalls settings configs s := by
  rw [actions_eq_closing] at h
  rcases List.mem_append.mp h with polled | closing
  · rcases List.mem_append.mp polled with listed | retired
    · exact List.mem_filterMap.mpr ⟨_, listed, rfl⟩
    · rcases mem_retirement retired with ⟨d, h⟩ | ⟨q, h⟩ | ⟨q, h⟩ <;> cases h
  · rcases List.mem_cons.mp closing with h | last
    · cases h
    · rcases eq_of_mem_closing last with h | ⟨h, -⟩ | h <;> cases h

/-- A claim that is listed for a namespace lies in it. -/
lemma exists_config_of_call (heeds : Listing.Heeds s) {p : String} {items : List Claim}
    (h : (p, items) ∈ claimCalls settings configs s) {c : Claim} (hc : c ∈ items)
    (declared : c.origin = .declared) :
    c.partition = p ∧ ∃ config ∈ configs.getD [], config.ns = c.ns ∧ Declares config .claims p := by
  rw [claimCalls_eq] at h
  obtain ⟨j, hj, hfamily, rfl, scope, hscope, u, leads, objects, ok, o, ho, rfl⟩ :=
    exists_scope_of_call h hc
  refine ⟨rfl, ?_⟩
  -- Central scopes give their claims a central origin, so this one is a scope of a namespace.
  rcases List.mem_append.mp hj with job | job
  · have central := (isCentral_of_mem_centralJobs job).origin scope hscope
    rw [show scope.keys.origin = .declared from declared] at central
    cases central
  · obtain ⟨config, hconfig, hns, declares⟩ :=
      (serves_of_mem_namespaceJobs job).claims hfamily scope hscope
    rw [hns] at ok
    have own : o.metadata.ns = some config.ns := (heeds.of_leads leads).all ok ho
    refine ⟨config, hconfig, ?_, declares⟩
    show config.ns = o.metadata.ns.getD ""
    rw [own]
    rfl

end Cycle

open ClaimTracker.Cycle

namespace Tracker

variable {σ κ : Type} [Listing.Source σ] [Keep κ]

lemma isCentral_poll (settings : Settings) (configs : Option (List NamespaceConfig)) (now : Instant)
    (w : Tracker σ κ) {v : Visit σ} (hv : v ∈ visits (centralJobs settings) w.source)
    (succeeds : v.Succeeds) :
    (w.poll settings configs now).inventory.IsCentral v.job.type.display v.job.family := by
  rw [inventory_poll_eq]
  cases hfamily : v.job.family with
  | claims =>
    intro k c hc hp
    rw [Inventory.getElem?_enrich_claims] at hc
    obtain ⟨b, hb, rfl⟩ := Option.map_eq_some_iff.mp hc
    obtain ⟨o, type, keys, heq, origin⟩ := exists_central_of_visit hv hfamily succeeds hb hp
    exact (congrArg Claim.origin heq).trans origin
  | composites =>
    intro k x hx hp
    obtain ⟨o, type, keys, heq, origin⟩ := exists_central_of_visit hv hfamily succeeds hx hp
    exact (congrArg Composite.origin heq).trans origin

/-- Central types come before those of namespaces. All requests on behalf of namespaces are for types
that are declared and not central for the same table; declarations of central types are skipped. A
central type of which a scope could be listed has records of central origin only. Claims that are
listed for a namespace lie in a namespace that declares their type, and no composite is asked for in
a namespace. -/
theorem central_precedence (settings : Settings) (configs : Option (List NamespaceConfig))
    (now : Instant) (w : Tracker σ κ) (heeds : Listing.Heeds w.source) :
    let after := w.poll settings configs now
    let central := visits (centralJobs settings) w.source
    let declared := visits (namespaceJobs settings configs)
      (sequence Job.poll (centralJobs settings) w.source).source
    (after.log.map Prod.snd =
        w.log.map Prod.snd ++ central.flatMap Visit.requests ++ declared.flatMap Visit.requests ∧
      (∀ v ∈ declared, ∀ r ∈ v.requests, r.type.display ∉ centralOf settings v.job.family ∧
        ∃ c ∈ configs.getD [], Declares c v.job.family r.type.display) ∧
      after.report.skipped = (configs.getD []).flatMap (skips settings)) ∧
    (∀ v ∈ central, v.Succeeds →
      after.inventory.IsCentral v.job.type.display v.job.family) ∧
    (∀ p items, .replaceClaims p items ∈ w.nextActions settings configs →
      ∀ c ∈ items, c.origin = .declared → c.partition = p ∧
        ∃ config ∈ configs.getD [], config.ns = c.ns ∧ Declares config .claims p) ∧
    ∀ v ∈ central ++ declared, v.job.family = .composites → ∀ r ∈ v.requests, r.ns = none := by
  intro after central declared
  refine ⟨⟨?_, ?_, ?_⟩, ?_, ?_, ?_⟩
  · rw [requests_poll, visitsOf_eq, List.flatMap_append, List.append_assoc]
  · intro v hv r hr
    obtain ⟨uncentral, declares, -, -⟩ := serves_of_mem_namespaceJobs (mem_visits hv).1
    rw [(mem_requests_of_mem_visits hv hr).1]
    exact ⟨uncentral, declares⟩
  · rw [skipped_poll, skipped_eq]
  · intro v hv succeeds
    exact isCentral_poll settings configs now w hv succeeds
  · intro p items replaced c hc origin
    exact exists_config_of_call heeds (mem_claimCalls_of_replaceClaims replaced) hc origin
  · intro v hv hfamily r hr
    rcases List.mem_append.mp hv with hv | hv
    · obtain ⟨-, scope, hscope, hns⟩ := mem_requests_of_mem_visits hv hr
      rw [hns]
      exact (isCentral_of_mem_centralJobs (mem_visits hv).1).composites hfamily scope hscope
    · obtain ⟨-, scope, hscope, hns⟩ := mem_requests_of_mem_visits hv hr
      rw [hns]
      exact (serves_of_mem_namespaceJobs (mem_visits hv).1).composites hfamily scope hscope

/-- A namespace declares both central types, and one of its own. -/
def eagerConfigs : Option (List NamespaceConfig) :=
  some [⟨"c", "types", [⟨"g", "v1", "widgets"⟩, ⟨"g", "v1", "gadgets"⟩], [⟨"g", "v1", "xwidgets"⟩],
    none, none⟩]

/-- The type of its own has claims in two namespaces, and the central one was listed for the
namespace before. -/
def eagerTracker : Tracker Cluster Slot where
  source :=
    { pageSize := 500
      objects := [("g/v1/widgets", [sampleObject "a" "w1"]),
        ("g/v1/gadgets", [sampleObject "c" "x", sampleObject "d" "y"])] }
  store := .memory ((∅ : Inventory).replaceClaims "g/v1/widgets"
    [(sampleObject "c" "old").claim ⟨"g", "v1", "widgets"⟩
      ⟨sampleSettings.keys, .declared⟩])

/-- The central types are skipped and polled once, for the whole cluster. No claim listed for the
namespace before is left of them, and the claims listed for it now lie in it. -/
theorem eager_namespace_skipped :
    let after := eagerTracker.poll sampleSettings eagerConfigs sampleMoment
    let claim := (sampleObject "c" "x").claim ⟨"g", "v1", "gadgets"⟩ ⟨sampleSettings.keys, .declared⟩
    after.log.map Prod.snd =
        [⟨⟨"g", "v1", "xwidgets"⟩, none, none, 500⟩, ⟨⟨"g", "v1", "widgets"⟩, none, none, 500⟩,
          ⟨⟨"g", "v1", "gadgets"⟩, some "c", none, 500⟩] ∧
      after.report.skipped = ["g/v1/xwidgets", "g/v1/widgets"] ∧
      after.inventory.IsCentral "g/v1/widgets" .claims ∧
      .replaceClaims "g/v1/gadgets" [claim] ∈ eagerTracker.nextActions sampleSettings eagerConfigs ∧
      ∃ config ∈ eagerConfigs.getD [], config.ns = claim.ns ∧
        Declares config .claims "g/v1/gadgets" := by
  intro after claim
  obtain ⟨⟨requested, -, skipped⟩, central, within, -⟩ :=
    central_precedence sampleSettings eagerConfigs sampleMoment eagerTracker
      (Cluster.heeds eagerTracker.source)
  have replaced :
      .replaceClaims "g/v1/gadgets" [claim] ∈ eagerTracker.nextActions sampleSettings eagerConfigs :=
    List.mem_of_getElem? (show _[8]? = _ from rfl)
  refine ⟨requested, skipped, ?_, replaced, ?_⟩
  · exact central (Job.visit ⟨.claims, ⟨"g", "v1", "widgets"⟩, claimScopes sampleSettings⟩ _)
      (List.mem_cons_of_mem _ List.mem_cons_self) ⟨_, List.mem_cons_self, _, rfl⟩
  · exact (within _ _ replaced claim List.mem_cons_self rfl).2

end Tracker

end ClaimTracker
