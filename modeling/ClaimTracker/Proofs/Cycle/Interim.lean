import ClaimTracker.Proofs.Cycle.Orphans
import ClaimTracker.Proofs.Cycle.Progress
import ClaimTracker.Proofs.Inventory.Enrichment

/-!
# Compositions in the course of a cycle

A claim is listed without a composition and gets one from enrichment, which comes once in a cycle, after
all replacements. So a claim that two cycles list alike keeps its composition in the second until its type
is replaced, is without one from then on, and has it back with enrichment. It never has another one.
-/

namespace ClaimTracker

namespace Table

variable {ρ : Type} [Record ρ] {calls : List (Call ρ)} {t : Table ρ} {k p : String} {r : ρ}

/-- Calls for one partition all list a key, or none of them does. -/
def Agree (calls : List (Call ρ)) (k : String) : Prop :=
  ∀ c ∈ calls, (∃ r ∈ c.2, Record.key r = k) → ∀ d ∈ calls, d.1 = c.1 → ∃ r ∈ d.2, Record.key r = k

/-- The calls that list a key are those for a partition. -/
def OnlyFor (calls : List (Call ρ)) (k p : String) : Prop :=
  ∀ c ∈ calls, (∃ r ∈ c.2, Record.key r = k) ↔ c.1 = p

variable [LawfulRecord ρ]

/-- A record under a key that calls list is an item of one of them. -/
lemma item_of_lists (lists : Lists calls k) (h : (t.replaceAll calls)[k]? = some r) :
    ∃ items, (Record.partition r, items) ∈ calls ∧
      ∃ s ∈ items, Record.key s = k ∧ r = Record.assign (Record.partition r) s := by
  rcases item_or_spared h with item | ⟨-, spared⟩
  · exact item
  · obtain ⟨c, hc, s, hs, hkey⟩ := lists
    exact absurd hkey (lastOf_eq_none_iff.mp (spared c hc).2 s hs)

lemma stores_replace_of_lists {items : List ρ} (lists : ∃ r ∈ items, Record.key r = k) :
    (t.replace p items).Stores k p := by
  obtain ⟨r, hr, rfl⟩ := lists
  obtain ⟨s, hs⟩ := exists_lastOf_of_mem hr
  refine ⟨Record.assign p s, getElem?_replace_eq_some_iff.mpr (Or.inl ?_), ?_⟩
  · rw [hs, Option.map_some]
  · exact LawfulRecord.partition_assign p s

/-- A key that calls list holds a record after them, if the calls for each partition agree on it. -/
lemma exists_of_lists (agree : Agree calls k) (lists : Lists calls k) :
    ∃ r, (t.replaceAll calls)[k]? = some r := by
  -- The last call comes off first: what it takes away is of its own partition, and it agrees with the
  -- calls that have listed the key for this partition.
  induction calls using List.reverseRecOn with
  | nil =>
    obtain ⟨c, hc, -⟩ := lists
    cases hc
  | append_singleton calls last ih =>
    rw [replaceAll_append, replaceAll_cons, replaceAll_nil]
    have hlast : last ∈ calls ++ [last] := List.mem_append_right _ List.mem_cons_self
    by_cases here : ∃ r ∈ last.2, Record.key r = k
    · obtain ⟨r, stored, -⟩ := stores_replace_of_lists (t := t.replaceAll calls) (p := last.1) here
      exact ⟨r, stored⟩
    have earlier : Lists calls k := by
      obtain ⟨c, hc, listed⟩ := lists
      rcases List.mem_append.mp hc with hc | hc
      · exact ⟨c, hc, listed⟩
      · obtain rfl := List.mem_singleton.mp hc
        exact absurd listed here
    have agreeEarlier : Agree calls k := fun c hc listed d hd =>
      agree c (List.mem_append_left _ hc) listed d (List.mem_append_left _ hd)
    obtain ⟨r, stored⟩ := ih agreeEarlier earlier
    obtain ⟨items, call, s, hs, hkey, -⟩ := item_of_lists earlier stored
    refine ⟨r, getElem?_replace_eq_some_iff.mpr (Or.inr ⟨?_, stored, fun same => here ?_⟩)⟩
    · exact lastOf_eq_none_iff.mpr fun s hs hkey => here ⟨s, hs, hkey⟩
    · exact agree _ (List.mem_append_left _ call) ⟨s, hs, hkey⟩ last hlast same.symm

/-- A key that calls list holds an item of one of them, also if other partitions are emptied after them. -/
lemma exists_item_of_lists {retired : List String} (apart : ∀ c ∈ calls, c.1 ∉ retired)
    (agree : Agree calls k) (lists : Lists calls k) :
    ∃ r, (t.replaceAll (calls ++ clearing retired))[k]? = some r ∧
      ∃ c ∈ calls, ∃ s ∈ c.2, Record.key s = k ∧ r = Record.assign c.1 s := by
  obtain ⟨r, stored⟩ := exists_of_lists (t := t) agree lists
  obtain ⟨items, call, item⟩ := item_of_lists lists stored
  refine ⟨r, ?_, _, call, item⟩
  rw [replaceAll_append, getElem?_replaceAll_clearing]
  exact ⟨stored, apart _ call⟩

/-- If only calls for a partition list a key, its record stays in the partition, or comes to it. -/
lemma stores_replaceAll_of_onlyFor (only : OnlyFor calls k p) (h : t.Stores k p ∨ Lists calls k) :
    (t.replaceAll calls).Stores k p := by
  induction calls generalizing t with
  | nil =>
    rcases h with stored | ⟨c, hc, -⟩
    · exact stored
    · cases hc
  | cons c calls ih =>
    have onlyRest : OnlyFor calls k p := fun d hd => only d (List.mem_cons_of_mem c hd)
    have first := only c List.mem_cons_self
    rw [replaceAll_cons]
    by_cases here : ∃ r ∈ c.2, Record.key r = k
    · rw [first.mp here]
      exact ih onlyRest (Or.inl (stores_replace_of_lists here))
    refine ih onlyRest ?_
    rcases h with ⟨r, stored, rfl⟩ | ⟨d, hd, listed⟩
    · have other : Record.partition r ≠ c.1 := fun heq => here (first.mpr heq.symm)
      have unlisted : lastOf k c.2 = none :=
        lastOf_eq_none_iff.mpr fun s hs hkey => here ⟨s, hs, hkey⟩
      exact Or.inl ⟨r, getElem?_replace_eq_some_iff.mpr (Or.inr ⟨unlisted, stored, other⟩), rfl⟩
    · rcases List.mem_cons.mp hd with rfl | hd
      · exact absurd listed here
      · exact Or.inr ⟨d, hd, listed⟩

end Table

open ClaimTracker.Cycle

/-- A front of a cycle that does not reach enrichment is a front of polling. -/
lemma Cycle.Splits.prefix_polled {σ : Type} {polled actions done : List (Action σ)}
    (split : Splits polled actions) (front : done <+: actions) (pending : .enrich ∉ done) :
    done <+: polled := by
  rw [split.eq] at front
  rcases List.prefix_or_prefix_of_prefix front (List.prefix_append polled _) with within | beyond
  · exact within
  obtain ⟨more, rfl⟩ := beyond
  have rest := (List.prefix_append_right_inj polled).mp front
  cases more with
  | nil => simp
  | cons a more =>
    obtain ⟨rfl, -⟩ := List.cons_prefix_cons.mp rest
    exact absurd (List.mem_append_right _ List.mem_cons_self) pending

namespace Tracker

variable {σ κ : Type} [Keep κ] {polled actions done : List (Action σ)}

/-- What comes after enrichment leaves the inventory alone. -/
lemma inventory_perform_of_closing {l : List (Action σ)} {clean : Bool}
    (h : ∀ a ∈ l, a ∈ closing clean) (now : Instant) (w : Tracker σ κ) :
    (w.perform now l).inventory = w.inventory := by
  induction l generalizing w with
  | nil => rfl
  | cons a l ih =>
    rw [perform_cons, ih fun b hb => h b (List.mem_cons_of_mem a hb),
      inventory_act_of_mem_closing (h a List.mem_cons_self)]

/-- Once enrichment is done, the inventory is that of the whole cycle. -/
lemma inventory_perform_of_enriched (split : Splits polled actions) (front : done <+: actions)
    (enriched : .enrich ∈ done) (now : Instant) (w : Tracker σ κ) :
    (w.perform now done).inventory = (w.perform now actions).inventory := by
  obtain ⟨rest, heq⟩ := front
  have after : ∀ a ∈ rest, a ∈ closing (polled.filterMap Action.failure?).isEmpty := by
    intro a ha
    obtain ⟨between, rest', rfl⟩ := List.append_of_mem ha
    rw [← List.append_assoc] at heq
    exact split.mem_closing heq (List.mem_append_left _ enriched)
  rw [← heq, perform_append, inventory_perform_of_closing after]

/-- Up to enrichment, the claims are those from before with what has been replaced. -/
lemma claims_perform_of_pending (split : Splits polled actions) (front : done <+: actions)
    (pending : .enrich ∉ done) (now : Instant) (w : Tracker σ κ) :
    (w.perform now done).inventory.claims =
      w.inventory.claims.replaceAll (done.filterMap Action.claimCall?) := by
  have within := split.prefix_polled front pending
  rw [inventory_perform_of_isPolling fun a ha => split.polling a (within.subset ha),
    Inventory.replaceAll_eq]
  exact congrArg _ List.filterMap_filterMap

end Tracker

namespace Cycle

variable {σ : Type} {settings : Settings} {configs : Option (List NamespaceConfig)}
  {before : DeclaredPartitions}

/-- What retirement calls for is what is retired, and it lists nothing. -/
lemma claimCall_retirement {c : Table.Call Claim}
    (h : c ∈ (retirement settings configs before : List (Action σ)).filterMap Action.claimCall?) :
    c.2 = [] ∧ c.1 ∈ retiredNow settings configs before .claims := by
  cases configs with
  | none => cases h
  | some configs =>
    obtain ⟨a, ha, call⟩ := List.mem_filterMap.mp h
    rcases List.mem_cons.mp ha with rfl | ha
    · cases call
    rcases List.mem_append.mp ha with claims | composites
    · obtain ⟨p, hp, rfl⟩ := List.mem_map.mp claims
      cases call
      exact ⟨rfl, hp⟩
    · obtain ⟨p, -, rfl⟩ := List.mem_map.mp composites
      cases call

variable [Listing.Source σ] {s : σ}

/-- Claims are listed without a composition. -/
lemma composition_of_mem_claimCalls {c : Table.Call Claim} {b : Claim}
    (hc : c ∈ claimCalls settings configs s) (hb : b ∈ c.2) : b.composition = "" := by
  rw [claimCalls_eq] at hc
  obtain ⟨v, -, call⟩ := List.mem_filterMap.mp hc
  rw [Visit.call?] at call
  split at call
  · obtain ⟨items, records, rfl⟩ := Option.map_eq_some_iff.mp call
    obtain ⟨t, -, objects, -, o, -, rfl⟩ := Visit.exists_turn_of_records? records hb
    rfl
  · cases call

lemma claimCall_polling {c : Table.Call Claim}
    (h : c ∈ (polling settings configs before s).filterMap Action.claimCall?) :
    c ∈ claimCalls settings configs s ∨
      c.2 = [] ∧ c.1 ∈ retiredNow settings configs before .claims := by
  rw [polling, List.filterMap_append] at h
  rcases List.mem_append.mp h with listed | retired
  · exact Or.inl listed
  · exact Or.inr (claimCall_retirement retired)

/-- A call on the table of claims up to enrichment is one of listing or one of retirement. -/
lemma claimCall_of_pending {done : List (Action σ)}
    (front : done <+: actions settings configs before s) (pending : .enrich ∉ done) :
    ∀ c ∈ done.filterMap Action.claimCall?,
      c ∈ claimCalls settings configs s ∨
        c.2 = [] ∧ c.1 ∈ retiredNow settings configs before .claims := by
  intro c hc
  obtain ⟨a, ha, call⟩ := List.mem_filterMap.mp hc
  have polled := ((splits_actions _ _ _ _).prefix_polled front pending).subset ha
  exact claimCall_polling (List.mem_filterMap.mpr ⟨a, polled, call⟩)

end Cycle

namespace Round

variable {σ : Type} [Listing.Source σ]

/-- A cycle lists a claim, always with this reference, and the composite that it refers to, always with
this composition. -/
structure Pairs (settings : Settings) (served : Bool) (r : Round σ) (k name composition : String) :
    Prop where
  claim : Table.Lists (claimCalls settings (r.configs? served) r.source) k
  refers : ∀ c ∈ claimCalls settings (r.configs? served) r.source, ∀ b ∈ c.2,
    Record.key b = k → b.compositeName = name
  composite : Table.Lists (compositeCalls settings (r.configs? served) r.source) name
  agree : Table.Agree (compositeCalls settings (r.configs? served) r.source) name
  composed : ∀ c ∈ compositeCalls settings (r.configs? served) r.source, ∀ x ∈ c.2,
    Record.key x = name → x.composition = composition

/-- A cycle lists a claim for this type and for no other. -/
def ListsOnlyFor (settings : Settings) (served : Bool) (r : Round σ) (k p : String) : Prop :=
  Table.OnlyFor (claimCalls settings (r.configs? served) r.source) k p

end Round

namespace Tracker

variable {σ κ : Type} [Listing.Source σ] [Keep κ] {settings : Settings} {served : Bool}
  {w : Tracker σ κ} {r : Round σ} {k name composition p : String} {done : List (Action σ)}

/-- The tables of a cycle, before the claims are enriched and after. -/
lemma inventory_round_eq (w : Tracker σ κ) (r : Round σ) :
    (w.round settings served r).inventory = Inventory.enrich
      ⟨w.inventory.claims.replaceAll (claimCalls settings (r.configs? served) r.source ++
          Table.clearing (retiredNow settings (r.configs? served) w.declared .claims)),
        w.inventory.composites.replaceAll (compositeCalls settings (r.configs? served) r.source ++
          Table.clearing (retiredNow settings (r.configs? served) w.declared .composites))⟩ := by
  rw [round, inventory_poll_eq, ← claimCalls_eq, ← compositeCalls_eq]
  rfl

/-- After a cycle, the composite that it lists is found with its composition. -/
lemma compositionOf_round (named : name ≠ "") (h : r.Pairs settings served k name composition) :
    Inventory.compositionOf (w.round settings served r).inventory.composites name =
      composition := by
  have apart : ∀ c ∈ compositeCalls settings (r.configs? served) r.source,
      c.1 ∉ retiredNow settings (r.configs? served) w.declared .composites := by
    intro c hc retired
    obtain ⟨uncentral, undeclared⟩ := apart_of_mem_retiredNow retired
    exact (partition_of_mem_compositeCalls hc).elim uncentral undeclared
  obtain ⟨x, stored, c, hc, y, hy, hkey, rfl⟩ :=
    Table.exists_item_of_lists (t := w.inventory.composites) apart h.agree h.composite
  rw [inventory_round_eq, Inventory.enrich_composites,
    Inventory.compositionOf_of_found named stored]
  exact h.composed c hc y hy hkey

/-- After a cycle, the claim that it lists has the composition of its composite. -/
lemma composition_round (named : name ≠ "") (h : r.Pairs settings served k name composition)
    {c : Claim} (hc : (w.round settings served r).inventory.claims[k]? = some c) :
    c.composition = composition := by
  have found := compositionOf_round (w := w) named h
  rw [inventory_round_eq, Inventory.enrich_composites] at found
  rw [inventory_round_eq, Inventory.getElem?_enrich_claims] at hc
  obtain ⟨b, hb, rfl⟩ := Option.map_eq_some_iff.mp hc
  rw [Table.replaceAll_append, Table.getElem?_replaceAll_clearing] at hb
  obtain ⟨items, call, a, ha, hkey, heq⟩ := Table.item_of_lists h.claim hb.1
  have refers : b.compositeName = name := by
    rw [heq]
    exact h.refers _ call a ha hkey
  rw [refers]
  exact found

/-- If a claim is listed for one type only, so it is by any of the calls of the cycle. -/
lemma onlyFor_of_listsOnlyFor {before : DeclaredPartitions} {calls : List (Table.Call Claim)}
    (lists : Table.Lists (claimCalls settings (r.configs? served) r.source) k)
    (only : r.ListsOnlyFor settings served k p)
    (within : ∀ c ∈ calls, c ∈ claimCalls settings (r.configs? served) r.source ∨
      c.2 = [] ∧ c.1 ∈ retiredNow settings (r.configs? served) before .claims) :
    Table.OnlyFor calls k p := by
  intro c hc
  rcases within c hc with listed | ⟨empty, retired⟩
  · exact only c listed
  -- What is retired is not polled, and the type that lists the claim is.
  obtain ⟨uncentral, undeclared⟩ := apart_of_mem_retiredNow retired
  obtain ⟨d, hd, listed⟩ := lists
  constructor
  · rintro ⟨b, hb, -⟩
    rw [empty] at hb
    cases hb
  · intro heq
    rw [heq, ← (only d hd).mp listed] at uncentral undeclared
    exact absurd (partition_of_mem_claimCalls hd) (not_or.mpr ⟨uncentral, undeclared⟩)

/-- After a cycle, a claim that it lists for one type only is stored. -/
lemma stores_round_of_listsOnlyFor (w : Tracker σ κ)
    (lists : Table.Lists (claimCalls settings (r.configs? served) r.source) k)
    (only : r.ListsOnlyFor settings served k p) :
    (w.round settings served r).inventory.Stores k p .claims := by
  have within : ∀ c ∈ claimCalls settings (r.configs? served) r.source ++
      Table.clearing (retiredNow settings (r.configs? served) w.declared .claims),
      c ∈ claimCalls settings (r.configs? served) r.source ∨
        c.2 = [] ∧ c.1 ∈ retiredNow settings (r.configs? served) w.declared .claims := by
    intro c hc
    rcases List.mem_append.mp hc with hc | hc
    · exact Or.inl hc
    · obtain ⟨q, hq, rfl⟩ := List.mem_map.mp hc
      exact Or.inr ⟨rfl, hq⟩
  rw [inventory_round_eq, Inventory.stores_enrich]
  refine Table.stores_replaceAll_of_onlyFor (onlyFor_of_listsOnlyFor lists only within) (Or.inr ?_)
  obtain ⟨c, hc, listed⟩ := lists
  exact ⟨c, List.mem_append_left _ hc, listed⟩

/-- A claim and its composite are listed alike by two cycles in a row. In every state of the second,
what is stored under the key of the claim has the composition of the composite, except between the
first replacement that lists it and enrichment, where it has none. If only one type lists the claim,
it is always there. -/
theorem composition_within_cycle (settings : Settings) (served : Bool) (w : Tracker σ κ)
    {first second : Round σ} {k name composition : String} (named : name ≠ "")
    (earlier : first.Pairs settings served k name composition)
    (later : second.Pairs settings served k name composition) :
    let before := (w.round settings served first).facing second.source
    ∀ done, done <+: before.nextActions settings (second.configs? served) →
      let shown := (before.begin.perform second.now done).inventory
      let renewed := Table.Lists (done.filterMap Action.claimCall?) k
      (∀ c, shown.claims[k]? = some c →
        (.enrich ∈ done ∨ ¬ renewed → c.composition = composition) ∧
          (.enrich ∉ done → renewed → c.composition = "")) ∧
      ∀ p, first.ListsOnlyFor settings served k p → second.ListsOnlyFor settings served k p →
        ∃ c, shown.claims[k]? = some c := by
  intro before done front shown renewed
  have split := splits_actions settings (second.configs? served) before.declared before.source
  have whole : .enrich ∈ done →
      shown = ((w.round settings served first).round settings served second).inventory :=
    fun enriched => inventory_perform_of_enriched split front enriched _ _
  have begun : .enrich ∉ done → shown.claims =
      (w.round settings served first).inventory.claims.replaceAll
        (done.filterMap Action.claimCall?) :=
    fun pending => claims_perform_of_pending split front pending _ _
  have within := claimCall_of_pending front
  refine ⟨fun c hc => ⟨fun settled => ?_, fun pending lists => ?_⟩, fun p onlyFirst onlySecond => ?_⟩
  · by_cases enriched : .enrich ∈ done
    · rw [whole enriched] at hc
      exact composition_round named later hc
    · rw [begun enriched] at hc
      have unlisted : ∀ d ∈ done.filterMap Action.claimCall?, ∀ b ∈ d.2, Record.key b ≠ k :=
        fun d hd b hb hkey => settled.resolve_left enriched ⟨d, hd, b, hb, hkey⟩
      exact composition_round named earlier ((Table.getElem?_replaceAll_of_unlisted unlisted).mp hc).1
  · rw [begun pending] at hc
    obtain ⟨items, call, b, hb, -, heq⟩ := Table.item_of_lists lists hc
    rw [heq]
    rcases within pending _ call with listed | ⟨empty, -⟩
    · exact composition_of_mem_claimCalls (b := b) listed hb
    · obtain rfl : items = [] := empty
      cases hb
  · have stored := stores_round_of_listsOnlyFor w earlier.claim onlyFirst
    by_cases enriched : .enrich ∈ done
    · rw [whole enriched]
      obtain ⟨c, hc, -⟩ := stores_round_of_listsOnlyFor (w.round settings served first)
        later.claim onlySecond
      exact ⟨c, hc⟩
    · rw [begun enriched]
      obtain ⟨c, hc, -⟩ := Table.stores_replaceAll_of_onlyFor
        (onlyFor_of_listsOnlyFor later.claim onlySecond (within enriched)) (Or.inl stored)
      exact ⟨c, hc⟩

/-- A composite with a composition, and a claim that refers to it. -/
def pairedRound : Round Cluster where
  source :=
    { pageSize := 500
      objects := [
        ("g/v1/xwidgets", [{
          kind := none
          metadata := { name := some "x1", labels := [(RecordKeys.defaultComposition, "prod")] }
          data := .object [] }]),
        ("g/v1/widgets", [{
          sampleObject "a" "w1" with
          data := .object [("spec", .object [("resourceRef", .object [("name", .text "x1")])])] }])] }
  configs := []
  now := sampleMoment

lemma pairs_pairedRound : pairedRound.Pairs sampleSettings true "a/w1" "x1" "prod" := by
  constructor
  · exact ⟨_, List.mem_singleton.mpr rfl, _, List.mem_singleton.mpr rfl, by decide⟩
  · intro c hc b hb _
    obtain rfl := List.mem_singleton.mp hc
    obtain rfl := List.mem_singleton.mp hb
    rfl
  · exact ⟨_, List.mem_singleton.mpr rfl, _, List.mem_singleton.mpr rfl, by decide⟩
  · intro c hc listed d hd _
    obtain rfl := List.mem_singleton.mp hc
    obtain rfl := List.mem_singleton.mp hd
    exact listed
  · intro c hc x hx _
    obtain rfl := List.mem_singleton.mp hc
    obtain rfl := List.mem_singleton.mp hx
    rfl

lemma listsOnlyFor_pairedRound :
    pairedRound.ListsOnlyFor sampleSettings true "a/w1" "g/v1/widgets" := by
  intro c hc
  obtain rfl := List.mem_singleton.mp hc
  exact iff_of_true ⟨_, List.mem_singleton.mpr rfl, by decide⟩ rfl

/-- The claim is shown in all states of a second cycle, with its composition from enrichment on. -/
theorem paired_claim_shown :
    let before := (idleTracker.round sampleSettings true pairedRound).facing pairedRound.source
    pairedRound.Pairs sampleSettings true "a/w1" "x1" "prod" ∧
      pairedRound.ListsOnlyFor sampleSettings true "a/w1" "g/v1/widgets" ∧
      ∀ done, done <+: before.nextActions sampleSettings (some []) →
        ∃ c, (before.begin.perform sampleMoment done).inventory.claims["a/w1"]? = some c ∧
          (.enrich ∈ done → c.composition = "prod") := by
  intro before
  refine ⟨pairs_pairedRound, listsOnlyFor_pairedRound, fun done front => ?_⟩
  obtain ⟨shown, stored⟩ := composition_within_cycle sampleSettings true idleTracker (by decide)
    pairs_pairedRound pairs_pairedRound done front
  obtain ⟨c, hc⟩ := stored _ listsOnlyFor_pairedRound listsOnlyFor_pairedRound
  exact ⟨c, hc, fun enriched => (shown c hc).1 (Or.inl enriched)⟩

/-- Two cycles without failures list the claim and the composite alike, and the claim is shown without
its composition before the second has come to enrichment. -/
theorem composition_missing_until_enriched :
    let before := (idleTracker.round sampleSettings true pairedRound).facing pairedRound.source
    let done := polling sampleSettings (some []) before.declared before.source
    (idleTracker.round sampleSettings true pairedRound).report.isClean = true ∧
      ((idleTracker.round sampleSettings true pairedRound).round sampleSettings true
        pairedRound).report.isClean = true ∧
      pairedRound.Pairs sampleSettings true "a/w1" "x1" "prod" ∧
      done <+: before.nextActions sampleSettings (some []) ∧
      (before.begin.perform sampleMoment done).inventory.claims["a/w1"]?.map Claim.composition =
        some "" := by
  intro before done
  have clean : ∀ w : Tracker Cluster Slot,
      (w.round sampleSettings true pairedRound).report.isClean = true := by
    intro w
    rw [CycleReport.isClean, failures_round]
    rfl
  have split := splits_actions sampleSettings (some []) before.declared before.source
  have front : done <+: before.nextActions sampleSettings (some []) := by
    rw [nextActions, split.eq]
    exact List.prefix_append done _
  refine ⟨clean _, clean _, pairs_pairedRound, front, ?_⟩
  rw [claims_perform_of_pending split front split.enrich_notMem]
  have declared : before.declared = {} := declared_served _ _
  have retired : (retirement sampleSettings (some []) before.declared :
      List (Action Cluster)).filterMap Action.claimCall? = [] := by
    rw [declared]
    rfl
  have called : done.filterMap Action.claimCall? =
      claimCalls sampleSettings (some []) pairedRound.source := by
    show (polling sampleSettings (some []) before.declared before.source).filterMap
      Action.claimCall? = _
    rw [polling, List.filterMap_append, retired, List.append_nil]
    rfl
  rw [called]
  exact Option.map_eq_some_iff.mpr ⟨_, Table.getElem?_replace_eq_some_iff.mpr (Or.inl rfl), rfl⟩

end Tracker

end ClaimTracker
