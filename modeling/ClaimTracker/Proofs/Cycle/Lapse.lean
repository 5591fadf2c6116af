import ClaimTracker.Proofs.Cycle.Orphans

/-!
# Types that lapse

A type lapses in a cycle if the cycle before planned it for namespaces and this one neither plans it nor
polls it centrally. The types that lapse are those that are retired, whichever listings have failed, and
nothing of them is left after the cycle. They are gone through as they come out of sets, in an order of
no consequence.
-/

namespace ClaimTracker

/-- The orders in which a cycle comes across the types of the two tables that were declared before. -/
structure SetOrder where
  list : Inventory.Family → List String → List String
  perm : ∀ family l, (list family l).Perm l

namespace SetOrder

def apply (o : SetOrder) (d : DeclaredPartitions) : DeclaredPartitions where
  claims := o.list .claims d.claims
  composites := o.list .composites d.composites

/-- Both sets from back to front. -/
def backwards : SetOrder where
  list _ := List.reverse
  perm _ := List.reverse_perm

end SetOrder

structure Passage (σ : Type) where
  round : Round σ
  order : SetOrder

namespace Action

variable {σ : Type}

def retiredOf? (family : Inventory.Family) : Action σ → Option String
  | .retireClaims p => if family = .claims then some p else none
  | .retireComposites p => if family = .composites then some p else none
  | _ => none

end Action

namespace Table

variable {ρ : Type} [Record ρ] [LawfulRecord ρ]

/-- It does not matter in which order partitions are emptied, nor how often. -/
lemma replaceAll_clearing_congr {t : Table ρ} {l l' : List String} (same : ∀ p, p ∈ l ↔ p ∈ l') :
    t.replaceAll (clearing l) = t.replaceAll (clearing l') := by
  refine Std.ExtTreeMap.ext_getElem? fun {k} => Option.ext fun r => ?_
  rw [getElem?_replaceAll_clearing, getElem?_replaceAll_clearing, same]

end Table

namespace Cycle

variable {σ : Type} {settings : Settings} {family : Inventory.Family} {p : String}

@[simp] lemma declaredOf_apply (o : SetOrder) (d : DeclaredPartitions) (family : Inventory.Family) :
    declaredOf (o.apply d) family = o.list family (declaredOf d family) := by
  cases family <;> rfl

def lapsed (settings : Settings) (before now : DeclaredPartitions) (family : Inventory.Family) :
    List String :=
  (declaredOf before family).filter fun p =>
    p ∉ declaredOf now family ∧ p ∉ centralOf settings family

section Actions

variable [Listing.Source σ] {configs : List NamespaceConfig} {before : DeclaredPartitions} {s : σ}

lemma retiredNow_eq_lapsed (family : Inventory.Family) :
    retiredNow settings (some configs) before family =
      lapsed settings before (declaredNow settings (some configs)) family := by
  refine List.filter_congr fun p _ => ?_
  simp

/-- The types of a table that a cycle retires are those that lapse. -/
lemma retiredOf_actions (family : Inventory.Family) :
    (actions settings (some configs) before s).filterMap (Action.retiredOf? family) =
      lapsed settings before (declaredNow settings (some configs)) family := by
  have closing_quiet : ∀ x : Action σ, x.isPolling = false → x.retiredOf? family = none := by
    intro x hx
    cases x <;> first | rfl | cases hx
  have listing_quiet :
      (listing settings (some configs) s).filterMap (Action.retiredOf? family) = [] := by
    refine List.filterMap_eq_nil_iff.mpr fun x hx => ?_
    rcases mem_listing hx with listed | ⟨n, rfl⟩ | ⟨p, rfl⟩
    · cases x <;> first | rfl | cases listed
    · rfl
    · rfl
  rw [filterMap_actions_of_isPolling closing_quiet, listing_quiet, List.nil_append,
    ← retiredNow_eq_lapsed, retirement, List.filterMap_cons_none rfl, retire, List.filterMap_append,
    List.filterMap_map, List.filterMap_map]
  cases family with
  | claims => simp [Function.comp_def, Action.retiredOf?]; rfl
  | composites => simp [Function.comp_def, Action.retiredOf?]; rfl

end Actions

lemma lapsed_apply (o : SetOrder) (before now : DeclaredPartitions) (family : Inventory.Family) :
    (lapsed settings (o.apply before) now family).Perm (lapsed settings before now family) := by
  rw [lapsed, lapsed, declaredOf_apply]
  exact (o.perm family _).filter _

lemma mem_lapsed_iff {before now : DeclaredPartitions} :
    p ∈ lapsed settings before now family ↔
      p ∈ declaredOf before family ∧ p ∉ declaredOf now family ∧ p ∉ centralOf settings family := by
  simp [lapsed]

end Cycle

open ClaimTracker.Cycle

namespace Round

variable {σ : Type}

def planned (settings : Settings) (r : Round σ) : DeclaredPartitions :=
  declared (plan settings r.configs)

lemma mem_planned_iff {settings : Settings} {r : Round σ} {family : Inventory.Family} {p : String} :
    p ∈ declaredOf (r.planned settings) family ↔
      p ∉ centralOf settings family ∧ ∃ c ∈ r.configs, Declares c family p := by
  show p ∈ declaredOf (declaredNow settings (some r.configs)) family ↔ _
  exact mem_declaredNow_iff

lemma nodup_planned (settings : Settings) (r : Round σ) (family : Inventory.Family) :
    (declaredOf (r.planned settings) family).Nodup := by
  show (declaredOf (declaredNow settings (some r.configs)) family).Nodup
  exact nodup_declaredNow family

end Round

namespace Tracker

variable {σ κ : Type}

/-- The tracker that comes across what was declared before in these orders. -/
def recalling (w : Tracker σ κ) (o : SetOrder) : Tracker σ κ :=
  { w with declared := o.apply w.declared }

variable [Listing.Source σ]

/-- The types of a table that the next cycle retires. -/
def retires (settings : Settings) (w : Tracker σ κ) (c : Passage σ) (family : Inventory.Family) :
    List String :=
  (((w.recalling c.order).facing c.round.source).nextActions settings
    (some c.round.configs)).filterMap (Action.retiredOf? family)

lemma retires_eq (settings : Settings) (w : Tracker σ κ) (c : Passage σ) (family : Inventory.Family) :
    w.retires settings c family =
      lapsed settings (c.order.apply w.declared) (c.round.planned settings) family :=
  retiredOf_actions family

variable [Keep κ]

/-- Runs a cycle for namespaces that goes through its sets in the orders given. -/
def pass (settings : Settings) (w : Tracker σ κ) (c : Passage σ) : Tracker σ κ :=
  (w.recalling c.order).round settings true c.round

def passes (settings : Settings) (w : Tracker σ κ) (l : List (Passage σ)) : Tracker σ κ :=
  l.foldl (pass settings) w

variable {settings : Settings} {w : Tracker σ κ} {c : Passage σ} {family : Inventory.Family}
  {p : String}

lemma declared_pass : (w.pass settings c).declared = c.round.planned settings :=
  declared_served _ _

/-- A cycle reports what it retires, claim types first. -/
lemma retired_pass :
    (w.pass settings c).report.retired =
      w.retires settings c .claims ++ w.retires settings c .composites := by
  rw [retires_eq, retires_eq]
  refine (retired_poll settings (some c.round.configs) c.round.now _).trans ?_
  rw [retiredNow_eq_lapsed, retiredNow_eq_lapsed]
  rfl

/-- Nothing of a retired type is left. -/
lemma not_stores_of_retires (retired : p ∈ w.retires settings c family) (k : String) :
    ¬ (w.pass settings c).inventory.Stores k p family := by
  rw [retires_eq] at retired
  obtain ⟨declared, undeclared, uncentral⟩ := mem_lapsed_iff.mp retired
  have unpolled : ¬ c.round.Polls settings family p := fun h =>
    (Round.polls_iff.mp h).elim uncentral undeclared
  rw [pass, stores_round unpolled]
  rintro ⟨-, forgotten, -⟩
  exact forgotten declared

/-- Of the cycle before, the types are remembered that it planned. -/
lemma declared_passes (settings : Settings) (w : Tracker σ κ) (l : List (Passage σ)) :
    (w.passes settings l).declared =
      (l.getLast?.map fun c => c.round.planned settings).getD w.declared := by
  induction l using List.reverseRecOn with
  | nil => rfl
  | append_singleton l c =>
    rw [passes, List.foldl_concat, declared_pass, List.getLast?_concat]
    rfl

/-- Of what was declared before, only which types it was shows in the inventory. -/
lemma inventory_poll_congr {v : Tracker σ κ} {configs : List NamespaceConfig} {now : Instant}
    (source : w.source = v.source) (inventory : w.inventory = v.inventory)
    (same : ∀ family p, p ∈ declaredOf w.declared family ↔ p ∈ declaredOf v.declared family) :
    (w.poll settings (some configs) now).inventory =
      (v.poll settings (some configs) now).inventory := by
  have retired : ∀ family p, p ∈ retiredNow settings (some configs) w.declared family ↔
      p ∈ retiredNow settings (some configs) v.declared family := by
    intro family p
    rw [retiredNow_eq_lapsed, retiredNow_eq_lapsed, mem_lapsed_iff, mem_lapsed_iff, same]
  simp only [inventory_poll_eq, Table.replaceAll_append, source, inventory]
  rw [Table.replaceAll_clearing_congr (retired .claims),
    Table.replaceAll_clearing_congr (retired .composites)]

/-- The orders in which a cycle goes through its sets show in the inventory nowhere. -/
lemma inventory_pass {v : Tracker σ κ} (inventory : w.inventory = v.inventory)
    (declared : w.declared = v.declared) :
    (w.pass settings c).inventory = (v.round settings true c.round).inventory := by
  refine inventory_poll_congr rfl inventory fun family p => ?_
  show p ∈ declaredOf (c.order.apply w.declared) family ↔ p ∈ declaredOf v.declared family
  rw [declaredOf_apply, (c.order.perm family _).mem_iff, declared]

lemma inventory_passes (settings : Settings) (w : Tracker σ κ) (l : List (Passage σ)) :
    (w.passes settings l).inventory =
        (w.rounds settings true (l.map Passage.round)).inventory ∧
      (w.passes settings l).declared =
        (w.rounds settings true (l.map Passage.round)).declared := by
  induction l using List.reverseRecOn with
  | nil => exact ⟨rfl, rfl⟩
  | append_singleton l c ih =>
    rw [passes, List.foldl_concat, List.map_append, List.map_singleton, rounds_append_singleton]
    refine ⟨inventory_pass ih.1 ih.2, ?_⟩
    rw [declared_pass, declared_served]
    rfl

/-- A type that is retired was planned in the cycle before, so it was declared since it was retired
last. -/
lemma exists_declared_between {earlier between : List (Passage σ)} {first : Passage σ}
    (before : p ∈ (w.passes settings earlier).retires settings first family)
    (again : p ∈ (w.passes settings (earlier ++ first :: between)).retires settings c family) :
    ∃ d ∈ between, ∃ config ∈ d.round.configs, Declares config family p := by
  rw [retires_eq, mem_lapsed_iff, declaredOf_apply, (c.order.perm family _).mem_iff,
    declared_passes] at again
  cases between using List.reverseRecOn with
  | nil =>
    rw [List.getLast?_concat] at again
    rw [retires_eq, mem_lapsed_iff] at before
    exact absurd again.1 before.2.1
  | append_singleton between d =>
    rw [← List.cons_append, ← List.append_assoc, List.getLast?_concat] at again
    obtain ⟨-, declares⟩ := Round.mem_planned_iff.mp again.1
    exact ⟨d, List.mem_append_right _ List.mem_cons_self, declares⟩

/-- A tracker that has not run yet, whatever it stores, runs cycles for namespaces, each of which goes
through its sets in some order and may fail to list anything. Then a cycle reports the claim types that
it retires and the composite types, and those are the types planned by the cycle before that lapse, each
once. Nothing of them is left; no type is among them that a configuration declares; and a type that was
retired before has been declared since. The inventory is the same whatever the orders were. -/
theorem retired_exactly (settings : Settings) (w : Tracker σ κ) (new : w.declared = {})
    (history : List (Passage σ)) (c : Passage σ) :
    let before := w.passes settings history
    let after := before.pass settings c
    let planned := (history.getLast?.map fun last => last.round.planned settings).getD {}
    after.report.retired =
        before.retires settings c .claims ++ before.retires settings c .composites ∧
      (∀ family, (before.retires settings c family).Perm
          ((declaredOf planned family).filter fun p =>
            p ∉ declaredOf (c.round.planned settings) family ∧ p ∉ centralOf settings family) ∧
        (before.retires settings c family).Nodup) ∧
      (∀ family, ∀ p ∈ before.retires settings c family, ∀ k,
        ¬ after.inventory.Stores k p family) ∧
      (∀ family p, (∃ config ∈ c.round.configs, Declares config family p) →
        p ∉ before.retires settings c family) ∧
      (∀ family, ∀ p ∈ before.retires settings c family, ∀ earlier first between,
        history = earlier ++ first :: between →
        p ∈ (w.passes settings earlier).retires settings first family →
        ∃ d ∈ between, ∃ config ∈ d.round.configs, Declares config family p) ∧
      after.inventory =
        ((w.rounds settings true (history.map Passage.round)).round settings true
          c.round).inventory := by
  intro before after planned
  have remembered : before.declared = planned := by
    rw [declared_passes, new]
  have exact : ∀ family, (before.retires settings c family).Perm
      (lapsed settings planned (c.round.planned settings) family) := by
    intro family
    rw [retires_eq, remembered]
    exact lapsed_apply c.order _ _ family
  refine ⟨retired_pass, fun family => ⟨exact family, ?_⟩, fun family p retired => ?_,
    fun family p declares retired => ?_, fun family p again earlier first between split once => ?_,
    ?_⟩
  · have nodup : (declaredOf planned family).Nodup := by
      cases last : history.getLast? with
      | none => cases family <;> simp [planned, last, declaredOf]
      | some d => simpa [planned, last] using d.round.nodup_planned settings family
    exact (exact family).nodup_iff.mpr (nodup.filter _)
  · exact not_stores_of_retires retired
  · obtain ⟨-, undeclared, uncentral⟩ := mem_lapsed_iff.mp ((exact family).mem_iff.mp retired)
    exact undeclared (Round.mem_planned_iff.mpr ⟨uncentral, declares⟩)
  · subst split
    exact exists_declared_between once again
  · obtain ⟨inventory, declared⟩ := inventory_passes settings w history
    exact inventory_pass inventory declared

/-- A namespace declares a type as a claim type and as a composite type, and another claim type. -/
def declaringRound : Round Cluster where
  source :=
    { pageSize := 500
      objects := [("g/v1/gizmos", [sampleObject "a" "x"])]
      faults := [⟨"g/v1/gadgets", none, none, "down"⟩] }
  configs :=
    [⟨"a", "types", [⟨"g", "v1", "gadgets"⟩, ⟨"g", "v1", "gizmos"⟩], [⟨"g", "v1", "gizmos"⟩], none, none⟩]
  now := sampleMoment

/-- Only the other type is declared any more, and it still cannot be listed. -/
def lapsingRound : Round Cluster where
  source := declaringRound.source
  configs := [⟨"a", "types", [⟨"g", "v1", "gadgets"⟩], [], none, none⟩]
  now := sampleMoment

/-- The type lapses in both tables, and the other one does not. Declared again, it lapses again. -/
theorem gizmos_retired :
    let history := [declaringRound, lapsingRound, declaringRound].map (Passage.mk · .backwards)
    let c : Passage Cluster := ⟨lapsingRound, .backwards⟩
    let before := idleTracker.passes sampleSettings history
    let after := before.pass sampleSettings c
    idleTracker.declared = {} ∧
      before.retires sampleSettings c .claims = ["g/v1/gizmos"] ∧
      after.report.retired = ["g/v1/gizmos", "g/v1/gizmos"] ∧
      "g/v1/gadgets" ∉ before.retires sampleSettings c .claims ∧
      ∀ k, ¬ after.inventory.Stores k "g/v1/gizmos" .claims := by
  intro history c before after
  obtain ⟨reported, exact, gone, kept, -⟩ :=
    retired_exactly sampleSettings idleTracker rfl history c
  have claims : before.retires sampleSettings c .claims = ["g/v1/gizmos"] :=
    List.perm_singleton.mp (exact .claims).1
  have composites : before.retires sampleSettings c .composites = ["g/v1/gizmos"] :=
    List.perm_singleton.mp (exact .composites).1
  have declares : Declares ⟨"a", "types", [⟨"g", "v1", "gadgets"⟩], [], none, none⟩ .claims
      "g/v1/gadgets" := ⟨_, List.mem_cons_self, rfl⟩
  refine ⟨rfl, claims, ?_, kept .claims _ ⟨_, List.mem_cons_self, declares⟩, ?_⟩
  · rw [reported, claims, composites]
    rfl
  · exact gone .claims _ (claims ▸ List.mem_cons_self)

end Tracker

end ClaimTracker
