import Mathlib.Data.List.Induction
import ClaimTracker.Proofs.Cycle.Distinct
import ClaimTracker.Proofs.Cycle.Forgetting
import ClaimTracker.Proofs.Cycle.Report
import ClaimTracker.Proofs.Durable.Restore
import ClaimTracker.Proofs.Inventory.Contents

/-!
# What is restored and never polled

A tracker that starts over has its records back, but it does not know what was declared before it
stopped. A type is retired when it is declared in one cycle and not in the next, so a restored record
of a type that is neither central nor declared in any cycle since is never retired. It stays until some
other type lists its key.
-/

namespace ClaimTracker

namespace Table

variable {ρ : Type} [Record ρ] [LawfulRecord ρ]

def Stores (t : Table ρ) (k p : String) : Prop :=
  ∃ r, t[k]? = some r ∧ Record.partition r = p

def Lists (calls : List (Call ρ)) (k : String) : Prop :=
  ∃ c ∈ calls, ∃ r ∈ c.2, Record.key r = k

/-- A partition that is not called for keeps what it has, but for what is retired and for the keys
that are listed for others. -/
lemma stores_replaceAll_iff {t : Table ρ} {calls : List (Call ρ)} {retired : List String}
    {k p : String} (others : ∀ c ∈ calls, c.1 ≠ p) :
    (t.replaceAll (calls ++ clearing retired)).Stores k p ↔
      t.Stores k p ∧ p ∉ retired ∧ ¬ Lists calls k := by
  rw [replaceAll_append]
  constructor
  · rintro ⟨r, hr, rfl⟩
    obtain ⟨stored, kept⟩ := getElem?_replaceAll_clearing.mp hr
    rcases item_or_spared stored with ⟨items, call, -⟩ | ⟨ht, spared⟩
    · exact absurd rfl (others _ call)
    · refine ⟨⟨r, ht, rfl⟩, kept, ?_⟩
      rintro ⟨c, hc, s, hs, hkey⟩
      exact lastOf_eq_none_iff.mp (spared c hc).2 s hs hkey
  · rintro ⟨⟨r, ht, rfl⟩, kept, unlisted⟩
    refine ⟨r, getElem?_replaceAll_clearing.mpr ⟨?_, kept⟩, rfl⟩
    refine (getElem?_replaceAll_of_unlisted fun c hc s hs hkey => ?_).mpr ⟨ht, others⟩
    exact unlisted ⟨c, hc, s, hs, hkey⟩

end Table

namespace Inventory

def Stores (i : Inventory) (k p : String) : Family → Prop
  | .claims => i.claims.Stores k p
  | .composites => i.composites.Stores k p

@[simp] lemma stores_enrich {i : Inventory} {k p : String} {family : Family} :
    i.enrich.Stores k p family ↔ i.Stores k p family := by
  cases family with
  | composites => rfl
  | claims =>
    simp only [Stores, Table.Stores, getElem?_enrich_claims]
    constructor
    · rintro ⟨c, hc, rfl⟩
      obtain ⟨b, hb, rfl⟩ := Option.map_eq_some_iff.mp hc
      exact ⟨b, hb, rfl⟩
    · rintro ⟨b, hb, rfl⟩
      exact ⟨_, Option.map_eq_some_iff.mpr ⟨b, hb, rfl⟩, rfl⟩

end Inventory

open ClaimTracker.Cycle

namespace Round

variable {σ : Type}

def Polls (settings : Settings) (r : Round σ) (family : Inventory.Family) (p : String) : Prop :=
  p ∈ centralOf settings family ∨ ∃ c ∈ r.configs, Declares c family p

lemma polls_iff {settings : Settings} {r : Round σ} {family : Inventory.Family} {p : String} :
    r.Polls settings family p ↔ p ∈ centralOf settings family ∨
      p ∈ declaredOf (declaredNow settings (some r.configs)) family := by
  rw [mem_declaredNow_iff, Polls, Option.getD_some]
  by_cases central : p ∈ centralOf settings family
  · exact iff_of_true (Or.inl central) (Or.inl central)
  · simp only [central, not_false_eq_true, true_and]

variable [Listing.Source σ]

/-- A cycle lists a key for some type of a table. -/
def Lists (settings : Settings) (r : Round σ) (k : String) : Inventory.Family → Prop
  | .claims => Table.Lists (claimCalls settings (some r.configs) r.source) k
  | .composites => Table.Lists (compositeCalls settings (some r.configs) r.source) k

end Round

namespace Tracker

variable {σ κ : Type} [Listing.Source σ] [Keep κ] {settings : Settings} {w : Tracker σ κ}
  {r : Round σ} {family : Inventory.Family} {k p : String}

lemma declared_served (w : Tracker σ κ) (r : Round σ) :
    (w.round settings true r).declared = declaredNow settings (some r.configs) :=
  declared_poll settings (some r.configs) r.now (w.facing r.source)

/-- A cycle retires a type that it does not poll if it was declared before, and otherwise takes away
only the records whose keys it lists for others. -/
lemma stores_round (unpolled : ¬ r.Polls settings family p) :
    (w.round settings true r).inventory.Stores k p family ↔
      w.inventory.Stores k p family ∧ p ∉ declaredOf w.declared family ∧
        ¬ r.Lists settings k family := by
  obtain ⟨uncentral, undeclared⟩ := not_or.mp (fun h => unpolled (Round.polls_iff.mpr h))
  have retired : p ∉ retiredNow settings (some r.configs) w.declared family ↔
      p ∉ declaredOf w.declared family :=
    not_congr (mem_undeclared.trans ⟨fun h => h.1, fun h => ⟨h, undeclared, uncentral⟩⟩)
  have others : ∀ q, q ∈ centralOf settings family ∨
      q ∈ declaredOf (declaredNow settings (some r.configs)) family → q ≠ p := by
    rintro q polled rfl
    exact unpolled (Round.polls_iff.mpr polled)
  rw [← retired, round, inventory_poll_eq, Inventory.stores_enrich, ← claimCalls_eq,
    ← compositeCalls_eq]
  cases family with
  | claims =>
    exact Table.stores_replaceAll_iff fun c hc => others c.1 (partition_of_mem_claimCalls hc)
  | composites =>
    exact Table.stores_replaceAll_iff fun c hc => others c.1 (partition_of_mem_compositeCalls hc)

lemma rounds_append_singleton (w : Tracker σ κ) (l : List (Round σ)) (r : Round σ) :
    w.rounds settings true (l ++ [r]) = (w.rounds settings true l).round settings true r :=
  List.foldl_concat _ _ _ _

lemma polls_of_declared_rounds (w : Tracker σ κ) (l : List (Round σ))
    (h : p ∈ declaredOf (w.rounds settings true l).declared family) :
    p ∈ declaredOf w.declared family ∨ ∃ r ∈ l, r.Polls settings family p := by
  induction l using List.reverseRecOn with
  | nil => exact Or.inl h
  | append_singleton l r =>
    rw [rounds_append_singleton, declared_served] at h
    exact Or.inr ⟨r, List.mem_append_right _ List.mem_cons_self, Round.polls_iff.mpr (Or.inr h)⟩

/-- Of a type that is neither central nor declared in the last of some cycles, a record is left that
was there before them, if none of them has polled its type or listed its key, and no other. -/
lemma stores_rounds (new : w.declared = {}) (l : List (Round σ))
    (uncentral : p ∉ centralOf settings family)
    (undeclared : p ∉ declaredOf (w.rounds settings true l).declared family) :
    (w.rounds settings true l).inventory.Stores k p family ↔
      w.inventory.Stores k p family ∧
        ∀ r ∈ l, ¬ r.Polls settings family p ∧ ¬ r.Lists settings k family := by
  -- The last cycle comes off first: it decides what is noted as declared, and retires what was noted
  -- before it.
  induction l using List.reverseRecOn with
  | nil => exact ⟨fun h => ⟨h, fun r hr => by cases hr⟩, fun h => h.1⟩
  | append_singleton l r ih =>
    have unpolled : ¬ r.Polls settings family p := by
      rw [rounds_append_singleton, declared_served] at undeclared
      exact fun h => (Round.polls_iff.mp h).elim uncentral undeclared
    rw [rounds_append_singleton, stores_round unpolled]
    constructor
    · rintro ⟨stored, undeclared, unlisted⟩
      obtain ⟨before, quiet⟩ := (ih undeclared).mp stored
      refine ⟨before, fun s hs => ?_⟩
      rcases List.mem_append.mp hs with hs | hs
      · exact quiet s hs
      · obtain rfl := List.mem_singleton.mp hs
        exact ⟨unpolled, unlisted⟩
    · rintro ⟨before, quiet⟩
      have earlier : ∀ s ∈ l, ¬ s.Polls settings family p ∧ ¬ s.Lists settings k family :=
        fun s hs => quiet s (List.mem_append_left _ hs)
      have undeclared : p ∉ declaredOf (w.rounds settings true l).declared family := by
        intro h
        rcases polls_of_declared_rounds w l h with h | ⟨s, hs, polls⟩
        · rw [new] at h
          cases family <;> cases h
        · exact (earlier s hs).1 polls
      refine ⟨(ih undeclared).mpr ⟨before, earlier⟩, undeclared, ?_⟩
      exact (quiet r (List.mem_append_right _ List.mem_cons_self)).2

/-- A tracker that starts over with what a durable inventory restores. -/
def resume (source : σ) (d : Durable κ) : Tracker σ κ :=
  { source, store := .durable d.restore.2 }

/-- After any cycles of a tracker that started over, the records of a table are all of types that the
last cycle polls, if and only if every restored one had its type polled or its key listed in some cycle
since. -/
theorem polled_after_resume_iff (settings : Settings) (source : σ) (d : Durable κ)
    (history : List (Round σ)) (last : Round σ) (family : Inventory.Family) :
    let restored := d.restore.2.inventory
    let after := ((resume source d).rounds settings true history).round settings true last
    (∀ k p, after.inventory.Stores k p family → last.Polls settings family p) ↔
      ∀ k p, restored.Stores k p family →
        ∃ r ∈ history ++ [last], r.Polls settings family p ∨ r.Lists settings k family := by
  intro restored after
  have new : (resume source d).declared = {} := rfl
  have left : ∀ k p, ¬ last.Polls settings family p → (after.inventory.Stores k p family ↔
      restored.Stores k p family ∧ ∀ r ∈ history ++ [last],
        ¬ r.Polls settings family p ∧ ¬ r.Lists settings k family) := by
    intro k p unpolled
    obtain ⟨uncentral, undeclared⟩ := not_or.mp (fun h => unpolled (Round.polls_iff.mpr h))
    have run : (resume source d).rounds settings true (history ++ [last]) = after :=
      rounds_append_singleton _ _ _
    have now : after.declared = declaredNow settings (some last.configs) := declared_served _ _
    rw [← now, ← run] at undeclared
    rw [← run]
    exact stores_rounds new (history ++ [last]) uncentral undeclared
  constructor
  · intro polled k p stored
    by_contra quiet
    push Not at quiet
    obtain ⟨unpolled, -⟩ := quiet last (List.mem_append_right _ List.mem_cons_self)
    exact unpolled (polled k p ((left k p unpolled).mpr ⟨stored, quiet⟩))
  · intro met k p stored
    by_contra unpolled
    obtain ⟨before, quiet⟩ := (left k p unpolled).mp stored
    obtain ⟨r, hr, polls | lists⟩ := met k p before
    · exact (quiet r hr).1 polls
    · exact (quiet r hr).2 lists

/-- A claim that was listed for a namespace is kept in a document. -/
def formerDurable : Durable Slot where
  inventory := (∅ : Inventory).run [.replace (.claims "g/v1/gadgets"
    [(sampleObject "a" "x").claim ⟨"g", "v1", "gadgets"⟩ ⟨sampleSettings.keys, .declared⟩])]
  keep := {}
  limit := Durable.defaultLimit

/-- The claim is restored, and still there after a cycle without failures in which its type is neither
central nor declared. -/
theorem restored_claim_orphaned :
    let length := (Durable.document formerDurable.inventory sampleMoment).length
    let d : Durable Slot := ⟨∅, (formerDurable.persist sampleMoment).2.keep, length, false⟩
    let after := (resume quietRound.source d).round sampleSettings true quietRound
    d.restore.1 = .ok () ∧ after.report.isClean = true ∧
      after.inventory.Stores "a/x" "g/v1/gadgets" .claims ∧
      ¬ quietRound.Polls sampleSettings .claims "g/v1/gadgets" := by
  intro length d after
  have done : (formerDurable.persist sampleMoment).1 = some (.ok ()) := by
    rw [Durable.persist_of_unlocked rfl]
    rfl
  have served : Keep.Serves d.keep (Durable.document formerDurable.inventory sampleMoment) :=
    Durable.serves_of_persist done (Slot.retains rfl)
  obtain ⟨ok, restored⟩ := Durable.restore_of_serves (d := d) rfl
    (Inventory.keyed_run _) served (Nat.le_refl _)
  have clean : after.report.isClean = true := by
    rw [CycleReport.isClean, failures_round]
    rfl
  have unpolled : ¬ quietRound.Polls sampleSettings .claims "g/v1/gadgets" := by
    rintro (central | ⟨c, hc, -⟩)
    · revert central
      decide
    · cases hc
  refine ⟨ok, clean, (stores_round unpolled).mpr ⟨?_, ?_, ?_⟩, unpolled⟩
  · show d.restore.2.inventory.Stores "a/x" "g/v1/gadgets" .claims
    rw [restored, Inventory.stores_enrich]
    refine ⟨_, Table.getElem?_replace_eq_some_iff.mpr (Or.inl rfl), rfl⟩
  · exact List.not_mem_nil
  · rintro ⟨c, hc, b, hb, hkey⟩
    obtain rfl := List.mem_singleton.mp hc
    obtain rfl := List.mem_singleton.mp hb
    revert hkey
    decide

end Tracker

end ClaimTracker
