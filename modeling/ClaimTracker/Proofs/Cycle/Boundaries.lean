import ClaimTracker.Proofs.Cycle.Forgetting
import ClaimTracker.Proofs.Durable.Restore
import ClaimTracker.Proofs.Inventory.Enrichment

/-!
# What holds between cycles

In the life of a tracker cycles end or are given up, the document in the keep is read back, and the
tracker starts over. A cycle that ends enriches last of all that it does to the inventory, whatever
listings have failed in it, and so does a restore that takes a document in. So the inventory is enriched
after each of them, whatever has come before.
-/

namespace ClaimTracker

namespace Durable

variable {κ : Type} [Keep κ]

/-- A restore replays a snapshot into the inventory or leaves it alone. -/
lemma inventory_restore (d : Durable κ) :
    d.restore.2.inventory = d.inventory ∨ ∃ s, d.restore.2.inventory = replay d.inventory s := by
  rcases restore_cases d with ⟨_, _, ends⟩ | ⟨_, ends⟩ | ⟨_, _, _, ends⟩ | ⟨_, _, _, _, _, ends⟩ |
    ⟨_, s, _, ends⟩
  · exact Or.inl (by rw [ends]; rfl)
  · exact Or.inl (by rw [ends]; rfl)
  · exact Or.inl (by rw [ends]; rfl)
  · exact Or.inl (by rw [ends]; rfl)
  · exact Or.inr ⟨s, by rw [ends]⟩

/-- A restore that finds a document and succeeds has replayed a snapshot. -/
lemma replayed_of_restore {d : Durable κ} {body : Octets}
    (found : (Keep.get d.limit d.keep).1 = .ok (some body)) (ok : d.restore.1 = .ok ()) :
    ∃ s, d.restore.2.inventory = replay d.inventory s := by
  cases read : readDocument d.limit body with
  | error e => simp [restore, found, read] at ok
  | ok s => exact ⟨s, by simp [restore, found, read]⟩

lemma enriched_replay (i : Inventory) (s : Snapshot) : (replay i s).Enriched := by
  rw [replay_eq]
  exact Inventory.enriched_enrich _

end Durable

namespace Tracker

variable {σ κ : Type}

inductive Event (σ : Type) where
  | cycle (settings : Settings) (served : Bool) (r : Round σ)
  /-- A cycle is given up after a number of actions. -/
  | abandoned (settings : Settings) (served : Bool) (r : Round σ) (steps : Nat)
  | restore
  /-- The tracker starts over with an empty inventory. -/
  | restart

def restore [Keep κ] (w : Tracker σ κ) : Tracker σ κ :=
  match w.store with
  | .memory _ => w
  | .durable d => { w with store := .durable d.restore.2 }

lemma inventory_restore [Keep κ] {w : Tracker σ κ} {d : Durable κ}
    (durable : w.store = .durable d) : w.restore.inventory = d.restore.2.inventory := by
  simp only [restore, durable]
  rfl

variable [Listing.Source σ] [Keep κ]

def undergo (w : Tracker σ κ) : Event σ → Tracker σ κ
  | .cycle settings served r => w.round settings served r
  | .abandoned settings served r steps =>
    let w := w.facing r.source
    w.begin.perform r.now ((w.nextActions settings (r.configs? served)).take steps)
  | .restore => w.restore
  | .restart => { source := w.source, store := w.store.modify fun _ => ∅ }

def undergoAll (w : Tracker σ κ) (history : List (Event σ)) : Tracker σ κ :=
  history.foldl undergo w

/-- The events after which the inventory is complete: a cycle that has come to its end, and a restore
that has found a document and taken it in. -/
inductive Completes (w : Tracker σ κ) : Event σ → Prop
  | cycle (settings : Settings) (served : Bool) (r : Round σ) :
    Completes w (.cycle settings served r)
  | restore {d : Durable κ} {body : Octets} (durable : w.store = .durable d)
    (found : (Keep.get d.limit d.keep).1 = .ok (some body)) (ok : d.restore.1 = .ok ()) :
    Completes w .restore

variable {w : Tracker σ κ} {e : Event σ}

lemma enriched_of_completes (h : w.Completes e) : (w.undergo e).inventory.Enriched := by
  cases h with
  | cycle settings served r =>
    show (w.round settings served r).inventory.Enriched
    rw [inventory_round]
    exact Inventory.enriched_enrich _
  | restore durable found ok =>
    obtain ⟨s, replayed⟩ := Durable.replayed_of_restore found ok
    show w.restore.inventory.Enriched
    rw [inventory_restore durable, replayed]
    exact Durable.enriched_replay _ s

/-- An enriched inventory stays enriched unless a cycle is given up. -/
lemma enriched_undergo (whole : ∀ settings served r steps, e ≠ .abandoned settings served r steps)
    (h : w.inventory.Enriched) : (w.undergo e).inventory.Enriched := by
  cases e with
  | cycle settings served r => exact enriched_of_completes (.cycle settings served r)
  | abandoned settings served r steps => exact absurd rfl (whole settings served r steps)
  | restore =>
    show w.restore.inventory.Enriched
    cases store : w.store with
    | memory i =>
      rw [restore, store]
      exact h
    | durable d =>
      rw [inventory_restore store]
      rcases d.inventory_restore with kept | ⟨s, replayed⟩
      · rw [kept]
        simpa only [inventory, Store.inventory, store] using h
      · rw [replayed]
        exact Durable.enriched_replay _ s
  | restart =>
    have empty : (w.undergo .restart).inventory = ∅ := inventory_modify w fun _ => ∅
    rw [empty]
    exact Inventory.enriched_empty

lemma enriched_undergoAll {history : List (Event σ)}
    (whole : ∀ e ∈ history, ∀ settings served r steps, e ≠ .abandoned settings served r steps)
    (h : w.inventory.Enriched) : (w.undergoAll history).inventory.Enriched := by
  induction history generalizing w with
  | nil => exact h
  | cons e history ih =>
    exact ih (fun d hd => whole d (List.mem_cons_of_mem e hd))
      (enriched_undergo (whole e List.mem_cons_self) h)

/-- After any events, also cycles with failures and cycles that were given up, a cycle that comes to
its end and a restore that takes a document in leave an enriched inventory. As long as no cycle is given
up, it stays enriched throughout. Enriching twice is enriching once, and but for the compositions of
claims it changes nothing. -/
theorem enriched_at_boundaries (w : Tracker σ κ) (history : List (Event σ)) :
    (∀ e, (w.undergoAll history).Completes e →
      ((w.undergoAll history).undergo e).inventory.Enriched) ∧
    (w.inventory.Enriched →
      (∀ e ∈ history, ∀ settings served r steps, e ≠ .abandoned settings served r steps) →
        (w.undergoAll history).inventory.Enriched) ∧
    ∀ i : Inventory, i.enrich.enrich = i.enrich ∧ i.enrich.composites = i.composites ∧
      ∀ k : String, i.enrich.claims[k]?.map Claim.bare = i.claims[k]?.map Claim.bare :=
  ⟨fun _ => enriched_of_completes, fun h whole => enriched_undergoAll whole h,
    fun i => ⟨i.enrich_enrich, i.enrich_composites, i.bare_enrich⟩⟩

/-- What a tracker has recorded that was stopped before it enriched. -/
def unenriched : Inventory :=
  (∅ : Inventory).run (Durable.sampleOperations.take 2)

/-- A tracker with a document of it. -/
def documentedTracker : Tracker Cluster Slot where
  source := { pageSize := 500 }
  store := .durable
    ⟨∅, { body := some (Durable.document unenriched sampleMoment) },
      (Durable.document unenriched sampleMoment).length, false⟩

/-- After a troubled cycle and a restart the document is restored, and the claim in it gets the
composition of the composite. -/
theorem restored_after_trouble :
    let history := [.cycle sampleSettings true troubledRound, .restart]
    let w := documentedTracker.undergoAll history
    w.inventory.Enriched ∧ w.Completes .restore ∧ (w.undergo .restore).inventory.Enriched ∧
      (w.undergo (.cycle sampleSettings true troubledRound)).inventory.Enriched := by
  intro history w
  have held : ∃ d, w.store = .durable d ∧
      (Keep.get d.limit d.keep).1 = .ok (some (Durable.document unenriched sampleMoment)) ∧
        (Durable.document unenriched sampleMoment).length ≤ d.limit :=
    ⟨_, rfl, rfl, Nat.le_refl _⟩
  obtain ⟨d, durable, found, fits⟩ := held
  have ok := (Durable.restore_of_found found fits (Snapshot.decode_encode _)).1
  have completes : w.Completes .restore := .restore durable found ok
  have whole : ∀ e ∈ history, ∀ settings served r steps, e ≠ .abandoned settings served r steps := by
    intro e he settings served r steps given
    subst given
    simp [history] at he
  obtain ⟨enriched, throughout, -⟩ := enriched_at_boundaries documentedTracker history
  exact ⟨throughout Inventory.enriched_empty whole, completes, enriched _ completes,
    enriched _ (.cycle _ _ _)⟩

end Tracker

end ClaimTracker
