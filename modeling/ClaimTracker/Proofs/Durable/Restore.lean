import ClaimTracker.Proofs.Durable.Persist
import ClaimTracker.Proofs.Durable.Replay
import ClaimTracker.Proofs.Keep.Retained
import ClaimTracker.Proofs.Snapshot

/-!
# Persisting and restoring

A document that has been persisted is restored into an empty inventory as the inventory that it was
written from, but for the compositions, which are looked up anew. Only a document that is longer
than the limit is refused, and then nothing is changed.
-/

namespace ClaimTracker.Durable

def RestoreError.IsTooLarge (limit : Nat) : RestoreError → Prop
  | .get _ (.tooLarge _ l) | .tooLarge _ l => l = limit
  | .get _ (.failed _) | .unreadable _ => False

variable {κ : Type} [Keep κ]

/-- The keep hands out a document that is not too long, and it is the document of a snapshot. -/
structure Accepts (d : Durable κ) (body : Octets) (s : Snapshot) : Prop where
  found : (Keep.get d.limit d.keep).1 = .ok (some body)
  fits : body.length ≤ d.limit
  decoded : Snapshot.decode body = .ok s

/-- The inventory with the keep as it is once it has been read. -/
def afterReading (d : Durable κ) : Durable κ :=
  { d with keep := (Keep.get d.limit d.keep).2 }

section Outcome

variable {d : Durable κ} {body : Octets}

lemma restore_of_failed {e : Keep.Error} (found : (Keep.get d.limit d.keep).1 = .error e) :
    d.restore = (.error (.get (Keep.location d.keep) e), d.afterReading) := by
  simp [restore, found, afterReading]

lemma restore_of_absent (found : (Keep.get d.limit d.keep).1 = .ok none) :
    d.restore = (.ok (), d.afterReading) := by
  simp [restore, found, afterReading]

lemma restore_of_long (found : (Keep.get d.limit d.keep).1 = .ok (some body))
    (long : d.limit < body.length) :
    d.restore = (.error (.tooLarge body.length d.limit), d.afterReading) := by
  simp [restore, found, readDocument, long, afterReading]

lemma restore_of_undecoded {e : Json.ReadError}
    (found : (Keep.get d.limit d.keep).1 = .ok (some body)) (fits : body.length ≤ d.limit)
    (undecoded : Snapshot.decode body = .error e) :
    d.restore = (.error (.unreadable e), d.afterReading) := by
  have read : readDocument d.limit body = .error (.unreadable e) := by
    rw [readDocument, if_neg (Nat.not_lt.mpr fits), undecoded]
    rfl
  simp [restore, found, read, afterReading]

lemma restore_of_accepts {s : Snapshot} (h : d.Accepts body s) :
    d.restore = (.ok (), { d.afterReading with inventory := replay d.inventory s }) := by
  have read : readDocument d.limit body = .ok s := by
    rw [readDocument, if_neg (Nat.not_lt.mpr h.fits), h.decoded]
    rfl
  simp [restore, h.found, read, afterReading]

/-- All that can come of a restore. -/
lemma restore_cases (d : Durable κ) :
    (∃ e, (Keep.get d.limit d.keep).1 = .error e ∧
        d.restore = (.error (.get (Keep.location d.keep) e), d.afterReading)) ∨
      ((Keep.get d.limit d.keep).1 = .ok none ∧ d.restore = (.ok (), d.afterReading)) ∨
      (∃ body, (Keep.get d.limit d.keep).1 = .ok (some body) ∧ d.limit < body.length ∧
        d.restore = (.error (.tooLarge body.length d.limit), d.afterReading)) ∨
      (∃ body e, (Keep.get d.limit d.keep).1 = .ok (some body) ∧ body.length ≤ d.limit ∧
        Snapshot.decode body = .error e ∧
        d.restore = (.error (.unreadable e), d.afterReading)) ∨
      ∃ body s, d.Accepts body s ∧
        d.restore = (.ok (), { d.afterReading with inventory := replay d.inventory s }) := by
  cases found : (Keep.get d.limit d.keep).1 with
  | error e => exact Or.inl ⟨e, rfl, restore_of_failed found⟩
  | ok body? =>
    refine Or.inr ?_
    cases body? with
    | none => exact Or.inl ⟨rfl, restore_of_absent found⟩
    | some body =>
      refine Or.inr ?_
      rcases Nat.lt_or_ge d.limit body.length with long | fits
      · exact Or.inl ⟨body, rfl, long, restore_of_long found long⟩
      · refine Or.inr ?_
        cases decoded : Snapshot.decode body with
        | error e => exact Or.inl ⟨body, e, rfl, fits, decoded, restore_of_undecoded found fits decoded⟩
        | ok s =>
          have accepts : d.Accepts body s := ⟨found, fits, decoded⟩
          exact Or.inr ⟨body, s, accepts, restore_of_accepts accepts⟩

end Outcome

lemma restore_of_found {d : Durable κ} {body : Octets} {s : Snapshot}
    (found : (Keep.get d.limit d.keep).1 = .ok (some body)) (fits : body.length ≤ d.limit)
    (decoded : Snapshot.decode body = .ok s) :
    d.restore.1 = .ok () ∧ d.restore.2.inventory = replay d.inventory s := by
  rw [restore_of_accepts ⟨found, fits, decoded⟩]
  exact ⟨rfl, rfl⟩

/-- However the keep answers, a document that is too long is refused. -/
lemma restore_of_tooLong {d : Durable κ} {body : Octets} (served : Keep.Serves d.keep body)
    (long : d.limit < body.length) :
    ∃ e, d.restore.1 = .error e ∧ e.IsTooLarge d.limit ∧ d.restore.2.inventory = d.inventory := by
  rcases served d.limit with found | ⟨-, size, refused⟩
  · rw [restore_of_long found long]
    exact ⟨_, rfl, rfl, rfl⟩
  · rw [restore_of_failed refused]
    exact ⟨_, rfl, rfl, rfl⟩

/-- After a persist that was done, the keep serves the document of the inventory. -/
lemma serves_of_persist {now : Instant} {d : Durable κ} (done : (d.persist now).1 = some (.ok ()))
    (retains : Keep.Retains d.keep) :
    Keep.Serves (d.persist now).2.keep (document d.inventory now) := by
  cases locked : d.locked with
  | true =>
    rw [persist_of_locked locked] at done
    cases done
  | false =>
    rw [persist_of_unlocked locked] at done ⊢
    refine retains _ ?_
    cases put : (Keep.put (document d.inventory now) d.keep).1 with
    | ok u => rfl
    | error e =>
      rw [put] at done
      cases done

/-- A served document that is not too long is restored into an empty inventory. -/
lemma restore_of_serves {d : Durable κ} {i : Inventory} {now : Instant} (empty : d.inventory = ∅)
    (keyed : i.Keyed) (served : Keep.Serves d.keep (document i now))
    (fits : (document i now).length ≤ d.limit) :
    d.restore.1 = .ok () ∧ d.restore.2.inventory = i.enrich := by
  obtain ⟨ok, restored⟩ := restore_of_found (served.found fits) fits (Snapshot.decode_encode _)
  rw [empty, replay_records keyed now] at restored
  exact ⟨ok, restored⟩

/-- An inventory in any use is persisted, and restored into an empty one from the same keep. If the
document does not exceed the limit, the restored inventory is the persisted one enriched. So if that
was enriched already, the two are the same and remain so under the same operations. A document that
exceeds the limit is refused for its length. -/
theorem restore_of_persist (ops : List Inventory.Operation) (d : Durable κ) (now : Instant)
    (limit : Nat) (reached : d.inventory = (∅ : Inventory).run ops)
    (done : (d.persist now).1 = some (.ok ())) (retains : Keep.Retains d.keep) :
    let persisted := (d.persist now).2
    let fresh : Durable κ := ⟨∅, persisted.keep, limit, false⟩
    let length := (document d.inventory now).length
    (length ≤ limit → fresh.restore.1 = .ok () ∧
      fresh.restore.2.inventory = d.inventory.enrich ∧
      (d.inventory.enrich = d.inventory → ∀ later,
        fresh.restore.2.inventory.run later = persisted.inventory.run later)) ∧
    (limit < length → ∃ e, fresh.restore.1 = .error e ∧ e.IsTooLarge limit ∧
      fresh.restore.2.inventory = ∅) := by
  intro persisted fresh length
  have served : Keep.Serves fresh.keep (document d.inventory now) := serves_of_persist done retains
  have keyed : d.inventory.Keyed := by
    rw [reached]
    exact Inventory.keyed_run ops
  constructor
  · intro fits
    have found : (Keep.get limit fresh.keep).1 = .ok (some (document d.inventory now)) := by
      rcases served limit with found | ⟨long, -⟩
      · exact found
      · exact absurd long (Nat.not_lt.mpr fits)
    obtain ⟨ok, restored⟩ := restore_of_found (d := fresh) found fits (Snapshot.decode_encode _)
    rw [show fresh.inventory = ∅ from rfl, replay_records keyed now] at restored
    refine ⟨ok, restored, fun enriched later => ?_⟩
    rw [restored, enriched, persist_inventory]
  · intro long
    exact restore_of_tooLong (d := fresh) served long

/-- A leap second before the first year. -/
def earlyMoment : Instant :=
  ((Date.of? (-1) 12 31).bind fun date => Instant.of? date 23 59 59 1500000000).get rfl

def referredComposite : Composite where
  partition := ""
  group := "g"
  kind := "XWidget"
  ns := ""
  name := "x1"
  composition := "prod"
  origin := .central
  ready := true
  reason := "Available"
  createdAt := some earlyMoment

/-- A claim that refers to it, of a creator with a quoted name. -/
def referringClaim : Claim where
  partition := ""
  group := "g"
  kind := "Widget"
  ns := "team-a"
  name := "w1"
  creator := some "\"alice\"\n"
  team := none
  composition := ""
  origin := .declared
  ready := false
  reason := ""
  createdAt := none
  compositeName := "x1"

/-- What was done to an inventory that has been enriched. -/
def sampleOperations : List Inventory.Operation :=
  [.replace (.composites "g/v1/xwidgets" [referredComposite]),
    .replace (.claims "g/v1/widgets" [referringClaim]), .enrich]

/-- A slot under the same limit as the length of the document gives the inventory back. -/
theorem restored_from_slot :
    let d : Durable Slot := ⟨(∅ : Inventory).run sampleOperations, {}, defaultLimit, false⟩
    let fresh : Durable Slot :=
      ⟨∅, (d.persist earlyMoment).2.keep, (document d.inventory earlyMoment).length, false⟩
    (d.persist earlyMoment).1 = some (.ok ()) ∧ Keep.Retains d.keep ∧
      fresh.restore.1 = .ok () ∧
      fresh.restore.2.inventory = (∅ : Inventory).run sampleOperations := by
  intro d fresh
  have done : (d.persist earlyMoment).1 = some (.ok ()) := by
    rw [persist_of_unlocked rfl]
    rfl
  have retains : Keep.Retains d.keep := Slot.retains rfl
  have restored := (restore_of_persist sampleOperations d earlyMoment
    (document d.inventory earlyMoment).length rfl done retains).1 (Nat.le_refl _)
  have enriched : d.inventory.enrich = d.inventory := Inventory.enrich_enrich _
  exact ⟨done, retains, restored.1, restored.2.1.trans enriched⟩

end ClaimTracker.Durable
