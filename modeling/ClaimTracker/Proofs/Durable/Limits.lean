import ClaimTracker.Proofs.Durable.Restore
import ClaimTracker.Proofs.Snapshot.Size

/-!
# Documents beyond the limit

The limit on the length of a document is kept by restores only. A persist writes the inventory however
long its document gets, and overwrites the one before. So whether the next start finds what was persisted
is a matter of that length alone, and the length is known: it grows with every record.
-/

namespace ClaimTracker.Durable

variable {κ : Type} [Keep κ]

def snapshotOf (i : Inventory) (now : Instant) : Snapshot := ⟨i.claimList, i.compositeList, now⟩

/-- How long the document of an inventory is: its records, the moment, and the frame. -/
def documentSize (i : Inventory) (now : Instant) : Nat :=
  (snapshotOf i now).claimsSize + (snapshotOf i now).compositesSize +
    (Json.text now.text).size + Snapshot.frameSize

lemma length_document (i : Inventory) (now : Instant) :
    (document i now).length = documentSize i now :=
  Snapshot.length_encode (snapshotOf i now)

def leastSize (i : Inventory) : Nat :=
  i.claimCount * Claim.leastSize + i.compositeCount * Composite.leastSize

lemma leastSize_lt_documentSize (i : Inventory) (now : Instant) :
    leastSize i < documentSize i now := by
  have claims := (snapshotOf i now).length_mul_le_claimsSize
  have composites := (snapshotOf i now).length_mul_le_compositesSize
  have claimCount : (snapshotOf i now).claims.length = i.claimCount := Table.length_records i.claims
  have compositeCount : (snapshotOf i now).composites.length = i.compositeCount :=
    Table.length_records i.composites
  rw [claimCount] at claims
  rw [compositeCount] at composites
  rw [leastSize, documentSize, Snapshot.frameSize]
  omega

/-- A served document is restored if it does not exceed the limit. -/
lemma restored_iff_of_serves {d : Durable κ} {i : Inventory} {now : Instant}
    (served : Keep.Serves d.keep (document i now)) :
    (d.restore.1 = .ok () ↔ (document i now).length ≤ d.limit) ∧
      ((∃ e, d.restore.1 = .error e ∧ e.IsTooLarge d.limit) ↔
        d.limit < (document i now).length) := by
  rcases Nat.lt_or_ge d.limit (document i now).length with long | fits
  · obtain ⟨e, failed, tooLarge, -⟩ := restore_of_tooLong served long
    rw [failed]
    refine ⟨⟨?_, fun fits => absurd long (Nat.not_lt.mpr fits)⟩, fun _ => long,
      fun _ => ⟨e, rfl, tooLarge⟩⟩
    rintro ⟨⟩
  · have ok := (restore_of_found (served.found fits) fits (Snapshot.decode_encode _)).1
    rw [ok]
    refine ⟨⟨fun _ => fits, fun _ => rfl⟩, ?_, fun long => absurd long (Nat.not_lt.mpr fits)⟩
    rintro ⟨e, failed, -⟩
    cases failed

/-- What a persist has written is restored from the same keep, by whichever inventory and under whichever
limit, if and only if the document does not exceed the limit; otherwise it is refused for its length. The
length is that of the records, the moment and the frame. An inventory of too many records is always
refused.
-/
theorem restored_iff_fits {d : Durable κ} {now : Instant} (done : (d.persist now).1 = some (.ok ()))
    (retains : Keep.Retains d.keep) {again : Durable κ}
    (same : again.keep = (d.persist now).2.keep) :
    (again.restore.1 = .ok () ↔ (document d.inventory now).length ≤ again.limit) ∧
      ((∃ e, again.restore.1 = .error e ∧ e.IsTooLarge again.limit) ↔
        again.limit < (document d.inventory now).length) ∧
      (document d.inventory now).length = documentSize d.inventory now ∧
      (again.limit ≤ leastSize d.inventory →
        ∃ e, again.restore.1 = .error e ∧ e.IsTooLarge again.limit) := by
  have served : Keep.Serves again.keep (document d.inventory now) := by
    rw [same]
    exact serves_of_persist done retains
  obtain ⟨restored, refused⟩ := restored_iff_of_serves served
  refine ⟨restored, refused, length_document d.inventory now, fun many => refused.mpr ?_⟩
  rw [length_document]
  exact Nat.lt_of_le_of_lt many (leastSize_lt_documentSize d.inventory now)

/-- The document of an inventory with two records, and a limit that it does not exceed. -/
theorem restored_at_limit :
    let d : Durable Slot := ⟨(∅ : Inventory).run sampleOperations, {}, defaultLimit, false⟩
    let again : Durable Slot :=
      ⟨∅, (d.persist earlyMoment).2.keep, documentSize d.inventory earlyMoment, false⟩
    (d.persist earlyMoment).1 = some (.ok ()) ∧ Keep.Retains d.keep ∧
      again.restore.1 = .ok () := by
  intro d again
  have done : (d.persist earlyMoment).1 = some (.ok ()) := by
    rw [persist_of_unlocked rfl]
    rfl
  have retains : Keep.Retains d.keep := Slot.retains rfl
  have same : again.keep = (d.persist earlyMoment).2.keep := rfl
  have fits : (document d.inventory earlyMoment).length ≤ again.limit :=
    Nat.le_of_eq (length_document d.inventory earlyMoment)
  exact ⟨done, retains, (restored_iff_fits done retains same).1.mpr fits⟩

/-- The document of an inventory that has a claim is longer than that of an empty one. -/
lemma documentSize_lt_of_claim {i : Inventory} {c : Claim} (stored : c ∈ i.claimList)
    (now : Instant) : documentSize ∅ now < documentSize i now := by
  have claims : (∅ : Inventory).claimList = [] := Table.records_empty
  have composites : (∅ : Inventory).compositeList = [] := Table.records_empty
  have empty : documentSize ∅ now = (Json.text now.text).size + Snapshot.frameSize := by
    rw [documentSize, snapshotOf, claims, composites, Snapshot.claimsSize, Snapshot.compositesSize]
    simp
  have least := (snapshotOf i now).length_mul_le_claimsSize
  have some : 0 < (snapshotOf i now).claims.length := List.length_pos_of_mem stored
  rw [empty, documentSize]
  simp only [Claim.leastSize] at least
  omega

/-- A start finds the document of an empty inventory and restores it. Then a claim comes, and its document
is written over the other without complaint. The next start, under the same limit, refuses it. -/
theorem restorable_document_overwritten :
    let limit := documentSize ∅ earlyMoment
    let start : Durable Slot := ⟨∅, { body := some (document ∅ earlyMoment) }, limit, false⟩
    let grown : Durable Slot := ⟨(∅ : Inventory).run sampleOperations, start.keep, limit, false⟩
    let next : Durable Slot := ⟨∅, (grown.persist earlyMoment).2.keep, limit, false⟩
    start.restore.1 = .ok () ∧ (grown.persist earlyMoment).1 = some (.ok ()) ∧
      Keep.Retains grown.keep ∧ ∃ e, next.restore.1 = .error e ∧ e.IsTooLarge limit := by
  intro limit start grown next
  have done : (grown.persist earlyMoment).1 = some (.ok ()) := by
    rw [persist_of_unlocked rfl]
    rfl
  have retains : Keep.Retains grown.keep := Slot.retains rfl
  have stored : ∃ c, c ∈ grown.inventory.claimList :=
    ⟨_, Table.mem_records.mpr ⟨"team-a/w1", rfl⟩⟩
  obtain ⟨c, stored⟩ := stored
  have long : limit < (document grown.inventory earlyMoment).length := by
    rw [length_document]
    exact documentSize_lt_of_claim stored earlyMoment
  have restored := restore_of_found (d := start) rfl (Nat.le_of_eq (length_document ∅ earlyMoment))
    (Snapshot.decode_encode _)
  obtain ⟨e, failed, tooLarge, -⟩ :=
    restore_of_tooLong (d := next) (serves_of_persist done retains) long
  exact ⟨restored.1, done, retains, e, failed, tooLarge⟩

end ClaimTracker.Durable
