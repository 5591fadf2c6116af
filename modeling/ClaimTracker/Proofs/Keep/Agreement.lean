import ClaimTracker.Proofs.Keep.Retained
import ClaimTracker.Text.Digits

/-!
# One limit for all keeps

A database looks the length of its document up, a server states it or not, and what it has not stated is
found out by reading one octet more than the limit. All three come to the same: a document is given out
whole if it is not longer than the limit, and refused otherwise. Only the size that is reported tells
them apart.
-/

namespace ClaimTracker

namespace Bucket

variable {σ : Type} [Link σ]

def Answers (b : Bucket σ) (body : Octets) (stated : Bool) : Prop :=
  ∃ status, isSuccess status = true ∧
    (Link.send b.reading b.link).1 = some ⟨status, body, stated⟩

lemma Answers.get_eq {b : Bucket σ} {body : Octets} {stated : Bool} (h : b.Answers body stated)
    (limit : Nat) :
    (Keep.get limit b).1 =
      if limit < body.length then
        .error (.tooLarge (if stated then body.length else limit + 1) limit)
      else .ok (some body) := by
  obtain ⟨status, success, answered⟩ := h
  have read : (Keep.get limit b).1 = readResponse limit (Link.send b.reading b.link).1 := rfl
  rw [read, answered, readResponse, if_pos success, readBody_eq_ite]

end Bucket

lemma Database.get_eq {d : Database} {body : Octets} (h : Keep.held d = some body) (limit : Nat) :
    (Keep.get limit d).1 =
      if limit < body.length then .error (.tooLarge body.length limit) else .ok (some body) := by
  have read : (Keep.get limit d).1 = readRow limit (Keep.held d) := rfl
  rw [read, h, readRow]

namespace Keep

/-- A database and a bucket with the same document give it out whole up to the same limit, and
beyond it both refuse it. The size that is reported is the length of the document, or one more than
the limit where the server has not stated the length. -/
theorem bounded_reads_agree {σ : Type} [Bucket.Link σ] {body : Octets} {d : Database}
    {b : Bucket σ} {stated : Bool} (stored : held d = some body) (answers : b.Answers body stated)
    (limit : UInt64) (below : limit.toNat < maxWord) :
    (body.length ≤ limit.toNat →
      (get limit.toNat d).1 = .ok (some body) ∧ (get limit.toNat b).1 = .ok (some body)) ∧
    (limit.toNat < body.length →
      (get limit.toNat d).1 = .error (.tooLarge body.length limit.toNat) ∧
        (get limit.toNat b).1 = .error (.tooLarge
          (if stated then body.length else (limit + 1).toNat) limit.toNat)) := by
  -- The number of octets to be read is a word itself.
  have next : (limit + 1).toNat = limit.toNat + 1 := by
    rw [UInt64.toNat_add, UInt64.toNat_one]
    apply Nat.mod_eq_of_lt
    rw [maxWord] at below
    omega
  rw [Database.get_eq stored, answers.get_eq, next]
  constructor
  · intro fits
    exact ⟨if_neg (Nat.not_lt.mpr fits), if_neg (Nat.not_lt.mpr fits)⟩
  · intro long
    exact ⟨if_pos long, if_pos long⟩

/-- A server with one object, the length of which it states or not. -/
structure Shelf where
  object : Octets
  statesLength : Bool

instance : Bucket.Link Shelf where
  send r s :=
    if r.method = "PUT" then (some ⟨200, [], true⟩, { s with object := r.body })
    else (some ⟨200, s.object, s.statesLength⟩, s)
  objectAt s _ := some s.object

/-- Three octets under a limit of three and under one of two. -/
theorem three_octets_bounded :
    let body : Octets := [0x7B, 0x20, 0x7D]
    let d : Database := ⟨∅, ":memory:", none, some body, false⟩
    let b : Bucket Shelf := ⟨⟨"bucket", "folder", "region", none⟩, ⟨body, false⟩⟩
    held d = some body ∧ b.Answers body false ∧
      (get 3 d).1 = .ok (some body) ∧ (get 3 b).1 = .ok (some body) ∧
      (get 2 d).1 = .error (.tooLarge 3 2) ∧ (get 2 b).1 = .error (.tooLarge 3 2) := by
  intro body d b
  have stored : held d = some body := rfl
  have answers : b.Answers body false := ⟨200, rfl, rfl⟩
  have fitting := (bounded_reads_agree stored answers 3 (by decide)).1 (by decide)
  have long := (bounded_reads_agree stored answers 2 (by decide)).2 (by decide)
  exact ⟨stored, answers, fitting.1, fitting.2, long.1, long.2⟩

end Keep

end ClaimTracker
