import ClaimTracker.Keep.Bucket
import ClaimTracker.Proofs.Keep.Whole

/-!
# Keeps that give back what they took

When such a keep has said that a document was written, it gives the document out again, or it
refuses the document as too long for the limit, which it may do only if the document is. Slots that
can be read are such keeps, and so are databases that have been opened, and buckets on a server that
answers with what was sent to it.
-/

namespace ClaimTracker

namespace Keep

variable {κ : Type} [Keep κ]

/-- The keep gives out the document under every limit that the document does not exceed; under
others it may refuse it as too long. -/
def Serves (k : κ) (body : Octets) : Prop :=
  ∀ limit, (get limit k).1 = .ok (some body) ∨
    limit < body.length ∧ ∃ size, (get limit k).1 = .error (.tooLarge size limit)

lemma Serves.found {k : κ} {body : Octets} (h : Serves k body) {limit : Nat}
    (fits : body.length ≤ limit) : (get limit k).1 = .ok (some body) := by
  rcases h limit with found | ⟨long, -⟩
  · exact found
  · exact absurd long (Nat.not_lt.mpr fits)

def Retains (k : κ) : Prop :=
  ∀ body, (put body k).1 = .ok () → Serves (put body k).2 body

end Keep

lemma Slot.retains {s : Slot} (h : s.failsToGet = false) : Keep.Retains s := by
  intro body done limit
  cases hp : s.failsToPut with
  | false => exact Or.inl (by simp [Keep.put, Keep.get, h, hp])
  | true => simp [Keep.put, hp] at done

lemma Database.TakesRows.retains {d : Database} (h : d.TakesRows) : Keep.Retains d := by
  intro body done limit
  have row : (Keep.put body d).2.body = some body := by
    rcases h.writesWhole body with ⟨-, held⟩ | ⟨⟨e, failed⟩, -⟩
    · exact held
    · rw [done] at failed
      cases failed
  have read : (Keep.get limit (Keep.put body d).2).1 = readRow limit (some body) := by
    rw [← row]
    rfl
  by_cases long : limit < body.length
  · exact Or.inr ⟨long, body.length, by simp [read, readRow, long]⟩
  · exact Or.inl (by simp [read, readRow, long])

/-- An opened database gives back what was written to it. -/
lemma Database.retains_of_connect {disk : Disk} {path : String} {d : Database}
    (h : connect disk path = .ok d) : Keep.Retains d :=
  (takesRows_of_connect h).retains

namespace Bucket

variable {σ : Type} [Link σ]

def writing (b : Bucket σ) (body : Octets) : Request :=
  ⟨"PUT", b.objectPath, some "application/json", body⟩

def reading (b : Bucket σ) : Request :=
  ⟨"GET", b.objectPath, none, []⟩

/-- The server answers with the document that it has accepted. -/
def AnswersBack (b : Bucket σ) : Prop :=
  ∀ body r, (Link.send (b.writing body) b.link).1 = some r → isSuccess r.status = true →
    ∃ answer, (Link.send b.reading (Link.send (b.writing body) b.link).2).1 = some answer ∧
      isSuccess answer.status = true ∧ answer.body = body

/-- Whether the length is stated or found out by reading one octet too many, the limit is the same. -/
lemma readBody_eq_ite (limit : Nat) (r : Response) :
    readBody limit r =
      if limit < r.body.length then
        .error (.tooLarge (if r.statesLength then r.body.length else limit + 1) limit)
      else .ok (some r.body) := by
  unfold readBody
  by_cases long : limit < r.body.length
  · have read : (r.body.take (limit + 1)).length = limit + 1 :=
      List.length_take_of_le (Nat.succ_le_of_lt long)
    cases stated : r.statesLength with
    | true => simp [long]
    | false => simp [long, read]
  · have read : r.body.take (limit + 1) = r.body := List.take_of_length_le (by omega)
    simp [long, read]

lemma readBody_eq (limit : Nat) (r : Response) :
    readBody limit r = .ok (some r.body) ∨
      limit < r.body.length ∧ ∃ size, readBody limit r = .error (.tooLarge size limit) := by
  rw [readBody_eq_ite]
  by_cases long : limit < r.body.length
  · exact Or.inr ⟨long, _, if_pos long⟩
  · exact Or.inl (if_neg long)

/-- A bucket gives back what was written to it if its server does. -/
lemma retains {b : Bucket σ} (h : b.AnswersBack) : Keep.Retains b := by
  intro body done limit
  have sent : (Keep.put body b).1 = writeResponse (Link.send (b.writing body) b.link).1 := rfl
  cases accepted : (Link.send (b.writing body) b.link).1 with
  | none => simp [sent, accepted, writeResponse] at done
  | some r =>
    have success : isSuccess r.status = true := by
      cases hr : isSuccess r.status with
      | true => rfl
      | false => simp [sent, accepted, writeResponse, hr] at done
    obtain ⟨answer, answered, found, same⟩ := h body r accepted success
    have got : (Keep.get limit (Keep.put body b).2).1 = readResponse limit (some answer) := by
      rw [← answered]
      rfl
    rw [got, readResponse, if_pos found, ← same]
    exact readBody_eq limit answer

end Bucket

end ClaimTracker
