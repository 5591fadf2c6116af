import ClaimTracker.Proofs.Durable.Restore
import ClaimTracker.Proofs.Snapshot.Malformed

/-!
# Restoring step by step

A restore reads a document, looks at its length, decodes it, and then replaces one partition after the
other. It does nothing to the inventory before it has the whole snapshot, and when it has that nothing
can go wrong any more. So a restore that fails leaves the inventory alone at each of its steps, however
much of the document was good.
-/

namespace ClaimTracker.Durable

/-- What a snapshot is replayed as: the partitions of the composites, those of the claims, and an
enrichment. -/
def operations (s : Snapshot) : List Inventory.Operation :=
  (byPartition s.composites).map (fun c => .replace (.composites c.1 c.2)) ++
    (byPartition s.claims).map (fun c => .replace (.claims c.1 c.2)) ++ [.enrich]

lemma run_operations (i : Inventory) (s : Snapshot) : i.run (operations s) = replay i s := by
  simp only [operations, Inventory.run, List.foldl_append, List.foldl_map]
  rfl

inductive Stage where
  | reading
  | measuring (body : Octets)
  | decoding (body : Octets)
  | replaying (ops : List Inventory.Operation)
  | done (result : Except RestoreError Unit)

variable {κ : Type} [Keep κ]

/-- Takes a restore one step further. -/
def proceed (stage : Stage) (d : Durable κ) : Stage × Durable κ :=
  match stage with
  | .reading =>
    let (found, keep) := Keep.get d.limit d.keep
    let stage := match found with
      | .error e => .done (.error (.get (Keep.location d.keep) e))
      | .ok none => .done (.ok ())
      | .ok (some body) => .measuring body
    (stage, { d with keep })
  | .measuring body =>
    if d.limit < body.length then (.done (.error (.tooLarge body.length d.limit)), d)
    else (.decoding body, d)
  | .decoding body =>
    match Snapshot.decode body with
    | .error e => (.done (.error (.unreadable e)), d)
    | .ok s => (.replaying (operations s), d)
  | .replaying [] => (.done (.ok ()), d)
  | .replaying (op :: ops) => (.replaying ops, { d with inventory := op.apply d.inventory })
  | .done result => (.done result, d)

def proceedBy : Nat → Stage → Durable κ → Stage × Durable κ
  | 0, stage, d => (stage, d)
  | n + 1, stage, d =>
    let (stage, d) := d.proceed stage
    d.proceedBy n stage

def restoring (d : Durable κ) (n : Nat) : Stage × Durable κ :=
  d.proceedBy n .reading

/-- Neither when it has ended nor at any step before has a restore changed the inventory. -/
def LeavesInventory (d : Durable κ) : Prop :=
  d.restore.2.inventory = d.inventory ∧ ∀ n, (d.restoring n).2.inventory = d.inventory

/-- What a restore has found out at a stage, and what it has done to the inventory. -/
inductive Reaches (d : Durable κ) : Stage → Durable κ → Prop
  | reading : Reaches d .reading d
  | measuring {body : Octets} (found : (Keep.get d.limit d.keep).1 = .ok (some body)) :
    Reaches d (.measuring body) d.afterReading
  | decoding {body : Octets} (found : (Keep.get d.limit d.keep).1 = .ok (some body))
    (fits : body.length ≤ d.limit) : Reaches d (.decoding body) d.afterReading
  | replaying {body : Octets} {s : Snapshot} {before after : List Inventory.Operation}
    (accepts : d.Accepts body s) (split : operations s = before ++ after) :
    Reaches d (.replaying after) { d.afterReading with inventory := d.inventory.run before }
  | done : Reaches d (.done d.restore.1) d.restore.2

variable {d e : Durable κ} {stage : Stage}

lemma reaches_done {result : Except RestoreError Unit} (h : d.restore = (result, e)) :
    Reaches d (.done result) e := by
  have reached := Reaches.done (d := d)
  rwa [h] at reached

/-- What is known at a stage is known at the next one, which comes after one more step. -/
lemma Reaches.proceed (h : Reaches d stage e) :
    Reaches d (e.proceed stage).1 (e.proceed stage).2 := by
  cases h with
  | reading =>
    cases found : (Keep.get d.limit d.keep).1 with
    | error cause =>
      have step : d.proceed .reading =
          (.done (.error (.get (Keep.location d.keep) cause)), d.afterReading) := by
        simp [Durable.proceed, found, afterReading]
      rw [step]
      exact reaches_done (restore_of_failed found)
    | ok body? =>
      cases body? with
      | none =>
        have step : d.proceed .reading = (.done (.ok ()), d.afterReading) := by
          simp [Durable.proceed, found, afterReading]
        rw [step]
        exact reaches_done (restore_of_absent found)
      | some body =>
        have step : d.proceed .reading = (.measuring body, d.afterReading) := by
          simp [Durable.proceed, found, afterReading]
        rw [step]
        exact .measuring found
  | @measuring body found =>
    have limit : d.afterReading.limit = d.limit := rfl
    by_cases long : d.limit < body.length
    · rw [Durable.proceed, limit, if_pos long]
      exact reaches_done (restore_of_long found long)
    · rw [Durable.proceed, limit, if_neg long]
      exact .decoding found (Nat.le_of_not_lt long)
  | @decoding body found fits =>
    cases decoded : Snapshot.decode body with
    | error cause =>
      rw [Durable.proceed, decoded]
      exact reaches_done (restore_of_undecoded found fits decoded)
    | ok s =>
      rw [Durable.proceed, decoded]
      have nothing : operations s = [] ++ operations s := rfl
      exact .replaying ⟨found, fits, decoded⟩ nothing
  | @replaying body s before after accepts split =>
    cases after with
    | nil =>
      -- All of the operations of the snapshot are done.
      have whole := restore_of_accepts accepts
      rw [← run_operations, split, List.append_nil] at whole
      exact reaches_done whole
    | cons op after =>
      have next : operations s = (before ++ [op]) ++ after := by
        rw [split, List.append_assoc]
        rfl
      have reached := Reaches.replaying accepts next
      rw [Inventory.run_append] at reached
      exact reached
  | done => exact .done

lemma reaches_proceedBy (h : Reaches d stage e) (n : Nat) :
    Reaches d (e.proceedBy n stage).1 (e.proceedBy n stage).2 := by
  induction n generalizing stage e with
  | zero => exact h
  | succ n ih => exact ih h.proceed

lemma reaches_restoring (d : Durable κ) (n : Nat) :
    Reaches d (d.restoring n).1 (d.restoring n).2 :=
  reaches_proceedBy .reading n

lemma Reaches.eq_restore {result : Except RestoreError Unit} (h : Reaches d (.done result) e) :
    result = d.restore.1 ∧ e = d.restore.2 := by
  cases h
  exact ⟨rfl, rfl⟩

/-- If the restore does not take a snapshot in, then it does nothing to the inventory at any stage. -/
lemma Reaches.inventory_eq (h : Reaches d stage e)
    (untaken : ∀ body s, ¬ d.Accepts body s) : e.inventory = d.inventory := by
  cases h with
  | reading | measuring found | decoding found fits => rfl
  | replaying accepts split => exact absurd accepts (untaken _ _)
  | done =>
    rcases restore_cases d with ⟨_, _, ends⟩ | ⟨_, ends⟩ | ⟨_, _, _, ends⟩ | ⟨_, _, _, _, _, ends⟩ |
      ⟨body, s, accepts, -⟩
    · rw [ends]; rfl
    · rw [ends]; rfl
    · rw [ends]; rfl
    · rw [ends]; rfl
    · exact absurd accepts (untaken body s)

section Ending

lemma proceedBy_add (m n : Nat) :
    e.proceedBy (m + n) stage = (e.proceedBy m stage).2.proceedBy n (e.proceedBy m stage).1 := by
  induction m generalizing stage e with
  | zero => rw [Nat.zero_add]; rfl
  | succ m ih => rw [Nat.succ_add]; exact ih

lemma proceedBy_done (n : Nat) (result : Except RestoreError Unit) :
    e.proceedBy n (.done result) = (.done result, e) := by
  induction n with
  | zero => rfl
  | succ n ih => exact ih

/-- Whatever comes after a step is reached by one step more. -/
lemma exists_done_of_proceed
    (h : ∃ n result, ((e.proceed stage).2.proceedBy n (e.proceed stage).1).1 = .done result) :
    ∃ n result, (e.proceedBy n stage).1 = .done result := by
  obtain ⟨n, result, done⟩ := h
  exact ⟨n + 1, result, done⟩

/-- A restore comes to its end: what is before it gets less with every stage, and while it replays,
with every operation. -/
lemma exists_done (e : Durable κ) (stage : Stage) :
    ∃ n result, (e.proceedBy n stage).1 = .done result := by
  have replaying : ∀ (ops : List Inventory.Operation) (e : Durable κ),
      ∃ n result, (e.proceedBy n (.replaying ops)).1 = .done result := by
    intro ops
    induction ops with
    | nil => exact fun e => ⟨1, .ok (), rfl⟩
    | cons op ops ih => exact fun e => exists_done_of_proceed (ih _)
  have decoding : ∀ (body : Octets) (e : Durable κ),
      ∃ n result, (e.proceedBy n (.decoding body)).1 = .done result := by
    refine fun body e => exists_done_of_proceed ?_
    cases decoded : Snapshot.decode body with
    | error cause => exact ⟨0, .error (.unreadable cause), by simp [proceed, decoded, proceedBy]⟩
    | ok s => simpa only [proceed, decoded] using replaying (operations s) e
  have measuring : ∀ (body : Octets) (e : Durable κ),
      ∃ n result, (e.proceedBy n (.measuring body)).1 = .done result := by
    refine fun body e => exists_done_of_proceed ?_
    by_cases long : e.limit < body.length
    · exact ⟨0, .error (.tooLarge body.length e.limit), by simp [proceed, long, proceedBy]⟩
    · simpa only [proceed, if_neg long] using decoding body e
  cases stage with
  | reading =>
    refine exists_done_of_proceed ?_
    cases found : (Keep.get e.limit e.keep).1 with
    | error cause =>
      exact ⟨0, .error (.get (Keep.location e.keep) cause), by simp [proceed, found, proceedBy]⟩
    | ok body? =>
      cases body? with
      | none => exact ⟨0, .ok (), by simp [proceed, found, proceedBy]⟩
      | some body => simpa only [proceed, found] using measuring body _
  | measuring body => exact measuring body e
  | decoding body => exact decoding body e
  | replaying ops => exact replaying ops e
  | done result => exact ⟨0, result, rfl⟩

/-- The steps of a restore lead to what the restore gives. -/
lemma restoring_ends (d : Durable κ) :
    ∃ n, ∀ m, n ≤ m → d.restoring m = (.done d.restore.1, d.restore.2) := by
  obtain ⟨n, result, done⟩ := exists_done d .reading
  have ended : d.restoring n = (.done d.restore.1, d.restore.2) := by
    have reached := reaches_restoring d n
    rw [restoring, done] at reached
    exact Prod.ext (done.trans (congrArg Stage.done reached.eq_restore.1)) reached.eq_restore.2
  refine ⟨n, fun m hm => ?_⟩
  obtain ⟨k, rfl⟩ := Nat.exists_eq_add_of_le hm
  rw [restoring, proceedBy_add]
  rw [restoring] at ended
  rw [ended, proceedBy_done]

end Ending

/-- The document could not be had, was too long, or was none of a snapshot. -/
lemma restore_error_iff (d : Durable κ) :
    (∃ e, d.restore.1 = .error e) ↔
      (∃ e, (Keep.get d.limit d.keep).1 = .error e) ∨
        ∃ body, (Keep.get d.limit d.keep).1 = .ok (some body) ∧
          (d.limit < body.length ∨ ∃ e, Snapshot.decode body = .error e) := by
  rcases restore_cases d with ⟨e, found, ends⟩ | ⟨found, ends⟩ | ⟨body, found, long, ends⟩ |
    ⟨body, e, found, fits, undecoded, ends⟩ | ⟨body, s, ⟨found, fits, decoded⟩, ends⟩
  · simp [ends, found]
  · simp [ends, found]
  · simp [ends, found, long]
  · simp [ends, found, undecoded]
  · simp [ends, found, fits, decoded]

/-- A restore that fails has taken no snapshot in. -/
lemma not_accepts_of_error (failed : ∃ e, d.restore.1 = .error e) (body : Octets) (s : Snapshot) :
    ¬ d.Accepts body s := by
  intro accepts
  obtain ⟨e, failed⟩ := failed
  rw [restore_of_accepts accepts] at failed
  cases failed

lemma leavesInventory_of_not_accepts (untaken : ∀ body s, ¬ d.Accepts body s) :
    d.LeavesInventory :=
  ⟨Reaches.inventory_eq .done untaken, fun n => (reaches_restoring d n).inventory_eq untaken⟩

/-- A restore fails exactly if the keep does, or if it hands out a document that is too long or is none
of a snapshot. The document may go wrong after any number of good records. If the restore fails, or if
there is no document, then neither when it has ended nor at any step before is the inventory another than
it was. -/
theorem restore_all_or_nothing (d : Durable κ) :
    let found := (Keep.get d.limit d.keep).1
    ((∃ e, d.restore.1 = .error e) ↔
      (∃ e, found = .error e) ∨
        ∃ body, found = .ok (some body) ∧
          (d.limit < body.length ∨ ∃ e, Snapshot.decode body = .error e)) ∧
    ((∃ e, d.restore.1 = .error e) → d.LeavesInventory) ∧
    (found = .ok none → d.restore.1 = .ok () ∧ d.LeavesInventory) ∧
    (∀ body e, found = .ok (some body) → body.length ≤ d.limit → Snapshot.GoesWrong body e →
      d.restore.1 = .error (.unreadable e) ∧ d.LeavesInventory) ∧
    ∃ n, ∀ m, n ≤ m → d.restoring m = (.done d.restore.1, d.restore.2) := by
  intro found
  have untouched : (∃ e, d.restore.1 = .error e) → d.LeavesInventory :=
    fun failed => leavesInventory_of_not_accepts (not_accepts_of_error failed)
  refine ⟨restore_error_iff d, untouched, fun absent => ⟨?_, ?_⟩, fun body e handed fits wrong => ?_,
    restoring_ends d⟩
  · rw [restore_of_absent absent]
  · refine leavesInventory_of_not_accepts fun body s accepts => ?_
    cases absent.symm.trans accepts.found
  · have refused := restore_of_undecoded handed fits (Snapshot.decode_of_goesWrong wrong)
    have failed : d.restore.1 = .error (.unreadable e) := by rw [refused]
    exact ⟨failed, untouched ⟨_, failed⟩⟩

/-- A composite and a claim can be read, but the next claim does not say whether it is ready. The
document breaks off after it. -/
theorem late_claim_refused :
    let s : Snapshot := ⟨[], [referredComposite], earlyMoment⟩
    let part := [(.composites, .array (s.composites.map Composite.toJson))]
    let body := Json.octets
      (Snapshot.tokensUpTo part .claims Claim.toJson [referringClaim] (referringClaim.without .ready))
    let d : Durable Slot :=
      ⟨(∅ : Inventory).run sampleOperations, { body := some body }, body.length, false⟩
    d.restore.1 = .error (.unreadable (.mismatch (some (.missingField "ready")))) ∧
      d.LeavesInventory := by
  intro s part body d
  have before : s.Part part := ⟨by simp [part], by simp [part, Snapshot.written]⟩
  have wrong := Snapshot.GoesWrong.claim [referringClaim] before (by simp [part])
    (referringClaim.refuses_without rfl) (referringClaim.isDelimited_without .ready) []
  rw [List.append_nil] at wrong
  exact (restore_all_or_nothing d).2.2.2.1 body _ rfl (Nat.le_refl _) wrong

end ClaimTracker.Durable
