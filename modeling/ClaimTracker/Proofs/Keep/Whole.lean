import ClaimTracker.Keep.Database
import ClaimTracker.Keep.Slot
import Mathlib.Tactic.Lemma

/-!
# Keeps that write whole documents

Such a keep either holds a document as soon as it has said that it was written, or says that it was
not and holds what it held before. It does so after any number of writes. Slots are such keeps, and
so are databases that have been opened.
-/

namespace ClaimTracker

namespace Keep

variable {κ : Type} [Keep κ]

def putAll (k : κ) (bodies : List Octets) : κ :=
  bodies.foldl (fun k body => (put body k).2) k

/-- The write is done and the document is held, or it is not done and nothing has changed. -/
def WritesWhole (k : κ) (body : Octets) : Prop :=
  (put body k).1 = .ok () ∧ held (put body k).2 = some body ∨
    (∃ e, (put body k).1 = .error e) ∧ held (put body k).2 = held k

/-- Every write is done as a whole or not at all, whatever has been written before. -/
def Whole (k : κ) : Prop :=
  ∀ bodies body, WritesWhole (putAll k bodies) body

lemma Whole.writes {k : κ} (h : Whole k) (body : Octets) : WritesWhole k body :=
  h [] body

lemma Whole.put {k : κ} (h : Whole k) (body : Octets) : Whole (put body k).2 :=
  fun bodies => h (body :: bodies)

/-- Every write that is said to be done is done, and one that is not has been done all the same or has
changed nothing, whatever has been written before. -/
def Overwrites (k : κ) : Prop :=
  ∀ bodies body, held (Keep.put body (putAll k bodies)).2 = some body ∨
    (∃ e, (Keep.put body (putAll k bodies)).1 = .error e) ∧
      held (Keep.put body (putAll k bodies)).2 = held (putAll k bodies)

lemma Overwrites.writes {k : κ} (h : Overwrites k) (body : Octets) :
    held (Keep.put body k).2 = some body ∨
      (∃ e, (Keep.put body k).1 = .error e) ∧ held (Keep.put body k).2 = held k :=
  h [] body

lemma Overwrites.put {k : κ} (h : Overwrites k) (body : Octets) : Overwrites (Keep.put body k).2 :=
  fun bodies => h (body :: bodies)

lemma Whole.overwrites {k : κ} (h : Whole k) : Overwrites k := by
  intro bodies body
  rcases h bodies body with ⟨-, written⟩ | kept
  · exact Or.inl written
  · exact Or.inr kept

/-- What every write preserves and what makes it whole makes all writes whole. -/
lemma whole_of_invariant {k : κ} (Inv : κ → Prop) (start : Inv k)
    (step : ∀ k body, Inv k → Inv (Keep.put body k).2)
    (writes : ∀ k body, Inv k → WritesWhole k body) : Whole k := by
  intro bodies body
  refine writes _ body ?_
  induction bodies generalizing k with
  | nil => exact start
  | cons b bodies ih => exact ih (step k b start)

end Keep

lemma Slot.whole (s : Slot) : Keep.Whole s := by
  refine Keep.whole_of_invariant (fun _ => True) trivial (fun _ _ _ => trivial) fun s body _ => ?_
  cases h : s.failsToPut with
  | false => exact Or.inl ⟨by simp [Keep.put, h], by simp [Keep.put, Keep.held, h]⟩
  | true => exact Or.inr ⟨⟨.failed "disk full", by simp [Keep.put, h]⟩, by simp [Keep.put, h]⟩

namespace Database

/-- A row that is written is there. -/
def TakesRows (d : Database) : Prop :=
  ∀ body, (d.writeRow body).body = some body

lemma takesRows_of_private {d : Database} (h : d.file = none) : d.TakesRows := by
  intro body
  simp [writeRow, Database.body, h]

/-- A file with a table takes rows, whatever is in its row. -/
lemma takesRows_of_table (disk : Disk) (path : String) (file : List Octets) (content : DatabaseFile)
    (row : Option Octets) (isReadOnly : Bool) :
    TakesRows ⟨disk.insert file (some content), path, some file, row, isReadOnly⟩ := by
  intro body
  simp [writeRow, Database.body]

lemma TakesRows.writeRow {d : Database} (h : d.TakesRows) (b : Octets) :
    (d.writeRow b).TakesRows := by
  intro body
  have first := h b
  cases hf : d.file with
  | none => simp [Database.writeRow, Database.body, hf]
  | some file =>
    -- The file has a table, because the row can be written once.
    simp only [Database.writeRow, hf, Database.body, Std.ExtTreeMap.getElem?_modify_self] at first ⊢
    cases found : d.disk[file]? with
    | none => simp [found] at first
    | some table =>
      cases table with
      | none => simp [found] at first
      | some content => simp

lemma TakesRows.put {d : Database} (h : d.TakesRows) (body : Octets) :
    (d.put body).2.TakesRows := by
  unfold Database.put
  split
  · exact h
  · exact h.writeRow body

lemma TakesRows.writesWhole {d : Database} (h : d.TakesRows) (body : Octets) :
    Keep.WritesWhole d body := by
  cases hr : d.isReadOnly with
  | true =>
    refine Or.inr ⟨⟨.failed "attempt to write a readonly database", ?_⟩, ?_⟩
    · simp [Keep.put, Database.put, hr]
    · simp [Keep.put, Database.put, hr]
  | false =>
    refine Or.inl ⟨by simp [Keep.put, Database.put, hr], ?_⟩
    simp [Keep.put, Keep.held, Database.put, hr, h body]

lemma TakesRows.whole {d : Database} (h : d.TakesRows) : Keep.Whole d :=
  Keep.whole_of_invariant TakesRows h (fun _ body h => h.put body)
    fun _ body h => h.writesWhole body

/-- An opened database takes rows. -/
lemma takesRows_of_connect {disk : Disk} {path : String} {d : Database}
    (h : connect disk path = .ok d) : d.TakesRows := by
  unfold connect at h
  split at h
  · cases h
  split at h
  · cases h
  split at h
  · split at h
    · cases h
    · cases h
      exact takesRows_of_private rfl
  split at h
  · rename_i file _
    unfold openFile at h
    split at h
    · dsimp only at h
      split at h
      · cases h
        exact takesRows_of_table _ _ _ _ _ _
      · cases h
    · cases h
  · cases h

/-- An opened database writes whole documents. -/
lemma whole_of_connect {disk : Disk} {path : String} {d : Database}
    (h : connect disk path = .ok d) : Keep.Whole d :=
  (takesRows_of_connect h).whole

end Database

end ClaimTracker
