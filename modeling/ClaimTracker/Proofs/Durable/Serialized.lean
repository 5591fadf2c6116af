import ClaimTracker.Proofs.Durable.Course
import ClaimTracker.Proofs.Durable.Restore

/-!
# Persists one after the other

Whichever way the moves of several clients are mixed, persists write in the order in which they have
read. What is held once a persist has succeeded has been read after the call of that persist, by itself
or by a later one, so that everything done to the inventory before the call is in it.
-/

namespace ClaimTracker.Durable

variable {κ : Type} [Keep κ]

lemma advance_of_unlocking {now : Instant} {d : Durable κ} {p : Phase}
    {result : Except PersistError Unit} (h : .unlocking result = (d.advance now p).1) :
    ∃ claims composites, p = .writing claims composites ∧
      result = (Keep.put (Snapshot.encode ⟨claims, composites, now⟩) d.keep).1.mapError
        (.put (Keep.location d.keep)) := by
  cases p with
  | waiting => simp only [advance] at h; split at h <;> cases h
  | writing claims composites =>
    simp only [advance, Phase.unlocking.injEq] at h
    exact ⟨claims, composites, rfl, h⟩
  | _ => cases h

lemma advance_of_done {now : Instant} {d : Durable κ} {p : Phase} {result : Except PersistError Unit}
    (h : .done result = (d.advance now p).1) : p = .unlocking result ∨ p = .done result := by
  cases p with
  | waiting => simp only [advance] at h; split at h <;> cases h
  | unlocking result => cases h; exact Or.inl rfl
  | done result => cases h; exact Or.inr rfl
  | _ => cases h

lemma overwrites_advance {now : Instant} {p : Phase} {d : Durable κ} (h : Keep.Overwrites d.keep) :
    Keep.Overwrites (d.advance now p).2.keep := by
  cases p with
  | writing claims composites => exact h.put _
  | _ => rwa [keep_advance d (by simp)]

namespace Course

variable {c : Course κ} {m n s t : Nat} {now : Instant}

/-- A persist that succeeds has written. -/
lemma exists_put_of_unlocking (h : c.phase n t = some (.unlocking (.ok ()))) :
    ∃ s now claims composites, s < t ∧ c.Takes n s now (.writing claims composites) ∧
      (Keep.put (Snapshot.encode ⟨claims, composites, now⟩) (c.after s).durable.keep).1 = .ok () := by
  obtain ⟨s, now, p, hs, takes, heq⟩ := exists_takes h nofun
  obtain ⟨claims, composites, rfl, result⟩ := advance_of_unlocking heq
  refine ⟨s, now, claims, composites, hs, takes, ?_⟩
  cases put : (Keep.put (Snapshot.encode ⟨claims, composites, now⟩) (c.after s).durable.keep).1 with
  | ok => rfl
  | error e =>
    rw [put] at result
    cases result

/-- A persist that has come back gave the lock back first. -/
lemma exists_unlocking_of_done {result : Except PersistError Unit}
    (h : c.phase n t = some (.done result)) : ∃ s, s < t ∧ c.phase n s = some (.unlocking result) := by
  induction t using Nat.strongRecOn with
  | _ t ih =>
    obtain ⟨s, now, p, hs, takes, heq⟩ := exists_takes h nofun
    rcases advance_of_done heq with rfl | rfl
    · exact ⟨s, hs, takes.2⟩
    · obtain ⟨r, hr, unlocking⟩ := ih s hs takes.2
      exact ⟨r, by omega, unlocking⟩

lemma overwrites_after (h : Keep.Overwrites c.start.keep) (t : Nat) :
    Keep.Overwrites (c.after t).durable.keep := by
  induction t with
  | zero => exact h
  | succ t ih =>
    rcases durable_succ c t with same | ⟨op, -, heq⟩ | ⟨n, now, p, -, heq⟩
    · rwa [same]
    · rwa [heq]
    · rw [heq]
      exact overwrites_advance ih

/-- After a write the document written is held, or it is not held and an error is reported. -/
lemma Takes.held_succ {claims : List Claim} {composites : List Composite}
    (h : Keep.Overwrites c.start.keep) (takes : c.Takes n t now (.writing claims composites)) :
    c.held (t + 1) = some (Snapshot.encode ⟨claims, composites, now⟩) ∨
      (∃ e, (Keep.put (Snapshot.encode ⟨claims, composites, now⟩) (c.after t).durable.keep).1 =
        .error e) ∧ c.held (t + 1) = c.held t := by
  rw [held, takes.after_eq]
  exact (overwrites_after h t).writes _

/-- What is held changes only to what a persist writes. -/
lemma held_succ (h : Keep.Overwrites c.start.keep) (t : Nat) :
    c.held (t + 1) = c.held t ∨
      ∃ n now claims composites, c.Takes n t now (.writing claims composites) ∧
        c.held (t + 1) = some (Snapshot.encode ⟨claims, composites, now⟩) := by
  rcases durable_succ c t with same | ⟨op, -, heq⟩ | ⟨n, now, p, takes, heq⟩
  · exact Or.inl (by rw [held, same, held])
  · exact Or.inl (by rw [held, heq, held])
  · cases p with
    | writing claims composites =>
      rcases takes.held_succ h with written | ⟨-, kept⟩
      · exact Or.inr ⟨n, now, claims, composites, takes, written⟩
      · exact Or.inl kept
    | _ => exact Or.inl (by rw [held, heq, keep_advance _ (by simp), held])

/-- After a write has been done, what is held is what that persist or one after it has written. -/
lemma held_since {claims : List Claim} {composites : List Composite}
    (h : Keep.Overwrites c.start.keep) (takes : c.Takes n s now (.writing claims composites))
    (done : (Keep.put (Snapshot.encode ⟨claims, composites, now⟩) (c.after s).durable.keep).1 = .ok ())
    (hst : s < t) :
    ∃ m r now claims composites, s ≤ r ∧ r < t ∧ c.Takes m r now (.writing claims composites) ∧
      c.held t = some (Snapshot.encode ⟨claims, composites, now⟩) := by
  induction hst with
  | refl =>
    rcases takes.held_succ h with written | ⟨⟨e, failed⟩, -⟩
    · exact ⟨n, s, now, claims, composites, Nat.le_refl s, Nat.lt_succ_self s, takes, written⟩
    · rw [done] at failed
      cases failed
  | @step t hst ih =>
    rcases held_succ h t with kept | ⟨m, later, read, read', put, written⟩
    · obtain ⟨m, r, later, read, read', hsr, hrt, put, heq⟩ := ih
      exact ⟨m, r, later, read, read', hsr, by omega, put, kept.trans heq⟩
    · exact ⟨m, t, later, read, read', Nat.le_of_lt hst, Nat.lt_succ_self t, put, written⟩

variable {a a' u u' v v' : Nat} {now' : Instant}

/-- What one write has been prepared by happens once. -/
lemma Writes.reads_eq (h : c.Writes m a u v t now) (h' : c.Writes n a' u' v' t now') :
    u = u' ∧ v = v' := by
  obtain ⟨rfl, rfl, -⟩ := h.put.unique h'.put
  obtain ⟨now₁, first⟩ := h.claimsRead
  obtain ⟨now₂, first'⟩ := h'.claimsRead
  obtain ⟨now₃, second⟩ := h.compositesRead
  obtain ⟨now₄, second'⟩ := h'.compositesRead
  constructor
  · rcases Nat.lt_trichotomy u u' with before | rfl | behind
    · exact absurd (first.rank_lt rfl first'.2 before) (Nat.lt_irrefl _)
    · rfl
    · exact absurd (first'.rank_lt rfl first.2 behind) (Nat.lt_irrefl _)
  · rcases Nat.lt_trichotomy v v' with before | rfl | behind
    · exact absurd (second.rank_lt rfl second'.2 before) (Nat.lt_irrefl _)
    · rfl
    · exact absurd (second'.rank_lt rfl second.2 behind) (Nat.lt_irrefl _)

/-- Persists write in the order in which they read the claims, and the composites. -/
lemma Writes.lt_iff (h : c.Writes m a u v s now) (h' : c.Writes n a' u' v' t now') :
    (s < t ↔ u < u') ∧ (s < t ↔ v < v') := by
  have := h.claims_lt
  have := h.composites_lt
  have := h'.claims_lt
  have := h'.composites_lt
  rcases Nat.lt_trichotomy s t with before | rfl | behind
  · have := h.lt_read h' before
    omega
  · obtain ⟨rfl, rfl⟩ := h.reads_eq h'
    omega
  · have := h'.lt_read h behind
    omega

/-- Once a persist has succeeded, what is held has been read after its call. -/
lemma held_of_done (h : Keep.Overwrites c.start.keep) (called : c.Calls n a)
    (done : c.phase n t = some (.done (.ok ()))) :
    ∃ m b u v s now, c.Writes m b u v s now ∧ a < u ∧ s < t ∧
      c.held t =
        some (Snapshot.encode ⟨(c.inventory u).claimList, (c.inventory v).compositeList, now⟩) := by
  obtain ⟨r, hrt, unlocking⟩ := exists_unlocking_of_done done
  obtain ⟨s, now, claims, composites, hsr, own, put⟩ := exists_put_of_unlocking unlocking
  obtain ⟨m, s', now', read, read', hss', hs't, takes, held⟩ := held_since h own put (by omega : s < t)
  obtain ⟨b, u, v, writes, rfl, rfl⟩ := takes.exists_writes
  refine ⟨m, b, u, v, s', now', writes, ?_, hs't, held⟩
  obtain ⟨early, first⟩ := writes.claimsRead
  rcases Nat.eq_or_lt_of_le hss' with rfl | later
  · obtain ⟨rfl, -, -⟩ := own.unique takes
    exact called.lt first.2
  · -- A later persist has not begun to read before the own one has written.
    obtain ⟨b', u', v', own', -, -⟩ := own.exists_writes
    have := called.lt own'.put.2
    have := own'.lt_read writes later
    omega

/-- What is done to the inventory stays done. -/
lemma inventory_of_operate {x y : Nat} {op : Inventory.Operation}
    (h : c.moves[x]? = some (.operate op)) (hxy : x < y) :
    ∃ later, c.inventory y = (op.apply (c.inventory x)).run later := by
  have bound := (List.getElem?_eq_some_iff.mp h).1
  obtain ⟨later, heq⟩ : ∃ later, c.operations y = c.operations x ++ op :: later := by
    induction hxy with
    | refl => exact ⟨[], by rw [operations_succ, h]; rfl⟩
    | @step y hxy ih =>
      obtain ⟨later, heq⟩ := ih
      exact ⟨later ++ (c.moves[y]?.bind Move.operation?).toList, by rw [operations_succ, heq]; simp⟩
  refine ⟨later, ?_⟩
  rw [inventory_eq, heq, Inventory.run_append, ← inventory_eq]
  rfl

/-- In every course of events every write has been prepared by a call and two reads, persists write in
the order in which they read, what is held once a persist has succeeded has been read after its call,
and whatever was done to the inventory before is in what is read. -/
theorem persists_serialized (c : Course κ) :
    (∀ n t now claims composites, c.Takes n t now (.writing claims composites) →
      ∃ a u v, c.Writes n a u v t now ∧ claims = (c.inventory u).claimList ∧
        composites = (c.inventory v).compositeList) ∧
    (∀ m a u v s now n a' u' v' t now', c.Writes m a u v s now → c.Writes n a' u' v' t now' →
      (s < t ↔ u < u') ∧ (s < t ↔ v < v')) ∧
    (Keep.Overwrites c.start.keep → ∀ n a t, c.Calls n a → c.phase n t = some (.done (.ok ())) →
      ∃ m b u v s now, c.Writes m b u v s now ∧ a < u ∧ s < t ∧
        c.held t =
          some (Snapshot.encode ⟨(c.inventory u).claimList, (c.inventory v).compositeList, now⟩)) ∧
    ∀ x y op, c.moves[x]? = some (.operate op) → x < y →
      ∃ later, c.inventory y = (op.apply (c.inventory x)).run later := by
  refine ⟨?_, ?_, ?_, ?_⟩
  · intro n t now claims composites takes
    exact takes.exists_writes
  · intro m a u v s now n a' u' v' t now' first second
    exact first.lt_iff second
  · intro overwrites n a t called done
    exact held_of_done overwrites called done
  · intro x y op moved hxy
    exact inventory_of_operate moved hxy

/-- A claim is recorded between two calls, and the second persist waits for the first. -/
def twoPersists : Course Slot where
  start := ⟨∅, {}, defaultLimit, false⟩
  unlocked := rfl
  moves := [.call, .advance 0 earlyMoment,
      .operate (.replace (.claims "g/v1/widgets" [referringClaim])), .call, .advance 1 earlyMoment] ++
    List.replicate 4 (.advance 0 earlyMoment) ++ List.replicate 5 (.advance 1 earlyMoment)

/-- What is held after the second of them has the claim in it. -/
theorem second_persist_current :
    Keep.Overwrites twoPersists.start.keep ∧ twoPersists.Calls 1 3 ∧
      twoPersists.phase 1 14 = some (.done (.ok ())) ∧
      ∃ u v now later, 3 < u ∧ u < v ∧
        twoPersists.inventory u = ((twoPersists.inventory 2).replaceClaims "g/v1/widgets"
          [referringClaim]).run later ∧
        twoPersists.held 14 = some (Snapshot.encode
          ⟨(twoPersists.inventory u).claimList, (twoPersists.inventory v).compositeList, now⟩) := by
  obtain ⟨-, -, current, lasting⟩ := persists_serialized twoPersists
  have overwrites : Keep.Overwrites twoPersists.start.keep := (Slot.whole {}).overwrites
  have called : twoPersists.Calls 1 3 := ⟨rfl, rfl⟩
  have done : twoPersists.phase 1 14 = some (.done (.ok ())) := rfl
  obtain ⟨m, b, u, v, s, now, writes, fresh, -, held⟩ := current overwrites 1 3 14 called done
  obtain ⟨later, heq⟩ := lasting 2 u _ rfl (by omega)
  exact ⟨overwrites, called, done, u, v, now, later, fresh, writes.claims_lt, heq, held⟩

end Course

end ClaimTracker.Durable
