import ClaimTracker.Proofs.Durable.Persist
import ClaimTracker.Proofs.Inventory.Operations

/-!
# Several clients of one durable inventory

Clients call persists and do things to the inventory, one move at a time and in any order; a persist
takes a move for each of its phases. At any moment at most one persist holds the lock, and what a
persist writes are the claims of one moment and the composites of a later one, both after its call.
-/

namespace ClaimTracker.Durable

/-- How many moves a persist has behind it that did not have to wait. -/
def Phase.rank : Phase → Nat
  | .waiting => 0
  | .readingClaims => 1
  | .readingComposites _ => 2
  | .writing _ _ => 3
  | .unlocking _ => 4
  | .done _ => 5

lemma Phase.holdsLock_iff {p : Phase} : p.holdsLock = true ↔ 0 < p.rank ∧ p.rank < 5 := by
  cases p <;> simp [holdsLock, rank]

inductive Move where
  | call
  /-- The persist before which `n` others were called goes one step further. -/
  | advance (n : Nat) (now : Instant)
  | operate (op : Inventory.Operation)

def Move.operation? : Move → Option Inventory.Operation
  | .operate op => some op
  | .call | .advance _ _ => none

/-- A durable inventory, and how far each persist has come that was called, the earliest first. -/
structure Shared (κ : Type) where
  durable : Durable κ
  phases : List Phase := []

/-- The first moves of a course of events that begins while no persist is under way. -/
structure Course (κ : Type) where
  start : Durable κ
  unlocked : start.locked = false
  moves : List Move

variable {κ : Type} [Keep κ]

def Shared.move (s : Shared κ) : Move → Shared κ
  | .call => { s with phases := s.phases ++ [.waiting] }
  | .advance n now =>
    match s.phases[n]? with
    | none => s
    | some phase =>
      let (phase, durable) := s.durable.advance now phase
      ⟨durable, s.phases.set n phase⟩
  | .operate op =>
    { s with durable := { s.durable with inventory := op.apply s.durable.inventory } }

lemma rank_advance (now : Instant) (d : Durable κ) (p : Phase) :
    p.rank ≤ (d.advance now p).1.rank := by
  cases p with
  | waiting => exact Nat.zero_le _
  | _ => simp [advance, Phase.rank]

/-- A persist that holds the lock need not wait. -/
lemma rank_lt_advance {p : Phase} (h : p.holdsLock = true) (now : Instant) (d : Durable κ) :
    p.rank < (d.advance now p).1.rank := by
  cases p with
  | waiting | done => cases h
  | _ => simp [advance, Phase.rank]

lemma advance_of_readingComposites {now : Instant} {d : Durable κ} {p : Phase} {claims : List Claim}
    (h : .readingComposites claims = (d.advance now p).1) :
    p = .readingClaims ∧ claims = d.inventory.claimList := by
  cases p with
  | waiting => simp only [advance] at h; split at h <;> cases h
  | readingClaims => cases h; exact ⟨rfl, rfl⟩
  | _ => cases h

lemma advance_of_writing {now : Instant} {d : Durable κ} {p : Phase} {claims : List Claim}
    {composites : List Composite} (h : .writing claims composites = (d.advance now p).1) :
    p = .readingComposites claims ∧ composites = d.inventory.compositeList := by
  cases p with
  | waiting => simp only [advance] at h; split at h <;> cases h
  | readingComposites claims => cases h; exact ⟨rfl, rfl⟩
  | _ => cases h

namespace Course

variable (c : Course κ)

def after (t : Nat) : Shared κ :=
  (c.moves.take t).foldl Shared.move ⟨c.start, []⟩

def inventory (t : Nat) : Inventory := (c.after t).durable.inventory

def held (t : Nat) : Option Octets := Keep.held (c.after t).durable.keep

/-- How far the persist `n` has come after `t` moves. -/
def phase (n t : Nat) : Option Phase := (c.after t).phases[n]?

def Calls (n t : Nat) : Prop :=
  c.moves[t]? = some .call ∧ (c.after t).phases.length = n

/-- The move after `t` others is one of the persist `n`, which has come this far. -/
def Takes (n t : Nat) (now : Instant) (p : Phase) : Prop :=
  c.moves[t]? = some (.advance n now) ∧ c.phase n t = some p

/-- The persist `n` holds the lock after `t` moves. -/
def Holds (n t : Nat) : Prop :=
  ∃ p, c.phase n t = some p ∧ p.holdsLock = true

variable {c : Course κ} {m n s t : Nat} {now : Instant} {p q : Phase}

lemma after_zero (c : Course κ) : c.after 0 = ⟨c.start, []⟩ := rfl

lemma after_succ (c : Course κ) (t : Nat) :
    c.after (t + 1) = c.moves[t]?.elim (c.after t) (c.after t).move := by
  rw [after, List.take_add_one, List.foldl_append, ← after]
  cases c.moves[t]? <;> rfl

/-- What one move does to a persist: nothing, or it calls the persist, or takes it further. -/
lemma phase_succ (h : c.phase n (t + 1) = some q) :
    c.phase n t = some q ∨ (c.Calls n t ∧ q = .waiting) ∨
      ∃ now p, c.Takes n t now p ∧ q = ((c.after t).durable.advance now p).1 := by
  rw [phase, after_succ] at h
  cases hm : c.moves[t]? with
  | none => rw [hm] at h; exact Or.inl h
  | some m =>
    rw [hm] at h
    cases m with
    | operate op => exact Or.inl h
    | call =>
      simp only [Option.elim, Shared.move, List.getElem?_append, List.getElem?_singleton] at h
      split at h
      · exact Or.inl h
      · rw [Option.ite_none_right_eq_some] at h
        obtain ⟨here, heq⟩ := h
        exact Or.inr (Or.inl ⟨⟨hm, by omega⟩, (Option.some.inj heq).symm⟩)
    | advance k now =>
      cases hp : (c.after t).phases[k]? with
      | none =>
        simp only [Option.elim, Shared.move, hp] at h
        exact Or.inl h
      | some p =>
        simp only [Option.elim, Shared.move, hp, List.getElem?_set] at h
        split at h
        · rename_i same
          subst same
          rw [Option.ite_none_right_eq_some] at h
          exact Or.inr (Or.inr ⟨now, p, ⟨hm, hp⟩, (Option.some.inj h.2).symm⟩)
        · exact Or.inl h

/-- What one move does to the durable inventory: nothing, or something to the inventory, or what the
next phase of a persist does. -/
lemma durable_succ (c : Course κ) (t : Nat) :
    (c.after (t + 1)).durable = (c.after t).durable ∨
      (∃ op, c.moves[t]? = some (.operate op) ∧ (c.after (t + 1)).durable =
        { (c.after t).durable with inventory := op.apply (c.inventory t) }) ∨
      ∃ n now p, c.Takes n t now p ∧
        (c.after (t + 1)).durable = ((c.after t).durable.advance now p).2 := by
  rw [after_succ]
  cases hm : c.moves[t]? with
  | none => exact Or.inl rfl
  | some m =>
    cases m with
    | call => exact Or.inl rfl
    | operate op => exact Or.inr (Or.inl ⟨op, rfl, rfl⟩)
    | advance k now =>
      cases hp : (c.after t).phases[k]? with
      | none =>
        refine Or.inl ?_
        simp only [Option.elim, Shared.move, hp]
      | some p =>
        refine Or.inr (Or.inr ⟨k, now, p, ⟨hm, hp⟩, ?_⟩)
        simp only [Option.elim, Shared.move, hp]

/-- Where a persist takes a move, both the persist and the durable inventory change accordingly. -/
lemma Takes.after_eq (h : c.Takes n t now p) :
    c.after (t + 1) = ⟨((c.after t).durable.advance now p).2,
      (c.after t).phases.set n ((c.after t).durable.advance now p).1⟩ := by
  obtain ⟨hm, hp⟩ := h
  rw [phase] at hp
  rw [after_succ, hm]
  simp only [Option.elim, Shared.move, hp]

lemma Takes.phase_eq (h : c.Takes n t now p) :
    c.phase n (t + 1) = some ((c.after t).durable.advance now p).1 := by
  have bound := (List.getElem?_eq_some_iff.mp h.2).1
  rw [phase, h.after_eq]
  simp [bound]

lemma Takes.unique {now' : Instant} {m : Nat} (h : c.Takes m t now p) (h' : c.Takes n t now' q) :
    m = n ∧ now = now' ∧ p = q := by
  obtain ⟨hm, hp⟩ := h
  obtain ⟨hm', hq⟩ := h'
  rw [hm] at hm'
  cases hm'
  rw [hp] at hq
  cases hq
  exact ⟨rfl, rfl, rfl⟩

/-- A persist that has been called takes the next move or stays where it is. -/
lemma takes_or_stays (h : c.phase n t = some p) :
    (∃ now, c.Takes n t now p) ∨ c.phase n (t + 1) = some p := by
  have bound := (List.getElem?_eq_some_iff.mp h).1
  rw [phase, after_succ]
  cases hm : c.moves[t]? with
  | none => exact Or.inr h
  | some m =>
    cases m with
    | operate op => exact Or.inr h
    | call =>
      refine Or.inr ?_
      simp only [Option.elim, Shared.move, List.getElem?_append_left bound]
      exact h
    | advance k now =>
      by_cases same : k = n
      · subst same
        exact Or.inl ⟨now, hm, h⟩
      · refine Or.inr ?_
        cases hp : (c.after t).phases[k]? with
        | none =>
          simp only [Option.elim, Shared.move, hp]
          exact h
        | some q =>
          simp only [Option.elim, Shared.move, hp, List.getElem?_set_ne same]
          exact h

/-- A persist never goes back. -/
lemma exists_phase (h : c.phase n s = some p) (hst : s ≤ t) :
    ∃ q, c.phase n t = some q ∧ p.rank ≤ q.rank := by
  induction hst with
  | refl => exact ⟨p, h, Nat.le_refl _⟩
  | step hst ih =>
    obtain ⟨q, hq, hle⟩ := ih
    rcases takes_or_stays hq with ⟨now, takes⟩ | stays
    · exact ⟨_, takes.phase_eq, Nat.le_trans hle (rank_advance now _ q)⟩
    · exact ⟨q, stays, hle⟩

lemma rank_le (hp : c.phase n s = some p) (hq : c.phase n t = some q) (hst : s ≤ t) :
    p.rank ≤ q.rank := by
  obtain ⟨r, hr, hle⟩ := exists_phase hp hst
  rw [hq] at hr
  cases hr
  exact hle

/-- A persist that takes a move while it holds the lock leaves its phase behind. -/
lemma Takes.rank_lt (h : c.Takes n s now p) (holds : p.holdsLock = true)
    (hq : c.phase n t = some q) (hst : s < t) : p.rank < q.rank :=
  Nat.lt_of_lt_of_le (rank_lt_advance holds now _) (rank_le h.phase_eq hq hst)

/-- Between two moments at which it holds the lock a persist holds it throughout. -/
lemma holds_of_between {u : Nat} (hs : c.Holds n s) (ht : c.Holds n t) (hsu : s ≤ u) (hut : u ≤ t) :
    c.Holds n u := by
  obtain ⟨p, hp, first⟩ := hs
  obtain ⟨q, hq, last⟩ := ht
  obtain ⟨r, hr, hle⟩ := exists_phase hp hsu
  have hle' := rank_le hr hq hut
  rw [Phase.holdsLock_iff] at first last
  exact ⟨r, hr, Phase.holdsLock_iff.mpr (by omega)⟩

/-- A persist that holds the lock held it before or has just taken it. -/
lemma Holds.of_succ (h : c.Holds n (t + 1)) :
    c.Holds n t ∨ (∃ now, c.Takes n t now .waiting) ∧ (c.after t).durable.locked = false := by
  obtain ⟨q, hq, holds⟩ := h
  rcases phase_succ hq with before | ⟨-, rfl⟩ | ⟨now, p, takes, rfl⟩
  · exact Or.inl ⟨q, before, holds⟩
  · cases holds
  · cases p with
    | waiting =>
      refine Or.inr ⟨⟨now, takes⟩, ?_⟩
      cases locked : (c.after t).durable.locked with
      | false => rfl
      | true => simp [advance, locked, Phase.holdsLock] at holds
    | unlocking | done => cases holds
    | readingClaims | readingComposites | writing => exact Or.inl ⟨_, takes.2, rfl⟩

/-- Whoever holds the lock has locked it, and nobody else holds it. -/
structure Guarded (c : Course κ) (t : Nat) : Prop where
  locked : ∀ n, c.Holds n t → (c.after t).durable.locked = true
  alone : ∀ m n, c.Holds m t → c.Holds n t → m = n

lemma guarded_zero (c : Course κ) : c.Guarded 0 := by
  have nobody : ∀ n, ¬ c.Holds n 0 := by
    rintro n ⟨p, hp, -⟩
    rw [phase, after_zero] at hp
    cases hp
  exact ⟨fun n h => absurd h (nobody n), fun m n h _ => absurd h (nobody m)⟩

/-- The lock is given back only by the persist that holds it. -/
lemma Guarded.locked_succ (h : c.Guarded t) (holds : c.Holds n (t + 1)) :
    (c.after (t + 1)).durable.locked = true := by
  rcases holds.of_succ with before | ⟨⟨now, takes⟩, unlocked⟩
  · have locked := h.locked n before
    rcases durable_succ c t with same | ⟨op, -, heq⟩ | ⟨m, now, p, takes, heq⟩
    · rwa [same]
    · rw [heq]
      exact locked
    · rw [heq]
      cases p with
      | unlocking result =>
        -- Whoever unlocks is the holder, and holds the lock no more.
        obtain rfl := h.alone m n ⟨_, takes.2, rfl⟩ before
        obtain ⟨q, hq, still⟩ := holds
        rw [takes.phase_eq] at hq
        cases hq
        cases still
      | waiting =>
        simp [advance, locked]
      | _ => exact locked
  · rw [takes.after_eq]
    simp [advance, unlocked]

lemma guarded (c : Course κ) (t : Nat) : c.Guarded t := by
  induction t with
  | zero => exact guarded_zero c
  | succ t ih =>
    refine ⟨fun n holds => ih.locked_succ holds, fun m n hm hn => ?_⟩
    -- Nobody can take the lock while somebody holds it.
    have excluded : ∀ k, c.Holds k t → (c.after t).durable.locked ≠ false := by
      intro k holds unlocked
      rw [ih.locked k holds] at unlocked
      cases unlocked
    rcases hm.of_succ with hm | ⟨⟨now, takes⟩, unlocked⟩
    · rcases hn.of_succ with hn | ⟨-, unlocked⟩
      · exact ih.alone m n hm hn
      · exact absurd unlocked (excluded m hm)
    · rcases hn.of_succ with hn | ⟨⟨now', takes'⟩, -⟩
      · exact absurd unlocked (excluded n hn)
      · exact (takes.unique takes').1

/-- At most one persist holds the lock. -/
lemma eq_of_holds (hm : c.Holds m t) (hn : c.Holds n t) : m = n :=
  (guarded c t).alone m n hm hn

/-- A persist has been called before it comes to any phase. -/
lemma exists_call (h : c.phase n t = some p) : ∃ a, a < t ∧ c.Calls n a := by
  induction t generalizing p with
  | zero =>
    rw [phase, after_zero] at h
    cases h
  | succ t ih =>
    have earlier : ∀ {p}, c.phase n t = some p → ∃ a, a < t + 1 ∧ c.Calls n a := by
      intro p h
      obtain ⟨a, ha, called⟩ := ih h
      exact ⟨a, by omega, called⟩
    rcases phase_succ h with before | ⟨called, -⟩ | ⟨now, q, takes, -⟩
    · exact earlier before
    · exact ⟨t, Nat.lt_succ_self t, called⟩
    · exact earlier takes.2

/-- A persist comes to no phase before it is called. -/
lemma Calls.lt {a : Nat} (h : c.Calls n a) (hp : c.phase n t = some p) : a < t := by
  refine Nat.lt_of_not_le fun hle => ?_
  obtain ⟨q, hq, -⟩ := exists_phase hp hle
  have bound := (List.getElem?_eq_some_iff.mp hq).1
  rw [h.2] at bound
  exact Nat.lt_irrefl n bound

/-- A persist that is beyond waiting has been taken there by one of its moves. -/
lemma exists_takes (h : c.phase n t = some q) (beyond : q ≠ .waiting) :
    ∃ s now p, s < t ∧ c.Takes n s now p ∧ q = ((c.after s).durable.advance now p).1 := by
  induction t with
  | zero =>
    rw [phase, after_zero] at h
    cases h
  | succ t ih =>
    rcases phase_succ h with before | ⟨-, rfl⟩ | ⟨now, p, takes, heq⟩
    · obtain ⟨s, now, p, hs, takes, heq⟩ := ih before
      exact ⟨s, now, p, by omega, takes, heq⟩
    · exact absurd rfl beyond
    · exact ⟨t, now, p, Nat.lt_succ_self t, takes, heq⟩

/-- What a persist knows of the claims it has read. -/
lemma exists_claimsRead {claims : List Claim}
    (h : c.phase n t = some (.readingComposites claims)) :
    ∃ u now, u < t ∧ c.Takes n u now .readingClaims ∧ claims = (c.inventory u).claimList := by
  obtain ⟨u, now, p, hu, takes, heq⟩ := exists_takes h nofun
  obtain ⟨rfl, read⟩ := advance_of_readingComposites heq
  exact ⟨u, now, hu, takes, read⟩

/-- What a persist knows of the composites it has read. -/
lemma exists_compositesRead {claims : List Claim} {composites : List Composite}
    (h : c.phase n t = some (.writing claims composites)) :
    ∃ v now, v < t ∧ c.Takes n v now (.readingComposites claims) ∧
      composites = (c.inventory v).compositeList := by
  obtain ⟨v, now, p, hv, takes, heq⟩ := exists_takes h nofun
  obtain ⟨rfl, read⟩ := advance_of_writing heq
  exact ⟨v, now, hv, takes, read⟩

/-- The persist `n`, called after `a` moves, reads the claims after `u` and the composites after `v`,
and writes both after `t`. -/
structure Writes (c : Course κ) (n a u v t : Nat) (now : Instant) : Prop where
  called : c.Calls n a
  claimsRead : ∃ now, c.Takes n u now .readingClaims
  compositesRead : ∃ now, c.Takes n v now (.readingComposites (c.inventory u).claimList)
  put : c.Takes n t now (.writing (c.inventory u).claimList (c.inventory v).compositeList)
  call_lt : a < u
  claims_lt : u < v
  composites_lt : v < t

/-- Every write has been prepared by a call and two reads. -/
lemma Takes.exists_writes {claims : List Claim} {composites : List Composite}
    (h : c.Takes n t now (.writing claims composites)) :
    ∃ a u v, c.Writes n a u v t now ∧ claims = (c.inventory u).claimList ∧
      composites = (c.inventory v).compositeList := by
  obtain ⟨v, later, hv, second, rfl⟩ := exists_compositesRead h.2
  obtain ⟨u, early, hu, first, rfl⟩ := exists_claimsRead second.2
  obtain ⟨a, ha, called⟩ := exists_call first.2
  exact ⟨a, u, v, ⟨called, ⟨early, first⟩, ⟨later, second⟩, h, ha, hu, hv⟩, rfl, rfl⟩

/-- A persist holds the lock from its first read to its write. -/
lemma Writes.holds {a u v x : Nat} (h : c.Writes n a u v t now) (hu : u ≤ x) (ht : x ≤ t) :
    c.Holds n x := by
  obtain ⟨early, first⟩ := h.claimsRead
  exact holds_of_between ⟨_, first.2, rfl⟩ ⟨_, h.put.2, rfl⟩ hu ht

/-- A write comes before everything that is read for a later one. -/
lemma Writes.lt_read {a u v a' u' v' : Nat} {now' : Instant} (h : c.Writes m a u v s now)
    (h' : c.Writes n a' u' v' t now') (hst : s < t) : s < u' := by
  refine Nat.lt_of_not_le fun hle => ?_
  have inside : c.Holds n s := h'.holds hle (Nat.le_of_lt hst)
  obtain rfl : m = n := eq_of_holds ⟨_, h.put.2, rfl⟩ inside
  -- The same persist does not write twice.
  have later := h.put.rank_lt rfl h'.put.2 hst
  exact Nat.lt_irrefl _ later

def operations (c : Course κ) (t : Nat) : List Inventory.Operation :=
  (c.moves.take t).filterMap Move.operation?

omit [Keep κ] in
lemma operations_succ (c : Course κ) (t : Nat) :
    c.operations (t + 1) = c.operations t ++ (c.moves[t]?.bind Move.operation?).toList := by
  rw [operations, List.take_add_one, List.filterMap_append, ← operations]
  cases c.moves[t]? with
  | none => rfl
  | some m => cases m <;> rfl

/-- Persists leave the inventory alone, so it is what the clients have done to it. -/
lemma inventory_eq (c : Course κ) (t : Nat) :
    c.inventory t = c.start.inventory.run (c.operations t) := by
  induction t with
  | zero => rfl
  | succ t ih =>
    rw [operations_succ, Inventory.run_append, ← ih, inventory, inventory, after_succ]
    cases hm : c.moves[t]? with
    | none => rfl
    | some m =>
      cases m with
      | call => rfl
      | operate op => rfl
      | advance k now =>
        simp only [Option.elim, Shared.move]
        split
        · rfl
        · exact advance_inventory now _ _

end Course

end ClaimTracker.Durable
