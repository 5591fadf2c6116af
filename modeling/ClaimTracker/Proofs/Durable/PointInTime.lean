import ClaimTracker.Proofs.Durable.Course
import ClaimTracker.Proofs.Durable.Restore

/-!
# Documents of one moment

The claims and the composites of a document are read one after the other, and other clients may come
between. A document is that of one moment whatever the persist comes between exactly if, of any two
moments, the claims of the earlier and the composites of the later meet in some moment from the one to
the other. They do not where new claims are followed by new composites.
-/

namespace ClaimTracker

/-- The claims after the first `p` operations and the composites after the first `q` were there together
at some moment from the one to the other. -/
def Inventory.Meet (i : Inventory) (ops : List Inventory.Operation) (p q : Nat) : Prop :=
  ∃ x, p ≤ x ∧ x ≤ q ∧
    (i.run (ops.take x)).claimList = (i.run (ops.take p)).claimList ∧
    (i.run (ops.take x)).compositeList = (i.run (ops.take q)).compositeList

namespace Durable

variable {κ : Type} [Keep κ]

lemma filterMap_operate (ops : List Inventory.Operation) :
    (ops.map Move.operate).filterMap Move.operation? = ops := by
  rw [List.filterMap_map]
  exact List.filterMap_some

lemma foldl_operate (s : Shared κ) (ops : List Inventory.Operation) :
    (ops.map Move.operate).foldl Shared.move s =
      { s with durable := { s.durable with inventory := s.durable.inventory.run ops } } := by
  induction ops generalizing s with
  | nil => rfl
  | cons op ops ih => exact ih _

namespace Course

def UnderWay (c : Course κ) (n t : Nat) : Prop :=
  ∃ p, c.phase n t = some p ∧ p.rank < 5

/-- What a persist writes is the inventory of one moment at which the persist is under way. -/
def PointInTime (c : Course κ) : Prop :=
  ∀ n t now claims composites, c.Takes n t now (.writing claims composites) →
    ∃ x, c.UnderWay n x ∧ (c.inventory x).claimList = claims ∧
      (c.inventory x).compositeList = composites

variable {c : Course κ} {m n s t : Nat} {now : Instant}

lemma Holds.underWay (h : c.Holds n t) : c.UnderWay n t := by
  obtain ⟨p, hp, holds⟩ := h
  exact ⟨p, hp, (Phase.holdsLock_iff.mp holds).2⟩

/-- A persist that has come back is not under way any more. -/
lemma UnderWay.lt {result : Except PersistError Unit} (h : c.UnderWay n s)
    (done : c.phase n t = some (.done result)) : s < t := by
  obtain ⟨p, hp, hlt⟩ := h
  refine Nat.lt_of_not_le fun hle => ?_
  exact absurd (rank_le done hp hle) (Nat.not_le.mpr hlt)

omit [Keep κ] in
lemma operations_mono (c : Course κ) (hst : s ≤ t) : c.operations s <+: c.operations t :=
  (List.take_prefix_take_left hst).filterMap _

omit [Keep κ] in
lemma operations_eq_take (c : Course κ) (t : Nat) :
    c.operations t = (c.moves.filterMap Move.operation?).take (c.operations t).length :=
  List.prefix_iff_eq_take.mp ((List.take_prefix t c.moves).filterMap _)

omit [Keep κ] in
/-- The operations come one after the other, so every number of them is reached. -/
lemma exists_moment {x : Nat} (hst : s ≤ t) (hs : (c.operations s).length ≤ x)
    (ht : x ≤ (c.operations t).length) : ∃ y, s ≤ y ∧ y ≤ t ∧ (c.operations y).length = x := by
  induction hst with
  | refl => exact ⟨s, Nat.le_refl s, Nat.le_refl s, by omega⟩
  | @step t hst ih =>
    have ht : x ≤ (c.operations (t + 1)).length := ht
    by_cases here : x = (c.operations (t + 1)).length
    · exact ⟨t + 1, Nat.le_succ_of_le hst, Nat.le_refl _, here.symm⟩
    · have one : (c.operations (t + 1)).length ≤ (c.operations t).length + 1 := by
        rw [operations_succ, List.length_append]
        cases c.moves[t]?.bind Move.operation? <;> simp
      obtain ⟨y, hsy, hyt, heq⟩ := ih (by omega)
      exact ⟨y, hsy, by omega, heq⟩

/-- Where the halves of any two moments meet, every document is that of one moment. -/
lemma pointInTime_of_meet (h : ∀ p q, p ≤ q → q ≤ (c.moves.filterMap Move.operation?).length →
    c.start.inventory.Meet (c.moves.filterMap Move.operation?) p q) : c.PointInTime := by
  intro n t now claims composites takes
  obtain ⟨a, u, v, writes, rfl, rfl⟩ := takes.exists_writes
  have huv := Nat.le_of_lt writes.claims_lt
  have hpq := (operations_mono c huv).length_le
  have hq : (c.operations v).length ≤ (c.moves.filterMap Move.operation?).length :=
    ((List.take_prefix v c.moves).filterMap _).length_le
  obtain ⟨x, hpx, hxq, claims, composites⟩ := h _ _ hpq hq
  obtain ⟨y, huy, hyv, rfl⟩ := exists_moment huv hpx hxq
  rw [← operations_eq_take, ← operations_eq_take, ← inventory_eq, ← inventory_eq] at claims
  rw [← operations_eq_take, ← operations_eq_take, ← inventory_eq, ← inventory_eq] at composites
  have := writes.composites_lt
  exact ⟨y, (writes.holds huy (by omega)).underWay, claims, composites⟩

lemma after_of_append (first rest : List Move) (h : c.moves = first ++ rest) :
    c.after first.length = first.foldl Shared.move ⟨c.start, []⟩ := by
  rw [after, h, List.take_left]

omit [Keep κ] in
lemma operations_of_append (first rest : List Move) (h : c.moves = first ++ rest) :
    c.operations first.length = first.filterMap Move.operation? := by
  rw [operations, h, List.take_left]

/-- The moves up to the second read of a persist that reads the claims after some operations and the
composites after some more. -/
def untilRead (before during : List Inventory.Operation) (now : Instant) : List Move :=
  before.map .operate ++ ([.call, .advance 0 now, .advance 0 now] ++
    (during.map .operate ++ [.advance 0 now]))

/-- After its second read the persist writes and comes back before anything else happens. -/
def around (d : Durable κ) (unlocked : d.locked = false)
    (before during behind : List Inventory.Operation) (now : Instant) : Course κ where
  start := d
  unlocked := unlocked
  moves := untilRead before during now ++ (.advance 0 now :: .advance 0 now :: behind.map .operate)

lemma operations_untilRead (before during : List Inventory.Operation) (now : Instant) :
    (untilRead before during now).filterMap Move.operation? = before ++ during := by
  simp only [untilRead, List.filterMap_append, filterMap_operate, List.filterMap_cons, Move.operation?,
    List.filterMap_nil, List.nil_append, List.append_nil]

section Around

variable (d : Durable κ) (unlocked : d.locked = false)
  (before during behind : List Inventory.Operation) (now : Instant)

omit [Keep κ] in
lemma operations_around :
    (around d unlocked before during behind now).moves.filterMap Move.operation? =
      before ++ (during ++ behind) := by
  simp only [around, List.filterMap_append, operations_untilRead, List.filterMap_cons, Move.operation?,
    filterMap_operate, List.append_assoc]

/-- The call comes after the first operations. -/
lemma calls_around : (around d unlocked before during behind now).Calls 0 before.length := by
  have reached := after_of_append (c := around d unlocked before during behind now)
    (before.map .operate) _ (List.append_assoc _ _ _)
  rw [List.length_map, foldl_operate] at reached
  constructor
  · simp [around, untilRead]
  · rw [reached]
    rfl

/-- What there is once the composites have been read. -/
lemma after_around : (around d unlocked before during behind now).after
    (untilRead before during now).length =
      ⟨{ d with inventory := d.inventory.run (before ++ during), locked := true },
        [.writing (d.inventory.run before).claimList
          (d.inventory.run (before ++ during)).compositeList]⟩ := by
  have read : [Move.call, .advance 0 now, .advance 0 now].foldl Shared.move
      ⟨{ d with inventory := d.inventory.run before }, []⟩ =
        (⟨{ d with inventory := d.inventory.run before, locked := true },
          [.readingComposites (d.inventory.run before).claimList]⟩ : Shared κ) := by
    simp [Shared.move, advance, unlocked]
  rw [after_of_append _ _ rfl, untilRead, List.foldl_append, foldl_operate, List.foldl_append,
    List.foldl_append, show (around d unlocked before during behind now).start = d from rfl, read,
    foldl_operate, Inventory.run_append]
  rfl

/-- The persist writes the claims after the first operations and the composites after some more. -/
lemma takes_around : (around d unlocked before during behind now).Takes 0
    (untilRead before during now).length now
    (.writing (d.inventory.run before).claimList
      (d.inventory.run (before ++ during)).compositeList) := by
  constructor
  · simp [around]
  · rw [phase, after_around]
    rfl

/-- The persist comes back right after it has written. -/
lemma done_around : ∃ result, (around d unlocked before during behind now).phase 0
    ((untilRead before during now).length + 2) = some (.done result) := by
  have written := (takes_around d unlocked before during behind now).phase_eq
  have unlocking : (around d unlocked before during behind now).Takes 0
      ((untilRead before during now).length + 1) now _ := ⟨by simp [around], written⟩
  exact ⟨_, unlocking.phase_eq⟩

/-- While the persist is under way, the first operations have been done, and none of the last. -/
lemma operations_around_of_underWay {y : Nat}
    (h : (around d unlocked before during behind now).UnderWay 0 y) :
    before <+: (around d unlocked before during behind now).operations y ∧
      (around d unlocked before during behind now).operations y <+: before ++ during := by
  obtain ⟨result, done⟩ := done_around d unlocked before during behind now
  have back := h.lt done
  obtain ⟨p, hp, -⟩ := h
  have called := (calls_around d unlocked before during behind now).lt hp
  constructor
  · have first := operations_of_append (c := around d unlocked before during behind now)
      (before.map .operate) _ (List.append_assoc _ _ _)
    rw [List.length_map, filterMap_operate] at first
    have grows := operations_mono (around d unlocked before during behind now)
      (Nat.le_of_lt called)
    rwa [first] at grows
  · have last := operations_of_append (c := around d unlocked before during behind now)
      (untilRead before during now ++ [.advance 0 now, .advance 0 now]) (behind.map .operate)
      (by simp [around])
    rw [List.filterMap_append, operations_untilRead, List.length_append] at last
    have grows := operations_mono (around d unlocked before during behind now)
      (Nat.le_of_lt back)
    rw [← List.append_nil (before ++ during)]
    exact last ▸ grows

lemma meet_of_pointInTime (h : (around d unlocked before during behind now).PointInTime) :
    d.inventory.Meet (before ++ (during ++ behind)) before.length (before.length + during.length) := by
  obtain ⟨y, underWay, claims, composites⟩ :=
    h _ _ _ _ _ (takes_around d unlocked before during behind now)
  obtain ⟨called, back⟩ := operations_around_of_underWay d unlocked before during behind now underWay
  have moment := operations_eq_take (around d unlocked before during behind now) y
  rw [operations_around] at moment
  rw [inventory_eq, moment] at claims composites
  refine ⟨_, called.length_le, ?_, claims.trans ?_, composites.trans ?_⟩
  · rw [← List.length_append]
    exact back.length_le
  · rw [List.take_left]
  · rw [← List.append_assoc, ← List.length_append, List.take_left]

end Around

/-- Whatever clients do to an inventory, every document is that of one moment while its persist is under
way exactly if the claims of an earlier moment and the composites of a later one always meet in some
moment between them. -/
theorem pointInTime_iff (d : Durable κ) (unlocked : d.locked = false)
    (ops : List Inventory.Operation) :
    (∀ c : Course κ, c.start = d → c.moves.filterMap Move.operation? = ops → c.PointInTime) ↔
      ∀ p q, p ≤ q → q ≤ ops.length → d.inventory.Meet ops p q := by
  constructor
  · intro h p q hpq hq
    obtain ⟨before, rest, rfl, rfl⟩ : ∃ before rest, ops = before ++ rest ∧ before.length = p :=
      ⟨ops.take p, ops.drop p, (List.take_append_drop p ops).symm, List.length_take_of_le (by omega)⟩
    rw [List.length_append] at hq
    obtain ⟨during, behind, rfl, rfl⟩ :
        ∃ during behind, rest = during ++ behind ∧ before.length + during.length = q := by
      refine ⟨rest.take (q - before.length), rest.drop (q - before.length),
        (List.take_append_drop _ rest).symm, ?_⟩
      rw [List.length_take_of_le (by omega)]
      omega
    exact meet_of_pointInTime d unlocked before during behind earlyMoment
      (h _ rfl (operations_around d unlocked before during behind earlyMoment))
  · rintro h c rfl rfl
    exact pointInTime_of_meet h

/-- Where composites never change, every document is that of one moment. -/
theorem pointInTime_of_claims :
    let d : Durable Slot := ⟨∅, {}, defaultLimit, false⟩
    let ops : List Inventory.Operation :=
      [.replace (.claims "g/v1/widgets" [referringClaim]), .enrich]
    d.locked = false ∧ ∀ c : Course Slot, c.start = d →
      c.moves.filterMap Move.operation? = ops → c.PointInTime := by
  intro d ops
  have still : ∀ x, (d.inventory.run (ops.take x)).composites = ∅ := by
    intro x
    match x with
    | 0 => rfl
    | 1 => rfl
    | x + 2 =>
      rw [List.take_of_length_le (Nat.le_add_left 2 x)]
      rfl
  refine ⟨rfl, (pointInTime_iff d rfl ops).mpr fun p q hpq _ => ⟨p, Nat.le_refl p, hpq, rfl, ?_⟩⟩
  rw [Inventory.compositeList, Inventory.compositeList, still, still]

/-- A claim is recorded, and then the composite that it refers to. -/
def recordings : List Inventory.Operation :=
  [.replace (.claims "g/v1/widgets" [referringClaim]),
    .replace (.composites "g/v1/xwidgets" [referredComposite])]

/-- A persist that reads the claims before both and the composites after both writes the composite
without the claim, though the claim was there first. -/
theorem document_of_no_moment :
    let c : Course Slot := around ⟨∅, {}, defaultLimit, false⟩ rfl [] recordings [] earlyMoment
    c.Takes 0 6 earlyMoment
      (.writing (∅ : Inventory).claimList ((∅ : Inventory).run recordings).compositeList) ∧
    ¬ c.PointInTime := by
  intro c
  refine ⟨takes_around _ rfl [] recordings [] earlyMoment, fun h => ?_⟩
  obtain ⟨x, -, hx, claims, composites⟩ := meet_of_pointInTime _ rfl [] recordings [] earlyMoment h
  have claimed : ((∅ : Inventory).claims.replace "g/v1/widgets" [referringClaim]).records ≠ [] :=
    Table.records_replace_ne_nil List.mem_cons_self
  have composed :
      ((∅ : Inventory).composites.replace "g/v1/xwidgets" [referredComposite]).records ≠ [] :=
    Table.records_replace_ne_nil List.mem_cons_self
  -- Without the claim there is no composite yet, and with it there is the claim.
  match x with
  | 0 => exact composed (composites.symm.trans Table.records_empty)
  | 1 => exact claimed (claims.trans Table.records_empty)
  | 2 => exact claimed (claims.trans Table.records_empty)

end Course

end Durable

end ClaimTracker
