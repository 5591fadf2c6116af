import ClaimTracker.Proofs.Json.Members

/-!
# Values that are read as records

A value is read as a record exactly if it is an object or an array in which values are found that make
up the record, together with what missing fields stand for. Every other value is refused.
-/

namespace ClaimTracker.Json.Form

open Reader

variable {κ : Type} {T : κ → Type} [DecidableEq κ]

def Decides (form : Form κ T) : Prop :=
  ∀ k, Reader.Decides (form.read k)

variable {form : Form κ T} {values v : Values T} {m : Node.Member} {members : List Node.Member}
  {n n' : Node} {k : κ}

omit [DecidableEq κ] in
/-- A record ends with the check that no field is missing. -/
lemma complete_bind (v : Values T) (rest : List Token) :
    (do return (← form.complete v, rest)) = (form.complete v).map fun content => (content, rest) := by
  cases form.complete v <;> rfl

section Object

lemma member_append {σ : Type} (step : Step σ) (s : σ) (name : String) (n : Node)
    (rest : List Token) : member step s (Node.namedTokens (some name, n) ++ rest) =
      (step s name >>= fun read => read (n.tokens ++ rest)) :=
  rfl

lemma reads_skipped {σ : Type} (s : σ) (n : Node) :
    Reads (fun l => (skipped l).map fun l => (s, l)) n.tokens s := by
  intro rest
  simp only [skipped, skip_tokens_append]
  rfl

lemma TakesIn.member (h : form.TakesIn values m v) :
    Reads (member form.step values) (Node.namedTokens m) v := by
  intro rest
  rcases h with unknown | ⟨known, new, read⟩
  · simp only [member_append, step, unknown, Step.skip]
    exact reads_skipped values _ rest
  · simp only [member_append, step, known, new, Step.take]
    exact read.map _ rest

lemma exists_refuses_member (decides : form.Decides) (bad : ∀ v, ¬ form.TakesIn values m v) :
    ∃ e, Refuses (Reader.member form.step values) (Node.namedTokens m) e := by
  obtain ⟨_ | name, n⟩ := m
  · exact ⟨.broken .malformed, fun rest => rfl⟩
  cases known : form.field? name with
  | none => exact absurd (.skipped known) (bad values)
  | some k =>
    cases new : values k with
    | some b =>
      refine ⟨.mismatch (some (.duplicateField (form.name k))), fun rest => ?_⟩
      simp only [member_append, step, known, new, Step.repeated]
      rfl
    | none =>
      rcases decides k n with ⟨a, read⟩ | ⟨e, refused⟩
      · exact absurd (.taken known new read) (bad _)
      · refine ⟨e, fun rest => ?_⟩
        simp only [member_append, step, known, new, Step.take]
        exact refused.map _ rest

/-- Members after the first, each after a comma, up to the closing brace. -/
lemma Adds.moreMembers (h : form.Adds values members v) {fuel : Nat}
    (enough : members.length ≤ fuel) :
    Reads (moreMembers form.step fuel values) (Node.memberTokens members) v := by
  induction h generalizing fuel with
  | nil =>
    intro rest
    rw [Node.memberTokens]
    cases fuel <;> rfl
  | cons first others ih =>
    intro rest
    cases fuel with
    | zero => cases enough
    | succ fuel =>
      rw [Node.memberTokens_cons, List.cons_append, List.append_assoc, Reader.moreMembers,
        first.member.bind]
      exact ih (Nat.le_of_succ_le_succ enough) rest

/-- They are given up at the first of them that adds nothing to the values before it. -/
lemma exists_refuses_moreMembers (decides : form.Decides) (bad : ∀ v, ¬ form.Adds values members v) :
    ∃ e, ∀ fuel, members.length ≤ fuel →
      Refuses (moreMembers form.step fuel values) (Node.memberTokens members) e := by
  induction members generalizing values with
  | nil => exact absurd .nil (bad values)
  | cons m members ih =>
    by_cases taken : ∃ v, form.TakesIn values m v
    · obtain ⟨v, first⟩ := taken
      obtain ⟨e, others⟩ := ih fun w hw => bad w (.cons first hw)
      refine ⟨e, fun fuel enough rest => ?_⟩
      cases fuel with
      | zero => cases enough
      | succ fuel =>
        rw [Node.memberTokens_cons, List.cons_append, List.append_assoc, Reader.moreMembers,
          first.member.bind]
        exact others fuel (Nat.le_of_succ_le_succ enough) rest
    · obtain ⟨e, refused⟩ := exists_refuses_member decides (not_exists.mp taken)
      refine ⟨e, fun fuel enough rest => ?_⟩
      cases fuel with
      | zero => cases enough
      | succ fuel =>
        rw [Node.memberTokens_cons, List.cons_append, List.append_assoc, Reader.moreMembers]
        exact refused.bind _ _

lemma length_le_append (members : List Node.Member) (rest : List Token) :
    members.length ≤ (Node.memberTokens members ++ rest).length := by
  have := Node.length_le_memberTokens members
  rw [List.length_append]
  omega

lemma record_object_append (m : Node.Member) (members : List Node.Member) (rest : List Token) :
    form.record ((Node.object (m :: members)).tokens ++ rest) =
      (member form.step (fun _ => none) (Node.namedTokens m ++ (Node.memberTokens members ++ rest)) >>=
        fun (values, l) => moreMembers form.step l.length values l) >>= fun (values, l) => do
          return (← form.complete values, l) := by
  rw [Node.tokens_object_cons, List.cons_append, List.append_assoc]
  rfl

lemma Adds.record (h : form.Adds (fun _ => none) members v) (rest : List Token) :
    form.record ((Node.object members).tokens ++ rest) =
      (form.complete v).map fun content => (content, rest) := by
  rw [← complete_bind]
  rcases h with _ | ⟨first, others⟩
  · rw [Node.tokens]
    rfl
  · rw [record_object_append, first.member.bind]
    dsimp only
    rw [others.moreMembers (length_le_append _ rest) rest]
    rfl

lemma exists_refuses_object (decides : form.Decides)
    (bad : ∀ v, ¬ form.Adds (fun _ => none) members v) :
    ∃ e, Refuses form.record (Node.object members).tokens e := by
  cases members with
  | nil => exact absurd .nil (bad _)
  | cons m members =>
    by_cases taken : ∃ v, form.TakesIn (fun _ => none) m v
    · obtain ⟨v, first⟩ := taken
      obtain ⟨e, others⟩ := exists_refuses_moreMembers decides fun w hw => bad w (.cons first hw)
      refine ⟨e, fun rest => ?_⟩
      rw [record_object_append, first.member.bind]
      dsimp only
      rw [(others _ (length_le_append members rest)) rest]
      rfl
    · obtain ⟨e, refused⟩ := exists_refuses_member decides (not_exists.mp taken)
      refine ⟨e, fun rest => ?_⟩
      rw [record_object_append, refused.bind]
      rfl

end Object

section Array

variable {ks : List κ} {items : List Node}

/-- Items after the first, each after a comma, up to the closing bracket. -/
lemma InOrder.moreInOrder (h : form.InOrder ks values items v) :
    Reads (form.moreInOrder ks values) (Node.itemTokens items) v := by
  induction h with
  | @nil ks values ends =>
    intro rest
    rw [Node.itemTokens, List.singleton_append]
    cases ks with
    | nil => rfl
    | cons k ks => simp [Form.moreInOrder, cutOff, ends, Except.map]
  | cons first others ih =>
    intro rest
    rw [Node.itemTokens, List.cons_append, List.append_assoc, Form.moreInOrder, first.bind]
    exact ih rest

lemma exists_refuses_moreInOrder (decides : form.Decides)
    (bad : ∀ v, ¬ form.InOrder ks values items v) :
    ∃ e, Refuses (form.moreInOrder ks values) (Node.itemTokens items) e := by
  induction items generalizing ks values with
  | nil =>
    cases ks with
    | nil => exact absurd (.nil rfl) (bad values)
    | cons k ks =>
      refine ⟨.mismatch none, fun rest => ?_⟩
      have early : ¬ (k :: ks).all form.mayTrail = true := fun ends => bad values (.nil ends)
      simp [Node.itemTokens, Form.moreInOrder, cutOff, early, Except.map]
  | cons n items ih =>
    cases ks with
    | nil =>
      refine ⟨.broken .malformed, fun rest => ?_⟩
      rw [Node.itemTokens]
      rfl
    | cons k ks =>
      rcases decides k n with ⟨a, first⟩ | ⟨e, refused⟩
      · obtain ⟨e, others⟩ := ih fun w hw => bad w (.cons first hw)
        refine ⟨e, fun rest => ?_⟩
        rw [Node.itemTokens, List.cons_append, List.append_assoc, Form.moreInOrder, first.bind]
        exact others rest
      · refine ⟨e, fun rest => ?_⟩
        rw [Node.itemTokens, List.cons_append, List.append_assoc, Form.moreInOrder]
        exact refused.bind _ _

lemma record_array_append {n : Node} (fields : form.fields = k :: ks) (rest : List Token) :
    form.record ((Node.array (n :: items)).tokens ++ rest) =
      (form.read k (n.tokens ++ (Node.itemTokens items ++ rest)) >>= fun (a, l) =>
        form.moreInOrder ks (Values.insert (fun _ => none) k a) l) >>= fun (values, l) => do
          return (← form.complete values, l) := by
  obtain ⟨t, l, ht, not_closing⟩ := n.exists_tokens_eq
  rw [Node.tokens, List.cons_append, List.append_assoc, Form.record]
  rw [ht, List.cons_append, inOrder, fields]
  simp [not_closing]

lemma InOrder.record (h : form.InOrder form.fields (fun _ => none) items v) (rest : List Token) :
    form.record ((Node.array items).tokens ++ rest) =
      (form.complete v).map fun content => (content, rest) := by
  rw [← complete_bind]
  generalize fields : form.fields = ks at h
  rcases h with ends | ⟨first, others⟩
  · rw [Node.tokens, List.cons_append, List.singleton_append, Form.record, inOrder, cutOff, fields,
      ends]
    rfl
  · rw [record_array_append fields, first.bind]
    dsimp only
    rw [others.moreInOrder rest]
    rfl

lemma exists_refuses_array (decides : form.Decides)
    (bad : ∀ v, ¬ form.InOrder form.fields (fun _ => none) items v) :
    ∃ e, Refuses form.record (Node.array items).tokens e := by
  cases items with
  | nil =>
    refine ⟨.mismatch none, fun rest => ?_⟩
    have early : ¬ form.fields.all form.mayTrail = true := fun ends => bad _ (.nil ends)
    rw [Node.tokens, List.cons_append, List.singleton_append, Form.record, inOrder, cutOff,
      if_neg early]
    rfl
  | cons n items =>
    cases fields : form.fields with
    | nil =>
      refine ⟨.broken .malformed, fun rest => ?_⟩
      obtain ⟨t, l, ht, not_closing⟩ := n.exists_tokens_eq
      rw [Node.tokens, List.cons_append, List.append_assoc, Form.record, ht, List.cons_append, inOrder,
        fields]
      · rfl
      · simp [not_closing]
    | cons k ks =>
      rw [fields] at bad
      rcases decides k n with ⟨a, first⟩ | ⟨e, refused⟩
      · obtain ⟨e, others⟩ := exists_refuses_moreInOrder decides fun w hw => bad w (.cons first hw)
        refine ⟨e, fun rest => ?_⟩
        rw [record_array_append fields, first.bind]
        dsimp only
        rw [others rest]
        rfl
      · refine ⟨e, fun rest => ?_⟩
        rw [record_array_append fields, refused.bind]
        rfl

end Array

section Record

inductive Finds (form : Form κ T) : Node → Values T → Prop
  | object {members : List Node.Member} {values : Values T}
    (h : form.Adds (fun _ => none) members values) : Finds form (.object members) values
  | array {items : List Node} {values : Values T}
    (h : form.InOrder form.fields (fun _ => none) items values) : Finds form (.array items) values

lemma Finds.record (h : form.Finds n v) (rest : List Token) :
    form.record (n.tokens ++ rest) = (form.complete v).map fun content => (content, rest) := by
  cases h with
  | object h => exact h.record rest
  | array h => exact h.record rest

lemma exists_refuses_record (decides : form.Decides) (bad : ∀ v, ¬ form.Finds n v) :
    ∃ e, Refuses form.record n.tokens e := by
  cases n with
  | object members => exact exists_refuses_object decides fun v h => bad v (.object h)
  | array items => exact exists_refuses_array decides fun v h => bad v (.array h)
  | _ => exact ⟨_, fun rest => rfl⟩

lemma Decides.record (decides : form.Decides) : Reader.Decides form.record := by
  intro n
  by_cases found : ∃ v, form.Finds n v
  · obtain ⟨v, h⟩ := found
    cases whole : form.complete v with
    | ok content =>
      refine Or.inl ⟨content, fun rest => ?_⟩
      rw [h.record, whole]
      rfl
    | error e =>
      refine Or.inr ⟨e, fun rest => ?_⟩
      rw [h.record, whole]
      rfl
  · exact Or.inr (exists_refuses_record decides (not_exists.mp found))

/-- A value is read as a record exactly if the values found in it, with what missing fields stand for,
are all that the record holds. -/
lemma reads_record_iff (decides : form.Decides) {content : (k : κ) → T k} :
    Reads form.record n.tokens content ↔ ∃ v, form.Finds n v ∧ form.complete v = .ok content := by
  constructor
  · intro whole
    by_cases found : ∃ v, form.Finds n v
    · obtain ⟨v, h⟩ := found
      have read := (h.record []).symm.trans (whole [])
      refine ⟨v, h, ?_⟩
      cases all : form.complete v with
      | ok other =>
        rw [all] at read
        cases read
        rfl
      | error e =>
        rw [all] at read
        cases read
    · obtain ⟨e, refused⟩ := exists_refuses_record decides (not_exists.mp found)
      exact absurd refused whole.not_refuses
  · rintro ⟨v, h, all⟩ rest
    rw [h.record, all]
    rfl

/-- Values in which the same is found are read alike. -/
lemma alike_of_finds (decides : form.Decides) (same : ∀ v, form.Finds n v ↔ form.Finds n' v) :
    Alike form.record n n' := by
  intro content
  simp only [reads_record_iff decides, same]

end Record

end ClaimTracker.Json.Form
