import ClaimTracker.Proofs.Json.Verdict

/-!
# What members make of a record

Each member of an object leaves the values of a record as they are or adds one to them, and two members
do the same in either order. So it is of no consequence in which order they stand and what other members
stand among them; but a second member of one field can never be taken in. The items of an array add
their values in the order of the fields.
-/

namespace ClaimTracker.Json.Form

open Reader

variable {κ : Type} {T : κ → Type} [DecidableEq κ]

/-- What a member makes of the values: one of another name leaves them as they are, and one of a field
that has no value yet adds what is read from it. -/
inductive TakesIn (form : Form κ T) (values : Values T) : Node.Member → Values T → Prop
  | skipped {name : String} {n : Node} (unknown : form.field? name = none) :
    TakesIn form values (some name, n) values
  | taken {name : String} {n : Node} {k : κ} {a : T k} (known : form.field? name = some k)
    (new : values k = none) (read : Reads (form.read k) n.tokens a) :
    TakesIn form values (some name, n) (values.insert k a)

/-- What members make of the values, one after the other. -/
inductive Adds (form : Form κ T) : Values T → List Node.Member → Values T → Prop
  | nil {values : Values T} : Adds form values [] values
  | cons {values v values' : Values T} {m : Node.Member} {members : List Node.Member}
    (first : form.TakesIn values m v) (others : Adds form v members values') :
    Adds form values (m :: members) values'

/-- What items make of the values if they are about these fields, in this order. There may be fewer
items than fields if the form lets an array end there. -/
inductive InOrder (form : Form κ T) : List κ → Values T → List Node → Values T → Prop
  | nil {ks : List κ} {values : Values T} (ends : ks.all form.mayTrail = true) :
    InOrder form ks values [] values
  | cons {k : κ} {ks : List κ} {values values' : Values T} {n : Node} {items : List Node} {a : T k}
    (first : Reads (form.read k) n.tokens a) (others : InOrder form ks (values.insert k a) items values') :
    InOrder form (k :: ks) values (n :: items) values'

variable {form : Form κ T} {values values' v w : Values T} {m m' : Node.Member}
  {members members' before after : List Node.Member} {name name' : String} {n n' : Node} {k : κ}

section Members

lemma adds_cons_iff : form.Adds values (m :: members) values' ↔
    ∃ v, form.TakesIn values m v ∧ form.Adds v members values' := by
  constructor
  · rintro (_ | ⟨first, others⟩)
    exact ⟨_, first, others⟩
  · rintro ⟨v, first, others⟩
    exact .cons first others

lemma takesIn_iff_of_unknown (unknown : form.field? name = none) :
    form.TakesIn values (some name, n) v ↔ v = values := by
  constructor
  · rintro (_ | ⟨known, -, -⟩)
    · rfl
    · rw [unknown] at known
      cases known
  · rintro rfl
    exact .skipped unknown

lemma takesIn_iff_of_known (known : form.field? name = some k) :
    form.TakesIn values (some name, n) v ↔
      values k = none ∧ ∃ a, Reads (form.read k) n.tokens a ∧ v = values.insert k a := by
  constructor
  · rintro (unknown | ⟨other, new, read⟩)
    · rw [known] at unknown
      cases unknown
    · rw [known] at other
      cases other
      exact ⟨new, _, read, rfl⟩
  · rintro ⟨new, a, read, rfl⟩
    exact .taken known new read

lemma insert_comm (values : Values T) {j k : κ} (a : T j) (b : T k) (h : j ≠ k) :
    (values.insert j a).insert k b = (values.insert k b).insert j a := by
  funext i
  by_cases hj : i = j
  · subst hj
    rw [insert_of_ne _ b h, insert_self, insert_self]
  · by_cases hk : i = k
    · subst hk
      rw [insert_self, insert_of_ne _ a hj, insert_self]
    · rw [insert_of_ne _ b hk, insert_of_ne _ a hj, insert_of_ne _ a hj, insert_of_ne _ b hk]

/-- Two members may be taken in the other way round. -/
lemma TakesIn.swap (first : form.TakesIn values m v) (second : form.TakesIn v m' w) :
    ∃ u, form.TakesIn values m' u ∧ form.TakesIn u m w := by
  rcases first with unknown | ⟨known, new, read⟩
  · exact ⟨w, second, .skipped unknown⟩
  · rcases second with unknown' | ⟨known', new', read'⟩
    · exact ⟨values, .skipped unknown', .taken known new read⟩
    · rename_i j a _ _ k b
      -- the second field is another one, for it had no value after the first
      have apart : k ≠ j := by
        rintro rfl
        rw [insert_self] at new'
        cases new'
      rw [insert_of_ne values a apart] at new'
      refine ⟨values.insert k b, .taken known' new' read', ?_⟩
      rw [insert_comm values a b apart.symm]
      refine .taken known ?_ read
      rwa [insert_of_ne values b apart.symm]

lemma Adds.perm (h : form.Adds values members values') (order : members.Perm members') :
    form.Adds values members' values' := by
  induction order generalizing values with
  | nil => exact h
  | cons m _ ih =>
    obtain ⟨v, first, others⟩ := adds_cons_iff.mp h
    exact .cons first (ih others)
  | swap m m' members =>
    obtain ⟨v, first, others⟩ := adds_cons_iff.mp h
    obtain ⟨w, second, others⟩ := adds_cons_iff.mp others
    obtain ⟨u, first, second⟩ := first.swap second
    exact .cons first (.cons second others)
  | trans _ _ ih ih' => exact ih' (ih h)

/-- The order of the members is of no consequence. -/
lemma adds_iff_of_perm (order : members.Perm members') :
    form.Adds values members values' ↔ form.Adds values members' values' :=
  ⟨fun h => h.perm order, fun h => h.perm order.symm⟩

/-- It is of no consequence where a member stands. -/
lemma adds_middle_iff : form.Adds values (before ++ m :: after) values' ↔
    ∃ v, form.TakesIn values m v ∧ form.Adds v (before ++ after) values' :=
  (adds_iff_of_perm List.perm_middle).trans adds_cons_iff

/-- A member of another name is of no consequence. -/
lemma adds_insert_iff (unknown : form.field? name = none) :
    form.Adds values (before ++ (some name, n) :: after) values' ↔
      form.Adds values (before ++ after) values' := by
  simp [adds_middle_iff, takesIn_iff_of_unknown unknown]

/-- Members about the same field that are read alike can replace each other. -/
lemma adds_replace_iff (same : form.field? name = form.field? name')
    (alike : ∀ k, form.field? name = some k → Alike (form.read k) n n') :
    form.Adds values (before ++ (some name, n) :: after) values' ↔
      form.Adds values (before ++ (some name', n') :: after) values' := by
  have one : ∀ v, form.TakesIn values (some name, n) v ↔ form.TakesIn values (some name', n') v := by
    intro v
    cases known : form.field? name with
    | none =>
      rw [takesIn_iff_of_unknown known, takesIn_iff_of_unknown (same ▸ known)]
    | some k =>
      have alike := alike k known
      rw [takesIn_iff_of_known known, takesIn_iff_of_known (same ▸ known)]
      simp only [alike _]
  simp only [adds_middle_iff, one]

/-- No two members are about the same field. -/
lemma not_adds_of_repeated (known : form.field? name = some k) (known' : form.field? name' = some k) :
    ¬ form.Adds values (before ++ (some name, n) :: members ++ (some name', n') :: after) values' := by
  rw [adds_middle_iff]
  rintro ⟨v, second, others⟩
  obtain ⟨-, b, -, rfl⟩ := (takesIn_iff_of_known known').mp second
  rw [List.append_assoc, List.cons_append, adds_middle_iff] at others
  obtain ⟨w, first, -⟩ := others
  obtain ⟨new, -⟩ := (takesIn_iff_of_known known).mp first
  rw [insert_self] at new
  cases new

/-- Every member about a field can be read. -/
lemma not_adds_of_unreadable (known : form.field? name = some k)
    (bad : ∀ a, ¬ Reads (form.read k) n.tokens a) :
    ¬ form.Adds values (before ++ (some name, n) :: after) values' := by
  rw [adds_middle_iff]
  rintro ⟨v, taken, -⟩
  obtain ⟨-, a, read, -⟩ := (takesIn_iff_of_known known).mp taken
  exact bad a read

end Members

section Items

variable {ks : List κ} {items itemsBefore itemsAfter : List Node}

lemma inOrder_cons_iff {n : Node} : form.InOrder (k :: ks) values (n :: items) values' ↔
    ∃ a, Reads (form.read k) n.tokens a ∧ form.InOrder ks (values.insert k a) items values' := by
  constructor
  · rintro (_ | ⟨first, others⟩)
    exact ⟨_, first, others⟩
  · rintro ⟨a, first, others⟩
    exact .cons first others

/-- Items that are read alike as the value of their field can replace each other. -/
lemma inOrder_replace_iff (place : ks[itemsBefore.length]? = some k) (alike : Alike (form.read k) n n') :
    form.InOrder ks values (itemsBefore ++ n :: itemsAfter) values' ↔
      form.InOrder ks values (itemsBefore ++ n' :: itemsAfter) values' := by
  induction itemsBefore generalizing ks values with
  | nil =>
    cases ks with
    | nil => cases place
    | cons j ks =>
      obtain rfl : j = k := Option.some.inj place
      simp only [List.nil_append, inOrder_cons_iff, alike _]
  | cons m itemsBefore ih =>
    cases ks with
    | nil => cases place
    | cons j ks =>
      simp only [List.cons_append, inOrder_cons_iff, ih place]

/-- Every item can be read as the value of its field. -/
lemma not_inOrder_of_unreadable (place : ks[itemsBefore.length]? = some k)
    (bad : ∀ a, ¬ Reads (form.read k) n.tokens a) :
    ¬ form.InOrder ks values (itemsBefore ++ n :: itemsAfter) values' := by
  induction itemsBefore generalizing ks values with
  | nil =>
    cases ks with
    | nil => cases place
    | cons j ks =>
      obtain rfl : j = k := Option.some.inj place
      simp [inOrder_cons_iff, bad]
  | cons m itemsBefore ih =>
    cases ks with
    | nil => cases place
    | cons j ks => simp [inOrder_cons_iff, ih place]

end Items

end ClaimTracker.Json.Form
