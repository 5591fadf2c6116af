import ClaimTracker.Json.Form
import ClaimTracker.Proofs.Json.Reader

/-!
# Reading back written records

A record that is written as an object with a member for each of some fields, and of whose other
fields each stands for what its absence means, is read as the record that was written.
-/

namespace ClaimTracker.Json.Form

open Reader

variable {κ : Type} {T : κ → Type} {form : Form κ T} {content : (k : κ) → T k}

def membersOf (form : Form κ T) (written : List (κ × Json)) : List (String × Json) :=
  written.map fun w => (form.name w.1, w.2)

lemma isDelimited_object_membersOf {written : List (κ × Json)}
    (h : ∀ w ∈ written, w.2.IsDelimited) : (object (form.membersOf written)).IsDelimited := by
  refine isDelimited_object fun m hm => ?_
  obtain ⟨w, hw, rfl⟩ := List.mem_map.mp hm
  exact h w hw

/-- What is written is what a record holds: no field twice, each so that it can be read, and of
those not written each holds what its absence stands for. -/
structure Writes (form : Form κ T) (written : List (κ × Json)) (content : (k : κ) → T k) :
    Prop where
  nodup : (written.map Prod.fst).Nodup
  named : ∀ w ∈ written, form.field? (form.name w.1) = some w.1
  reads : ∀ w ∈ written, Reads (form.read w.1) w.2.tokens (content w.1)
  missing : ∀ k, k ∉ written.map Prod.fst → form.default? k = some (content k)

/-- Members of different fields, each of which can be read. -/
structure Readable (form : Form κ T) (written : List (κ × Json)) (content : (k : κ) → T k) :
    Prop where
  nodup : (written.map Prod.fst).Nodup
  named : ∀ w ∈ written, form.field? (form.name w.1) = some w.1
  reads : ∀ w ∈ written, Reads (form.read w.1) w.2.tokens (content w.1)

lemma Writes.readable {written : List (κ × Json)} (h : form.Writes written content) :
    form.Readable written content :=
  ⟨h.nodup, h.named, h.reads⟩

lemma Readable.tail {w : κ × Json} {written : List (κ × Json)}
    (h : form.Readable (w :: written) content) : form.Readable written content where
  nodup := (List.nodup_cons.mp h.nodup).2
  named v hv := h.named v (List.mem_cons_of_mem w hv)
  reads v hv := h.reads v (List.mem_cons_of_mem w hv)

/-- If every field has a value, the record is complete. -/
lemma complete_eq {values : Values T} (h : ∀ k, form.value? values k = some (content k)) :
    form.complete values = .ok content := by
  have found : (form.fields.find? fun k => (form.value? values k).isNone) = none := by
    refine List.find?_eq_none.mpr fun k _ => ?_
    simp [h k]
  unfold complete
  split
  · rename_i k missing
    rw [found] at missing
    cases missing
  · refine congrArg Except.ok (funext fun k => ?_)
    simp [h k]

variable [DecidableEq κ]

@[simp] lemma insert_self (values : Values T) (k : κ) (a : T k) : values.insert k a k = some a := by
  simp [Values.insert]

lemma insert_of_ne (values : Values T) {k j : κ} (a : T k) (h : j ≠ k) :
    values.insert k a j = values j := by
  simp [Values.insert, h]

/-- The values after some fields of a record have been read. -/
def Values.fill (content : (k : κ) → T k) (values : Values T) (written : List (κ × Json)) :
    Values T :=
  written.foldl (fun values w => values.insert w.1 (content w.1)) values

lemma fill_of_notMem {values : Values T} {written : List (κ × Json)} {k : κ}
    (h : k ∉ written.map Prod.fst) : values.fill content written k = values k := by
  induction written generalizing values with
  | nil => rfl
  | cons w written ih =>
    obtain ⟨hne, hmem⟩ := not_or.mp (mt List.mem_cons.mpr h)
    exact (ih hmem).trans (insert_of_ne values _ hne)

lemma fill_of_mem {values : Values T} {written : List (κ × Json)} {k : κ}
    (h : k ∈ written.map Prod.fst) : values.fill content written k = some (content k) := by
  induction written generalizing values with
  | nil => cases h
  | cons w written ih =>
    by_cases hmem : k ∈ written.map Prod.fst
    · exact ih hmem
    · obtain rfl : k = w.1 := (List.mem_cons.mp h).resolve_right hmem
      exact (fill_of_notMem hmem).trans (insert_self values _ _)

/-- One member of a field that has not been read before. -/
lemma reads_member (values : Values T) {k : κ} {j : Json} (new : values k = none)
    (named : form.field? (form.name k) = some k) (h : Reads (form.read k) j.tokens (content k)) :
    Reads (member form.step values) (namedTokens (form.name k, j))
      (values.insert k (content k)) := by
  intro rest
  have value := h.map (values.insert k) rest
  simp only [member, namedTokens, List.cons_append, memberName, step, named, new, Step.take,
    Option.isSome_none, Bool.false_eq_true, if_false, mark, bind, Except.bind, if_true]
  exact value

/-- The first of the members, where its field has not been read before. -/
lemma Readable.reads_head {w : κ × Json} {written : List (κ × Json)}
    (h : form.Readable (w :: written) content) (values : Values T) (new : values w.1 = none) :
    Reads (member form.step values) (namedTokens (form.name w.1, w.2))
      (values.insert w.1 (content w.1)) :=
  reads_member values new (h.named w List.mem_cons_self) (h.reads w List.mem_cons_self)

/-- After the first of the members, none of the others has been read. -/
lemma Readable.insert_head {w : κ × Json} {written : List (κ × Json)}
    (h : form.Readable (w :: written) content) {values : Values T}
    (new : ∀ v ∈ written, values v.1 = none) :
    ∀ v ∈ written, values.insert w.1 (content w.1) v.1 = none := by
  intro v hv
  have hne : v.1 ≠ w.1 := fun heq =>
    (List.nodup_cons.mp h.nodup).1 (heq ▸ List.mem_map_of_mem hv)
  rw [insert_of_ne values _ hne]
  exact new v hv

/-- Members after the first, each after a comma, up to the closing brace. -/
lemma reads_moreMembers (values : Values T) {written : List (κ × Json)}
    (h : form.Readable written content) (new : ∀ w ∈ written, values w.1 = none) {fuel : Nat}
    (enough : written.length ≤ fuel) :
    Reads (moreMembers form.step fuel values)
      (restTokens namedTokens .closeBrace (form.membersOf written))
      (values.fill content written) := by
  induction written generalizing values fuel with
  | nil =>
    intro rest
    cases fuel <;> rfl
  | cons w written ih =>
    intro rest
    cases fuel with
    | zero => cases enough
    | succ fuel =>
      obtain ⟨hw, new⟩ := List.forall_mem_cons.mp new
      have first := h.reads_head values hw
      have others := ih (values.insert w.1 (content w.1)) h.tail (h.insert_head new)
        (Nat.le_of_succ_le_succ enough)
      rw [membersOf, List.map_cons, restTokens_cons, List.cons_append, List.append_assoc,
        moreMembers, first.bind]
      exact others rest

/-- The members of a record after the opening brace. -/
lemma reads_members {written : List (κ × Json)} (h : form.Readable written content) :
    ∃ l, (object (form.membersOf written)).tokens = .openBrace :: l ∧
      Reads (members form.step fun _ => none) l (Values.fill content (fun _ => none) written) := by
  cases written with
  | nil =>
    refine ⟨[.closeBrace], by rw [membersOf, List.map_nil, tokens]; rfl, ?_⟩
    intro rest
    rfl
  | cons w written =>
    refine ⟨_, tokens_object_cons _ _, ?_⟩
    intro rest
    have first := h.reads_head (fun _ => none) rfl
    have enough : written.length ≤
        (restTokens namedTokens .closeBrace (form.membersOf written) ++ rest).length := by
      have := length_le_restTokens namedTokens .closeBrace (form.membersOf written)
      rw [membersOf, List.length_map] at this
      rw [List.length_append]
      exact Nat.le_add_right_of_le this
    have others := reads_moreMembers (Values.insert (fun _ => none) w.1 (content w.1)) h.tail
      (h.insert_head fun _ _ => rfl) enough
    rw [List.append_assoc, members, first.bind]
    · exact others rest
    · simp [namedTokens]

/-- A record that was written is read. -/
theorem reads_record {written : List (κ × Json)} (h : form.Writes written content) :
    Reads form.record (object (form.membersOf written)).tokens content := by
  have complete : form.complete (Values.fill content (fun _ => none) written) = .ok content := by
    refine complete_eq fun k => ?_
    by_cases hk : k ∈ written.map Prod.fst
    · rw [value?, fill_of_mem hk, Option.some_or]
    · rw [value?, fill_of_notMem hk, Option.none_or]
      exact h.missing k hk
  obtain ⟨l, hl, read⟩ := reads_members h.readable
  intro rest
  rw [hl, List.cons_append, record, read.bind]
  dsimp only
  rw [complete]
  rfl

end ClaimTracker.Json.Form
