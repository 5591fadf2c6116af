import ClaimTracker.Proofs.Json.Form

/-!
# What readers refuse

A reader refuses tokens if it gives up on them, whatever follows. A list is given up at the first item
that is refused and a record at the first field that is, however much has been read before. A record
that lacks a field is given up at its end.
-/

namespace ClaimTracker.Json

section Leading

variable {α : Type}

/-- The tokens of parts after each of which another part follows. -/
def leadingTokens (part : α → List Token) (l : List α) : List Token :=
  l.flatMap fun a => part a ++ [.comma]

lemma leadingTokens_cons (part : α → List Token) (a : α) (l : List α) :
    leadingTokens part (a :: l) = part a ++ .comma :: leadingTokens part l := by
  simp [leadingTokens]

lemma length_le_leadingTokens (part : α → List Token) (l : List α) :
    l.length ≤ (leadingTokens part l).length := by
  induction l with
  | nil => exact Nat.zero_le _
  | cons a l ih =>
    rw [leadingTokens_cons, List.length_append, List.length_cons, List.length_cons]
    omega

lemma isDelimited_leadingTokens {part : α → List Token} {l : List α}
    (h : ∀ a ∈ l, ∀ t ∈ part a, t.isDelimited = true) :
    ∀ t ∈ leadingTokens part l, t.isDelimited = true := by
  intro t ht
  obtain ⟨a, ha, ht⟩ := List.mem_flatMap.mp ht
  rcases List.mem_append.mp ht with ht | ht
  · exact h a ha t ht
  · obtain rfl := List.mem_singleton.mp ht
    rfl

end Leading

namespace Reader

variable {α β : Type} {read : Reader α} {l : List Token} {e : ReadError}

/-- The reader gives up on these tokens, whatever follows them. -/
def Refuses (read : Reader α) (l : List Token) (e : ReadError) : Prop :=
  ∀ rest, read (l ++ rest) = .error e

lemma Refuses.bind (h : Refuses read l e) (next : α × List Token → Except ReadError β)
    (rest : List Token) : (read (l ++ rest) >>= next) = .error e := by
  rw [h rest]
  rfl

lemma Refuses.map (h : Refuses read l e) (f : α → β) : Refuses (map f read) l e := by
  intro rest
  rw [Reader.map, h rest]
  rfl

section List

variable {write : α → Json} {good : List α} {bad : List Token}

lemma refuses_moreItems (h : ∀ a ∈ good, Reads read (write a).tokens a) (refused : Refuses read bad e)
    {fuel : Nat} (enough : good.length < fuel) :
    Refuses (moreItems read fuel)
      (.comma :: (leadingTokens (fun a => (write a).tokens) good ++ bad)) e := by
  induction good generalizing fuel with
  | nil =>
    intro rest
    cases fuel with
    | zero => cases enough
    | succ fuel => exact refused.bind _ rest
  | cons a good ih =>
    intro rest
    cases fuel with
    | zero => cases enough
    | succ fuel =>
      have first := h a List.mem_cons_self
      have others := ih (fun b hb => h b (List.mem_cons_of_mem a hb))
        (Nat.lt_of_succ_lt_succ enough)
      rw [leadingTokens_cons, List.cons_append, List.append_assoc, List.append_assoc, moreItems,
        first.bind]
      dsimp only
      rw [← List.append_assoc]
      exact others.bind _ rest

/-- A list is given up at an item that is refused, after any number of others that are read. -/
lemma refuses_list (h : ∀ a ∈ good, Reads read (write a).tokens a) (refused : Refuses read bad e)
    (begins : ∃ t l, bad = t :: l ∧ t ≠ .closeBracket) :
    Refuses (list read)
      (.openBracket :: (leadingTokens (fun a => (write a).tokens) good ++ bad)) e := by
  intro rest
  cases good with
  | nil =>
    obtain ⟨t, l, rfl, not_closing⟩ := begins
    rw [leadingTokens, List.flatMap_nil, List.nil_append, List.cons_append, list]
    · exact refused.bind _ rest
    · simp [not_closing]
  | cons a good =>
    obtain ⟨t, r, ht, not_closing⟩ := exists_tokens_eq (write a)
    have first := h a List.mem_cons_self
    have enough : good.length <
        (.comma :: (leadingTokens (fun a => (write a).tokens) good ++ bad) ++ rest).length := by
      have := length_le_leadingTokens (fun a => (write a).tokens) good
      simp only [List.length_append, List.length_cons]
      omega
    have others := refuses_moreItems (fun b hb => h b (List.mem_cons_of_mem a hb)) refused enough
    rw [leadingTokens_cons, List.cons_append, List.append_assoc, List.append_assoc, list,
      first.bind]
    · dsimp only
      rw [← List.append_assoc]
      exact others.bind _ rest
    · rw [ht]
      simp [not_closing]

end List

end Reader

namespace Form

open Reader

variable {κ : Type} {T : κ → Type} [DecidableEq κ] {form : Form κ T} {content : (k : κ) → T k}
  {good : List (κ × Json)} {k : κ} {bad : List Token} {e : ReadError}

/-- The tokens of members and of the name of another, up to where the value of that one begins. -/
def tokensUpTo (form : Form κ T) (good : List (κ × Json)) (k : κ) (bad : List Token) :
    List Token :=
  leadingTokens namedTokens (form.membersOf good) ++ .text (some (form.name k)) :: .colon :: bad

omit [DecidableEq κ] in
lemma tokensUpTo_cons (w : κ × Json) :
    form.tokensUpTo (w :: good) k bad =
      namedTokens (form.name w.1, w.2) ++ .comma :: form.tokensUpTo good k bad := by
  rw [tokensUpTo, membersOf, List.map_cons, leadingTokens_cons, List.append_assoc]
  rfl

/-- One member whose value is refused. -/
lemma refuses_member (values : Values T) (new : values k = none)
    (named : form.field? (form.name k) = some k) (refused : Refuses (form.read k) bad e) :
    Refuses (member form.step values) (.text (some (form.name k)) :: .colon :: bad) e := by
  intro rest
  have value := refused.map (values.insert k) rest
  simp only [member, List.cons_append, memberName, step, named, new, Step.take,
    Option.isSome_none, Bool.false_eq_true, if_false, mark, bind, Except.bind, if_true]
  exact value

lemma refuses_moreMembers {values : Values T} (h : form.Readable good content)
    (new : ∀ w ∈ good, values w.1 = none) (fresh : values k = none)
    (other : k ∉ good.map Prod.fst) (named : form.field? (form.name k) = some k)
    (refused : Refuses (form.read k) bad e) {fuel : Nat} (enough : good.length < fuel) :
    Refuses (moreMembers form.step fuel values) (.comma :: form.tokensUpTo good k bad) e := by
  induction good generalizing values fuel with
  | nil =>
    intro rest
    cases fuel with
    | zero => cases enough
    | succ fuel => exact (refuses_member values fresh named refused).bind _ rest
  | cons w good ih =>
    intro rest
    cases fuel with
    | zero => cases enough
    | succ fuel =>
      obtain ⟨hne, other⟩ := not_or.mp (mt List.mem_cons.mpr other)
      obtain ⟨hw, new⟩ := List.forall_mem_cons.mp new
      have first := h.reads_head values hw
      have others := ih h.tail (h.insert_head new) ((insert_of_ne values _ hne).trans fresh) other
        (Nat.lt_of_succ_lt_succ enough)
      rw [tokensUpTo_cons, List.cons_append, List.append_assoc, moreMembers, first.bind]
      exact others rest

/-- A record is given up at a field that is refused, after any number of others that are read. -/
lemma refuses_record (h : form.Readable good content) (other : k ∉ good.map Prod.fst)
    (named : form.field? (form.name k) = some k) (refused : Refuses (form.read k) bad e) :
    Refuses form.record (.openBrace :: form.tokensUpTo good k bad) e := by
  have members : Refuses (members form.step fun _ => none) (form.tokensUpTo good k bad) e := by
    intro rest
    cases good with
    | nil => exact (refuses_member (fun _ => none) rfl named refused).bind _ rest
    | cons w good =>
      obtain ⟨hne, other⟩ := not_or.mp (mt List.mem_cons.mpr other)
      have first := h.reads_head (fun _ => none) rfl
      have enough : good.length < (.comma :: form.tokensUpTo good k bad ++ rest).length := by
        have := length_le_leadingTokens namedTokens (form.membersOf good)
        rw [membersOf, List.length_map] at this
        simp only [tokensUpTo, List.length_append, List.length_cons, membersOf]
        omega
      have others := refuses_moreMembers h.tail (h.insert_head fun _ _ => rfl)
        (insert_of_ne (fun _ => none) _ hne) other named refused enough
      rw [tokensUpTo_cons, List.append_assoc, Reader.members, first.bind]
      · exact others rest
      · simp [namedTokens]
  intro rest
  exact members.bind _ rest

/-- A record is given up at its end if it lacks a field that has no default. The first such field is
complained of. -/
lemma refuses_record_of_missing (h : form.Readable good content)
    (missing : (form.fields.find? fun j =>
      decide (j ∉ good.map Prod.fst) && (form.default? j).isNone) = some k) :
    Refuses form.record (object (form.membersOf good)).tokens
      (.mismatch (some (.missingField (form.name k)))) := by
  have absent : ∀ j, (form.value? (Values.fill content (fun _ => none) good) j).isNone =
      (decide (j ∉ good.map Prod.fst) && (form.default? j).isNone) := by
    intro j
    by_cases hj : j ∈ good.map Prod.fst
    · rw [value?, fill_of_mem hj]
      simp [hj]
    · rw [value?, fill_of_notMem hj]
      simp [hj]
  have incomplete : form.complete (Values.fill content (fun _ => none) good) =
      .error (.mismatch (some (.missingField (form.name k)))) := by
    unfold complete
    split
    · rename_i j found
      simp only [absent, missing] at found
      obtain rfl := Option.some.inj found
      rfl
    · rename_i found
      simp only [absent, missing] at found
      cases found
  obtain ⟨l, hl, read⟩ := reads_members h
  intro rest
  rw [hl, List.cons_append, record, read.bind]
  dsimp only
  rw [incomplete]
  rfl

/-- A written record from which a field without a default has been taken is refused. -/
lemma refuses_record_without (h : form.Writes good content) (required : form.default? k = none) :
    Refuses form.record (object (form.membersOf (good.filter fun w => w.1 ≠ k))).tokens
      (.mismatch (some (.missingField (form.name k)))) := by
  have sub : (good.filter fun w => decide (w.1 ≠ k)).Sublist good := List.filter_sublist
  refine refuses_record_of_missing ⟨h.nodup.sublist (sub.map _),
    fun w hw => h.named w (sub.subset hw), fun w hw => h.reads w (sub.subset hw)⟩ ?_
  have only : ∀ j, (decide (j ∉ (good.filter fun w => w.1 ≠ k).map Prod.fst) &&
      (form.default? j).isNone) = decide (j = k) := by
    intro j
    by_cases hj : j = k
    · subst hj
      simp [required]
    · cases hd : form.default? j with
      | some a => simp [hj]
      | none =>
        -- A field without a default is written, and only the one has been taken away.
        have written : j ∈ good.map Prod.fst := Decidable.byContradiction fun absent => by
          rw [h.missing j absent] at hd
          cases hd
        obtain ⟨w, hw, rfl⟩ := List.mem_map.mp written
        have kept : w.1 ∈ (good.filter fun w => w.1 ≠ k).map Prod.fst :=
          List.mem_map_of_mem (List.mem_filter.mpr ⟨hw, by simpa using hj⟩)
        simp only [kept, hj, not_true, decide_false, Bool.false_and]
  simp only [only]
  cases found : form.fields.find? fun j => decide (j = k) with
  | some j =>
    have same := List.find?_some found
    rw [of_decide_eq_true same]
  | none => simpa using List.find?_eq_none.mp found k (form.mem_fields k)

end Form

end ClaimTracker.Json
