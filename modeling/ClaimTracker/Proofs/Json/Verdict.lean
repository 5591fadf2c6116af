import Mathlib.Data.List.Forall2
import ClaimTracker.Proofs.Json.Node
import ClaimTracker.Proofs.Json.Refusal

/-!
# What readers make of values

A value is either read or refused, whatever follows it in the document. For lists it is said here which
values are read as what: an array, item by item.
-/

namespace ClaimTracker.Json

namespace Reader

variable {α β : Type} {read : Reader α} {l : List Token} {a b : α} {e : ReadError}

lemma Reads.unique (h : Reads read l a) (h' : Reads read l b) : a = b := by
  have same := (h []).symm.trans (h' [])
  exact (Prod.mk.inj (Except.ok.inj same)).1

lemma Reads.not_refuses (h : Reads read l a) : ¬ Refuses read l e := by
  intro refused
  have same := (h []).symm.trans (refused [])
  cases same

def Alike (read : Reader α) (n n' : Node) : Prop :=
  ∀ a, Reads read n.tokens a ↔ Reads read n'.tokens a

def Decides (read : Reader α) : Prop :=
  ∀ n : Node, (∃ a, Reads read n.tokens a) ∨ ∃ e, Refuses read n.tokens e

lemma Decides.map (h : Decides read) (f : α → β) : Decides (map f read) := by
  intro n
  rcases h n with ⟨a, ha⟩ | ⟨e, he⟩
  · exact Or.inl ⟨f a, ha.map f⟩
  · exact Or.inr ⟨e, he.map f⟩

lemma reads_map_iff (decides : Decides read) (f : α → β) {n : Node} {b : β} :
    Reads (Reader.map f read) n.tokens b ↔ ∃ a, Reads read n.tokens a ∧ f a = b := by
  constructor
  · intro whole
    rcases decides n with ⟨a, ha⟩ | ⟨e, he⟩
    · exact ⟨a, ha, (ha.map f).unique whole⟩
    · exact absurd (he.map f) whole.not_refuses
  · rintro ⟨a, ha, rfl⟩
    exact ha.map f

lemma Alike.map (decides : Decides read) {n n' : Node} (alike : Alike read n n') (f : α → β) :
    Alike (Reader.map f read) n n' := by
  intro b
  simp only [reads_map_iff decides, alike _]

lemma Refuses.append (h : Refuses read l e) (more : List Token) : Refuses read (l ++ more) e := by
  intro rest
  rw [List.append_assoc]
  exact h (more ++ rest)

lemma Refuses.array (h : Refuses read [.openBracket] e) (items : List Node) :
    Refuses read (Node.array items).tokens e := by
  cases items <;> exact h.append _

lemma Refuses.object (h : Refuses read [.openBrace] e) (members : List Node.Member) :
    Refuses read (Node.object members).tokens e := by
  cases members <;> exact h.append _

/-- A reader of single tokens decides on every value, if it refuses what opens an array or an object. -/
lemma decides_of_token (token : ∀ t, (∃ a, Reads read [t] a) ∨ ∃ e, Refuses read [t] e)
    (array : ∃ e, Refuses read [.openBracket] e) (object : ∃ e, Refuses read [.openBrace] e) :
    Decides read := by
  obtain ⟨e, array⟩ := array
  obtain ⟨e', object⟩ := object
  intro n
  cases n with
  | array items => exact Or.inr ⟨e, array.array items⟩
  | object members => exact Or.inr ⟨e', object.object members⟩
  | _ => exact token _

lemma decides_text : Decides text := by
  refine decides_of_token (fun t => ?_) ⟨_, fun rest => rfl⟩ ⟨_, fun rest => rfl⟩
  cases t with
  | text content =>
    cases content with
    | some s => exact Or.inl ⟨s, reads_text s⟩
    | none => exact Or.inr ⟨_, fun rest => rfl⟩
  | _ => exact Or.inr ⟨_, fun rest => rfl⟩

lemma decides_bool : Decides bool := by
  refine decides_of_token (fun t => ?_) ⟨_, fun rest => rfl⟩ ⟨_, fun rest => rfl⟩
  cases t with
  | bool b => exact Or.inl ⟨b, reads_bool b⟩
  | _ => exact Or.inr ⟨_, fun rest => rfl⟩

lemma decides_null : Decides null := by
  refine decides_of_token (fun t => ?_) ⟨_, fun rest => rfl⟩ ⟨_, fun rest => rfl⟩
  cases t with
  | null => exact Or.inl ⟨(), fun rest => rfl⟩
  | _ => exact Or.inr ⟨_, fun rest => rfl⟩

lemma decides_instant : Decides instant := by
  intro n
  rcases decides_text n with ⟨s, said⟩ | ⟨e, refused⟩
  · cases moment : Instant.ofText? s with
    | some t =>
      refine Or.inl ⟨t, fun rest => ?_⟩
      rw [instant, said.bind]
      simp only [moment]
    | none =>
      refine Or.inr ⟨.mismatch none, fun rest => ?_⟩
      rw [instant, said.bind]
      simp only [moment]
  · exact Or.inr ⟨e, fun rest => refused.bind _ rest⟩

/-- Only null is no value. -/
lemma optional_tokens_append {n : Node} (h : n ≠ .null) (read : Reader α) (rest : List Token) :
    optional read (n.tokens ++ rest) = map some read (n.tokens ++ rest) := by
  cases n with
  | null => exact absurd rfl h
  | array items => cases items <;> rfl
  | object members => cases members <;> rfl
  | _ => rfl

lemma Decides.optional (h : Decides read) : Decides (optional read) := by
  intro n
  by_cases absent : n = .null
  · rw [absent]
    exact Or.inl ⟨none, reads_optional_null read⟩
  · rcases h.map some n with ⟨a, ha⟩ | ⟨e, he⟩
    · exact Or.inl ⟨a, fun rest => (optional_tokens_append absent read rest).trans (ha rest)⟩
    · exact Or.inr ⟨e, fun rest => (optional_tokens_append absent read rest).trans (he rest)⟩

/-- A choice written as an object. -/
lemma choice_object_append (named? : String → Option α) (known : List String) (s : String) (n : Node)
    (members : List Node.Member) (rest : List Token) :
    choice named? known ((Node.object ((some s, n) :: members)).tokens ++ rest) = do
      let a ← named named? known s
      let ((), l) ← null (n.tokens ++ (Node.memberTokens members ++ rest))
      let l ← mark .closeBrace l
      return (a, l) := by
  rw [Node.tokens, List.cons_append, List.cons_append, List.cons_append, List.append_assoc]
  rfl

lemma decides_choice (named? : String → Option α) (known : List String) :
    Decides (choice named? known) := by
  intro n
  cases n with
  | text content =>
    cases content with
    | some s =>
      cases found : named? s with
      | some a => exact Or.inl ⟨a, reads_choice found⟩
      | none =>
        refine Or.inr ⟨.mismatch (some (.unknownName s known)), fun rest => ?_⟩
        simp [Node.tokens, choice, named, found, Except.map]
    | none => exact Or.inr ⟨_, fun rest => rfl⟩
  | object members =>
    rcases members with _ | ⟨⟨_ | s, n⟩, others⟩
    · exact Or.inr ⟨_, fun rest => rfl⟩
    · exact Or.inr ⟨_, fun rest => rfl⟩
    cases found : named named? known s with
    | error e =>
      refine Or.inr ⟨e, fun rest => ?_⟩
      rw [choice_object_append, found]
      rfl
    | ok a =>
      rcases decides_null n with ⟨_, nothing⟩ | ⟨e, refused⟩
      · -- a second member is no closing brace
        cases others with
        | nil =>
          refine Or.inl ⟨a, fun rest => ?_⟩
          rw [choice_object_append, found]
          exact nothing.bind _ _
        | cons m others =>
          refine Or.inr ⟨.broken .malformed, fun rest => ?_⟩
          rw [choice_object_append, found]
          exact nothing.bind _ _
      · refine Or.inr ⟨e, fun rest => ?_⟩
        rw [choice_object_append, found]
        exact refused.bind _ _
  | array items => exact Or.inr ⟨_, Refuses.array (fun rest => rfl) items⟩
  | _ => exact Or.inr ⟨_, fun rest => rfl⟩

section List

variable {items : List Node} {values : List α}

/-- The items are read as these values, one by one. -/
def ReadsEach (read : Reader α) (items : List Node) (values : List α) : Prop :=
  List.Forall₂ (fun n a => Reads read n.tokens a) items values

lemma ReadsEach.exists_reads (h : ReadsEach read items values) {n : Node} (hn : n ∈ items) :
    ∃ a, Reads read n.tokens a := by
  induction h with
  | nil => cases hn
  | cons first _ ih =>
    rcases List.mem_cons.mp hn with rfl | hn
    · exact ⟨_, first⟩
    · exact ih hn

/-- Items after the first, each after a comma, up to the closing bracket. -/
lemma ReadsEach.moreItems (h : ReadsEach read items values) {fuel : Nat} (enough : items.length ≤ fuel) :
    Reads (moreItems read fuel) (Node.itemTokens items) values := by
  induction h generalizing fuel with
  | nil =>
    intro rest
    rw [Node.itemTokens]
    cases fuel <;> rfl
  | cons first others ih =>
    intro rest
    cases fuel with
    | zero => cases enough
    | succ fuel =>
      have others := ih (Nat.le_of_succ_le_succ enough)
      rw [Node.itemTokens, List.cons_append, List.append_assoc, Reader.moreItems, first.bind]
      dsimp only
      rw [others.bind]
      rfl

/-- They are given up at the first of them that cannot be read. -/
lemma exists_refuses_moreItems (decides : Decides read) (bad : ∀ l, ¬ ReadsEach read items l) :
    ∃ e, ∀ fuel, items.length ≤ fuel → Refuses (moreItems read fuel) (Node.itemTokens items) e := by
  induction items with
  | nil => exact absurd .nil (bad [])
  | cons n items ih =>
    rcases decides n with ⟨a, first⟩ | ⟨e, refused⟩
    · obtain ⟨e, others⟩ := ih fun l hl => bad (a :: l) (.cons first hl)
      refine ⟨e, fun fuel enough rest => ?_⟩
      cases fuel with
      | zero => cases enough
      | succ fuel =>
        rw [Node.itemTokens, List.cons_append, List.append_assoc, moreItems, first.bind]
        exact (others fuel (Nat.le_of_succ_le_succ enough)).bind _ rest
    · refine ⟨e, fun fuel enough rest => ?_⟩
      cases fuel with
      | zero => cases enough
      | succ fuel =>
        rw [Node.itemTokens, List.cons_append, List.append_assoc, moreItems]
        exact refused.bind _ _

lemma length_le_append (rest : List Token) :
    items.length ≤ (Node.itemTokens items ++ rest).length := by
  have := Node.length_le_itemTokens items
  rw [List.length_append]
  omega

/-- The first item is read, and then the others. -/
lemma list_tokens_append (read : Reader α) (n : Node) (items : List Node) (rest : List Token) :
    list read ((Node.array (n :: items)).tokens ++ rest) =
      (read (n.tokens ++ (Node.itemTokens items ++ rest)) >>= fun (a, l) => do
        let (values, l) ← moreItems read l.length l
        return (a :: values, l)) := by
  obtain ⟨t, l, ht, not_closing⟩ := n.exists_tokens_eq
  rw [Node.tokens, List.cons_append, List.append_assoc, list]
  rw [ht]
  simp [not_closing]

lemma ReadsEach.list (h : ReadsEach read items values) :
    Reads (list read) (Node.array items).tokens values := by
  intro rest
  cases h with
  | nil => rfl
  | cons first others =>
    rw [list_tokens_append, first.bind]
    dsimp only
    rw [(ReadsEach.moreItems others (length_le_append rest)).bind]
    rfl

lemma exists_refuses_list (decides : Decides read) (bad : ∀ l, ¬ ReadsEach read items l) :
    ∃ e, Refuses (Reader.list read) (Node.array items).tokens e := by
  cases items with
  | nil => exact absurd .nil (bad [])
  | cons n items =>
    rcases decides n with ⟨a, first⟩ | ⟨e, refused⟩
    · obtain ⟨e, others⟩ := exists_refuses_moreItems decides fun l hl => bad (a :: l) (.cons first hl)
      refine ⟨e, fun rest => ?_⟩
      rw [list_tokens_append, first.bind]
      exact (others _ (length_le_append rest)).bind _ rest
    · refine ⟨e, fun rest => ?_⟩
      rw [list_tokens_append]
      exact refused.bind _ _

lemma Decides.list (decides : Decides read) : Decides (Reader.list read) := by
  intro n
  cases n with
  | array items =>
    by_cases readable : ∃ values, ReadsEach read items values
    · exact Or.inl (readable.imp fun _ => ReadsEach.list)
    · exact Or.inr (exists_refuses_list decides (not_exists.mp readable))
  | object members => exact Or.inr ⟨_, Refuses.object (fun rest => rfl) members⟩
  | _ => exact Or.inr ⟨_, fun rest => rfl⟩

/-- An array is read as a list exactly if its items are read as the elements. -/
lemma reads_list_iff (decides : Decides read) :
    Reads (Reader.list read) (Node.array items).tokens values ↔ ReadsEach read items values := by
  refine ⟨fun whole => ?_, ReadsEach.list⟩
  by_contra bad
  have none : ∀ l, ¬ ReadsEach read items l := by
    intro l each
    exact bad (each.list.unique whole ▸ each)
  obtain ⟨e, refused⟩ := exists_refuses_list decides none
  exact whole.not_refuses refused

end List

end Reader

end ClaimTracker.Json
