import ClaimTracker.Json.Reader
import ClaimTracker.Proofs.Json.Tokens

/-!
# What readers read

A reader reads a value from tokens if it takes exactly these tokens off the front, whatever follows
them. For readers of texts, truth values, moments and lists it is said here from which tokens they
read what.
-/

namespace ClaimTracker.Json

namespace Reader

variable {α β : Type}

/-- The reader reads a value from these tokens and leaves what follows them. -/
def Reads (read : Reader α) (l : List Token) (a : α) : Prop :=
  ∀ rest, read (l ++ rest) = .ok (a, rest)

/-- What comes after a reader goes on with what it has read. -/
lemma Reads.bind {read : Reader α} {l : List Token} {a : α} (h : Reads read l a)
    (next : α × List Token → Except ReadError β) (rest : List Token) :
    (read (l ++ rest) >>= next) = next (a, rest) := by
  rw [h rest]
  rfl

lemma Reads.map {read : Reader α} {l : List Token} {a : α} (h : Reads read l a) (f : α → β) :
    Reads (map f read) l (f a) := by
  intro rest
  rw [Reader.map, h rest]
  rfl

lemma reads_text (s : String) : Reads text (Json.text s).tokens s := by
  intro rest
  rw [tokens]
  rfl

lemma reads_bool (b : Bool) : Reads bool (Json.bool b).tokens b := by
  intro rest
  rw [tokens]
  rfl

lemma reads_instant {s : String} {t : Instant} (h : Instant.ofText? s = some t) :
    Reads instant (Json.text s).tokens t := by
  intro rest
  have read := reads_text s rest
  simp only [instant, read]
  simp [bind, Except.bind, h]

lemma reads_choice {named? : String → Option α} {known : List String} {s : String} {a : α}
    (h : named? s = some a) : Reads (choice named? known) (Json.text s).tokens a := by
  intro rest
  rw [tokens]
  simp [choice, named, h, Except.map]

lemma reads_optional_null (read : Reader α) : Reads (optional read) Json.null.tokens none := by
  intro rest
  rw [tokens]
  rfl

lemma reads_optional_text {read : Reader α} {s : String} {a : α}
    (h : Reads read (Json.text s).tokens a) :
    Reads (optional read) (Json.text s).tokens (some a) := by
  intro rest
  have read := h rest
  rw [tokens, List.singleton_append] at read ⊢
  rw [optional, read]
  · rfl
  · simp

section List

variable {read : Reader α} {write : α → Json}

/-- Items after the first, each after a comma, up to the closing bracket. -/
lemma reads_moreItems {l : List α} (h : ∀ a ∈ l, Reads read (write a).tokens a) {fuel : Nat}
    (enough : l.length ≤ fuel) :
    Reads (moreItems read fuel) (restTokens (fun a => (write a).tokens) .closeBracket l) l := by
  induction l generalizing fuel with
  | nil =>
    intro rest
    cases fuel <;> rfl
  | cons a l ih =>
    intro rest
    cases fuel with
    | zero => cases enough
    | succ fuel =>
      have first := h a List.mem_cons_self
      have others := ih (fun b hb => h b (List.mem_cons_of_mem a hb))
        (Nat.le_of_succ_le_succ enough)
      rw [restTokens_cons, List.cons_append, List.append_assoc, moreItems, first.bind]
      dsimp only
      rw [others.bind]
      rfl

/-- A list of values is read item by item. -/
lemma reads_list {l : List α} (h : ∀ a ∈ l, Reads read (write a).tokens a) :
    Reads (list read) (Json.array (l.map write)).tokens l := by
  intro rest
  cases l with
  | nil => rw [List.map_nil, tokens]; rfl
  | cons a l =>
    obtain ⟨t, r, ht, not_closing⟩ := exists_tokens_eq (write a)
    have first := h a List.mem_cons_self
    have items : restTokens tokens .closeBracket (l.map write) =
        restTokens (fun a => (write a).tokens) .closeBracket l := by
      rw [restTokens, List.flatMap_map, restTokens]
    have enough : l.length ≤
        (restTokens (fun a => (write a).tokens) .closeBracket l ++ rest).length := by
      have := length_le_restTokens (fun a => (write a).tokens) .closeBracket l
      rw [List.length_append]
      omega
    have others := reads_moreItems (fun b hb => h b (List.mem_cons_of_mem a hb)) enough
    rw [List.map_cons, tokens_array_cons, items, List.cons_append, List.append_assoc, list,
      first.bind]
    · dsimp only
      rw [others.bind]
      rfl
    · rw [ht]
      simp [not_closing]

end List

end Reader

end ClaimTracker.Json
