import ClaimTracker.Json.Basic
import ClaimTracker.Text.Utf8
import Mathlib.Tactic.Lemma

/-!
# Tokens of arrays and objects

The tokens of an array or object are those of its first part and then, each after a comma, those of
the others, between the two brackets or braces. Numbers apart, all tokens that values are made of
are delimited: where a number ends depends on what follows.
-/

namespace ClaimTracker.Json

def octets (l : List Token) : List UInt8 :=
  Text.Utf8.encode (l.flatMap Token.write)

def namedTokens (m : String × Json) : List Token :=
  .text (some m.1) :: .colon :: m.2.tokens

section Rest

variable {α : Type}

/-- What follows the first of several parts: the others, each after a comma, and the closing
token. -/
def restTokens (part : α → List Token) (close : Token) (l : List α) : List Token :=
  (l.flatMap fun a => .comma :: part a) ++ [close]

lemma restTokens_cons (part : α → List Token) (close : Token) (a : α) (l : List α) :
    restTokens part close (a :: l) = .comma :: (part a ++ restTokens part close l) := by
  simp [restTokens]

lemma length_le_restTokens (part : α → List Token) (close : Token) (l : List α) :
    l.length ≤ (restTokens part close l).length := by
  induction l with
  | nil => exact Nat.zero_le _
  | cons a l ih =>
    rw [restTokens_cons, List.length_cons, List.length_cons, List.length_append]
    omega

end Rest

lemma tokens_array_cons (j : Json) (items : List Json) :
    (array (j :: items)).tokens =
      .openBracket :: (j.tokens ++ restTokens tokens .closeBracket items) := by
  have rest : ∀ j, itemTokens (j :: items) =
      j.tokens ++ items.flatMap fun k => .comma :: k.tokens := by
    induction items with
    | nil => simp [itemTokens]
    | cons k items ih =>
      intro j
      rw [itemTokens, ih, List.flatMap_cons, List.cons_append]
      simp
  rw [tokens, rest, restTokens]
  simp

lemma tokens_object_cons (m : String × Json) (members : List (String × Json)) :
    (object (m :: members)).tokens =
      .openBrace :: (namedTokens m ++ restTokens namedTokens .closeBrace members) := by
  have rest : ∀ m, memberTokens (m :: members) =
      namedTokens m ++ members.flatMap fun n => .comma :: namedTokens n := by
    induction members with
    | nil => rintro ⟨name, j⟩; simp [memberTokens, namedTokens]
    | cons n members ih =>
      rintro ⟨name, j⟩
      rw [memberTokens, ih, List.flatMap_cons]
      · simp [namedTokens]
      · simp
  rw [tokens, rest, restTokens]
  simp

/-- A value does not begin with a closing bracket. -/
lemma exists_tokens_eq (j : Json) : ∃ t l, j.tokens = t :: l ∧ t ≠ .closeBracket := by
  cases j with
  | array items => exact ⟨_, _, by rw [tokens]; rfl, by simp⟩
  | object members => exact ⟨_, _, by rw [tokens]; rfl, by simp⟩
  | _ => exact ⟨_, _, by rw [tokens], by simp⟩

/-- Whether a token ends where it ends whatever follows. -/
def Token.isDelimited : Token → Bool
  | .openBrace | .closeBrace | .openBracket | .closeBracket | .colon | .comma => true
  | .null | .bool _ => true
  | .text content => content.isSome
  | .number _ | .brokenText _ _ | .brokenNumber _ | .brokenWord _ | .stray => false

/-- No number occurs in the value. -/
def IsDelimited (j : Json) : Prop :=
  ∀ t ∈ j.tokens, t.isDelimited = true

lemma isDelimited_null : null.IsDelimited := by
  simp [IsDelimited, tokens, Token.isDelimited]

lemma isDelimited_bool (b : Bool) : (bool b).IsDelimited := by
  simp [IsDelimited, tokens, Token.isDelimited]

lemma isDelimited_text (s : String) : (text s).IsDelimited := by
  simp [IsDelimited, tokens, Token.isDelimited]

lemma isDelimited_restTokens {α : Type} {part : α → List Token} {close : Token} {l : List α}
    (h : ∀ a ∈ l, ∀ t ∈ part a, t.isDelimited = true) (closed : close.isDelimited = true) :
    ∀ t ∈ restTokens part close l, t.isDelimited = true := by
  intro t ht
  rcases List.mem_append.mp ht with ht | ht
  · obtain ⟨a, ha, ht⟩ := List.mem_flatMap.mp ht
    rcases List.mem_cons.mp ht with rfl | ht
    · rfl
    · exact h a ha t ht
  · obtain rfl := List.mem_singleton.mp ht
    exact closed

lemma isDelimited_array {items : List Json} (h : ∀ j ∈ items, j.IsDelimited) :
    (array items).IsDelimited := by
  cases items with
  | nil => simp [IsDelimited, tokens, itemTokens, Token.isDelimited]
  | cons j items =>
    obtain ⟨first, others⟩ := List.forall_mem_cons.mp h
    intro t ht
    rw [tokens_array_cons] at ht
    rcases List.mem_cons.mp ht with rfl | ht
    · rfl
    rcases List.mem_append.mp ht with ht | ht
    · exact first t ht
    · exact isDelimited_restTokens others rfl t ht

lemma isDelimited_namedTokens {m : String × Json} (h : m.2.IsDelimited) :
    ∀ t ∈ namedTokens m, t.isDelimited = true := by
  intro t ht
  rcases List.mem_cons.mp ht with rfl | ht
  · rfl
  rcases List.mem_cons.mp ht with rfl | ht
  · rfl
  · exact h t ht

lemma isDelimited_object {members : List (String × Json)} (h : ∀ m ∈ members, m.2.IsDelimited) :
    (object members).IsDelimited := by
  cases members with
  | nil => simp [IsDelimited, tokens, memberTokens, Token.isDelimited]
  | cons m members =>
    obtain ⟨first, others⟩ := List.forall_mem_cons.mp h
    intro t ht
    rw [tokens_object_cons] at ht
    rcases List.mem_cons.mp ht with rfl | ht
    · rfl
    rcases List.mem_append.mp ht with ht | ht
    · exact isDelimited_namedTokens first t ht
    · exact isDelimited_restTokens (fun n hn => isDelimited_namedTokens (others n hn)) rfl t ht

end ClaimTracker.Json
