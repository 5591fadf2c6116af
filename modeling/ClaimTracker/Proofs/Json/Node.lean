import ClaimTracker.Json.Skip
import Mathlib.Tactic.Lemma

/-!
# Values as documents hold them

What a document holds is a value of any depth, in which texts and names may lack a content. Who skips
it gets behind it: the brackets that are open before it are open after it.
-/

namespace ClaimTracker.Json

inductive Node where
  | null
  | bool (b : Bool)
  | number (n : Number)
  | text (content : Option String)
  | array (items : List Node)
  | object (members : List (Option String × Node))

namespace Node

abbrev Member := Option String × Node

mutual

def tokens : Node → List Token
  | .null => [.null]
  | .bool b => [.bool b]
  | .number n => [.number n]
  | .text content => [.text content]
  | .array [] => [.openBracket, .closeBracket]
  | .array (n :: items) => .openBracket :: (tokens n ++ itemTokens items)
  | .object [] => [.openBrace, .closeBrace]
  | .object ((name, n) :: members) =>
    .openBrace :: .text name :: .colon :: (tokens n ++ memberTokens members)

/-- What follows an item: further items, each after a comma, and the closing bracket. -/
def itemTokens : List Node → List Token
  | [] => [.closeBracket]
  | n :: items => .comma :: (tokens n ++ itemTokens items)

/-- What follows a member: further members, each after a comma, and the closing brace. -/
def memberTokens : List (Option String × Node) → List Token
  | [] => [.closeBrace]
  | (name, n) :: members =>
    .comma :: .text name :: .colon :: (tokens n ++ memberTokens members)

end

def namedTokens (m : Member) : List Token :=
  .text m.1 :: .colon :: m.2.tokens

lemma tokens_object_cons (m : Member) (members : List Member) :
    (object (m :: members)).tokens = .openBrace :: (namedTokens m ++ memberTokens members) := by
  rw [tokens]
  rfl

lemma memberTokens_cons (m : Member) (members : List Member) :
    memberTokens (m :: members) = .comma :: (namedTokens m ++ memberTokens members) := by
  rw [memberTokens]
  rfl

/-- A value does not begin with a closing bracket. -/
lemma exists_tokens_eq (n : Node) : ∃ t l, n.tokens = t :: l ∧ t ≠ .closeBracket := by
  cases n with
  | array items => cases items <;> exact ⟨_, _, by rw [tokens], by simp⟩
  | object members => cases members <;> exact ⟨_, _, by rw [tokens], by simp⟩
  | _ => exact ⟨_, _, by rw [tokens], by simp⟩

lemma length_le_itemTokens (items : List Node) : items.length ≤ (itemTokens items).length := by
  induction items with
  | nil => exact Nat.zero_le _
  | cons n items ih =>
    rw [itemTokens, List.length_cons, List.length_cons, List.length_append]
    omega

lemma length_le_memberTokens (members : List Member) :
    members.length ≤ (memberTokens members).length := by
  induction members with
  | nil => exact Nat.zero_le _
  | cons m members ih =>
    rw [memberTokens_cons, List.length_cons, List.length_cons, List.length_append]
    omega

end Node

namespace Skip

/-- What skipping comes to when it is behind a value, within these brackets. -/
def behind (brackets : List Bracket) (rest : List Token) : Except Fault (List Token) :=
  match afterValue brackets with
  | none => .ok rest
  | some s => run s rest

/-- A first item is read where the closing bracket might have come. -/
lemma run_opened (n : Node) (brackets : List Bracket) (rest : List Token) :
    run ⟨.opened, .bracket :: brackets⟩ (n.tokens ++ rest) =
      run ⟨.value, .bracket :: brackets⟩ (n.tokens ++ rest) := by
  obtain ⟨t, l, ht, not_closing⟩ := n.exists_tokens_eq
  have goes_on : closes .bracket t = false := by
    cases t <;> first | rfl | exact absurd rfl not_closing
  have same : step ⟨.opened, .bracket :: brackets⟩ t = step ⟨.value, .bracket :: brackets⟩ t := by
    simp [step, goes_on]
  rw [ht, List.cons_append, run, run, same]

mutual

/-- A value is skipped whatever follows it. -/
lemma run_tokens (brackets : List Bracket) (rest : List Token) :
    (n : Node) → run ⟨.value, brackets⟩ (n.tokens ++ rest) = behind brackets rest
  | .null => by rw [Node.tokens]; cases brackets <;> rfl
  | .bool b => by rw [Node.tokens]; cases brackets <;> rfl
  | .number n => by rw [Node.tokens]; cases brackets <;> rfl
  | .text content => by rw [Node.tokens]; cases brackets <;> rfl
  | .array [] => by rw [Node.tokens]; cases brackets <;> rfl
  | .array (n :: items) => by
    have first := run_tokens (.bracket :: brackets) (Node.itemTokens items ++ rest) n
    have others := run_itemTokens brackets rest items
    rw [Node.tokens, List.cons_append, List.append_assoc]
    exact (run_opened n brackets _).trans (first.trans others)
  | .object [] => by rw [Node.tokens]; cases brackets <;> rfl
  | .object ((name, n) :: members) => by
    have first := run_tokens (.brace :: brackets) (Node.memberTokens members ++ rest) n
    have others := run_memberTokens brackets rest members
    rw [Node.tokens, List.cons_append, List.cons_append, List.cons_append, List.append_assoc]
    exact first.trans others

lemma run_itemTokens (brackets : List Bracket) (rest : List Token) :
    (items : List Node) → run ⟨.valueRead, .bracket :: brackets⟩ (Node.itemTokens items ++ rest) =
      behind brackets rest
  | [] => by rw [Node.itemTokens]; cases brackets <;> rfl
  | n :: items => by
    have first := run_tokens (.bracket :: brackets) (Node.itemTokens items ++ rest) n
    have others := run_itemTokens brackets rest items
    rw [Node.itemTokens, List.cons_append, List.append_assoc]
    exact first.trans others

lemma run_memberTokens (brackets : List Bracket) (rest : List Token) :
    (members : List Node.Member) →
      run ⟨.valueRead, .brace :: brackets⟩ (Node.memberTokens members ++ rest) =
        behind brackets rest
  | [] => by rw [Node.memberTokens]; cases brackets <;> rfl
  | (name, n) :: members => by
    have first := run_tokens (.brace :: brackets) (Node.memberTokens members ++ rest) n
    have others := run_memberTokens brackets rest members
    rw [Node.memberTokens, List.cons_append, List.cons_append, List.cons_append, List.append_assoc]
    exact first.trans others

end

end Skip

/-- A value of any depth is skipped. -/
lemma skip_tokens_append (n : Node) (rest : List Token) : skip (n.tokens ++ rest) = .ok rest :=
  Skip.run_tokens [] rest n

end ClaimTracker.Json
