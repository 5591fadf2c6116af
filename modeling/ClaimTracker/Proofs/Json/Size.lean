import Mathlib.Algebra.GroupWithZero.Nat
import ClaimTracker.Proofs.Json.Tokens

/-!
# How long documents are

A document is as long as its tokens together. So an array or object is as long as its parts together, its
brackets, and a comma between any two parts.
-/

namespace ClaimTracker.Json

def octetCount (l : List Token) : Nat := (octets l).length

def size (j : Json) : Nat := octetCount j.tokens

def memberSize (m : String × Json) : Nat := (text m.1).size + 1 + m.2.size

lemma octetCount_append (l m : List Token) :
    octetCount (l ++ m) = octetCount l + octetCount m := by
  simp only [octetCount, octets, Text.Utf8.encode, List.flatMap_append, List.length_append]

lemma octetCount_cons (t : Token) (l : List Token) :
    octetCount (t :: l) = octetCount [t] + octetCount l :=
  octetCount_append [t] l

lemma octetCount_restTokens {α : Type} {part : α → List Token} {close : Token} (l : List α)
    (closed : octetCount [close] = 1) :
    octetCount (restTokens part close l) =
      (l.map fun a => octetCount (part a)).sum + l.length + 1 := by
  have comma : octetCount [.comma] = 1 := rfl
  induction l with
  | nil => exact closed
  | cons a l ih =>
    rw [restTokens_cons, octetCount_cons, octetCount_append, ih, comma, List.map_cons,
      List.sum_cons, List.length_cons]
    omega

lemma octetCount_namedTokens (m : String × Json) : octetCount (namedTokens m) = memberSize m := by
  have colon : octetCount [.colon] = 1 := rfl
  rw [namedTokens, octetCount_cons, octetCount_cons _ m.2.tokens, colon, memberSize, size, size,
    tokens, Nat.add_assoc]

lemma size_array (items : List Json) :
    (array items).size = (items.map size).sum + (items.length - 1) + 2 := by
  have bracket : octetCount [.openBracket] = 1 := rfl
  cases items with
  | nil => rw [size, tokens]; rfl
  | cons j items =>
    have others : (items.map fun j => octetCount j.tokens) = items.map size := rfl
    rw [size, tokens_array_cons, octetCount_cons, octetCount_append,
      octetCount_restTokens items rfl, others, ← size, bracket, List.map_cons, List.sum_cons,
      List.length_cons]
    omega

lemma size_object (members : List (String × Json)) :
    (object members).size = (members.map memberSize).sum + (members.length - 1) + 2 := by
  have brace : octetCount [.openBrace] = 1 := rfl
  cases members with
  | nil => rw [size, tokens]; rfl
  | cons m members =>
    rw [size, tokens_object_cons, octetCount_cons, octetCount_append,
      octetCount_restTokens members rfl, brace, octetCount_namedTokens,
      List.map_congr_left fun n _ => octetCount_namedTokens n, List.map_cons, List.sum_cons,
      List.length_cons]
    omega

/-- A text has its quotes at least. -/
lemma two_le_size_text (s : String) : 2 ≤ (text s).size := by
  have quote : (Text.Utf8.encodeChar '"').length = 1 := rfl
  simp only [size, tokens, octetCount, octets, List.flatMap_cons, List.flatMap_nil,
    List.append_nil, Token.write, writeText, Text.Utf8.encode, List.flatMap_append,
    List.length_append, List.cons_append, quote]
  omega

end ClaimTracker.Json
