import ClaimTracker.Text.Utf8
import Mathlib.Tactic.Lemma

/-!
# UTF-8 there and back

The octets of a character stand for its code point whatever follows them. So what was written as
UTF-8 is read as the characters that were written.
-/

namespace ClaimTracker.Text.Utf8

lemma toNat_octet {n : Nat} (h : n < 256) : n.toUInt8.toNat = n := by
  simp [Nat.toUInt8, Nat.mod_eq_of_lt h]

lemma tail_octet {n : Nat} (h : n < 64) : tail (0x80 + n).toUInt8 = n := by
  rw [tail, toNat_octet (by omega)]
  omega

section Candidate

variable {a : UInt8} (b c d : UInt8) (l : List UInt8)

lemma candidate_one (h : a.toNat < 0x80) : candidate (a :: l) = a.toNat := by
  match l with
  | [] => rfl
  | [b] => simp [candidate, h]
  | [b, c] => simp [candidate, h]
  | b :: c :: d :: l => simp [candidate, h]

lemma candidate_two (lo : 0x80 ≤ a.toNat) (hi : a.toNat < 0xE0) :
    candidate (a :: b :: l) = a.toNat % 32 * 64 + tail b := by
  have not_one : ¬ a.toNat < 0x80 := by omega
  match l with
  | [] => simp [candidate, not_one]
  | [c] => simp [candidate, not_one, hi]
  | c :: d :: l => simp [candidate, not_one, hi]

lemma candidate_three (lo : 0xE0 ≤ a.toNat) (hi : a.toNat < 0xF0) :
    candidate (a :: b :: c :: l) = (a.toNat % 16 * 64 + tail b) * 64 + tail c := by
  have not_one : ¬ a.toNat < 0x80 := by omega
  have not_two : ¬ a.toNat < 0xE0 := by omega
  match l with
  | [] => simp [candidate, not_one, not_two]
  | d :: l => simp [candidate, not_one, not_two, hi]

lemma candidate_four (lo : 0xF0 ≤ a.toNat) :
    candidate (a :: b :: c :: d :: l) =
      ((a.toNat % 8 * 64 + tail b) * 64 + tail c) * 64 + tail d := by
  have not_one : ¬ a.toNat < 0x80 := by omega
  have not_two : ¬ a.toNat < 0xE0 := by omega
  have not_three : ¬ a.toNat < 0xF0 := by omega
  simp [candidate, not_one, not_two, not_three]

end Candidate

/-- The octets of a character stand for its code point. -/
lemma candidate_encodeChar (c : Char) (l : List UInt8) :
    candidate (encodeChar c ++ l) = c.toNat := by
  have bound : c.toNat < 0x110000 := by
    rcases c.valid with h | ⟨-, h⟩
    · exact Nat.lt_trans h (by decide)
    · exact h
  unfold encodeChar
  generalize c.toNat = n at bound
  dsimp only
  by_cases one : n < 0x80
  · have first := toNat_octet (n := n) (by omega)
    rw [if_pos one, List.singleton_append, candidate_one l (by omega), first]
  rw [if_neg one]
  by_cases two : n < 0x800
  · have first := toNat_octet (n := 0xC0 + n / 64) (by omega)
    rw [if_pos two, List.cons_append, List.singleton_append,
      candidate_two _ l (by omega) (by omega), first, tail_octet (by omega)]
    omega
  rw [if_neg two]
  by_cases three : n < 0x10000
  · have first := toNat_octet (n := 0xE0 + n / 4096) (by omega)
    rw [if_pos three, List.cons_append, List.cons_append, List.singleton_append,
      candidate_three _ _ l (by omega) (by omega), first, tail_octet (by omega),
      tail_octet (by omega)]
    omega
  · have first := toNat_octet (n := 0xF0 + n / 262144) (by omega)
    rw [if_neg three, List.cons_append, List.cons_append, List.cons_append, List.singleton_append,
      candidate_four _ _ _ l (by omega), first, tail_octet (by omega), tail_octet (by omega),
      tail_octet (by omega)]
    omega

lemma front?_encodeChar (c : Char) (l : List UInt8) : front? (encodeChar c ++ l) = some c := by
  have front : (encodeChar c).isPrefixOf (encodeChar c ++ l) = true :=
    List.isPrefixOf_iff_prefix.mpr (List.prefix_append _ l)
  simp only [front?, candidate_encodeChar, Char.ofNat_toNat, front, if_true]

lemma encodeChar_ne_nil (c : Char) : encodeChar c ≠ [] := by
  unfold encodeChar
  dsimp only
  split
  · exact List.cons_ne_nil _ _
  split
  · exact List.cons_ne_nil _ _
  split <;> exact List.cons_ne_nil _ _

lemma decode_encodeChar_append (c : Char) (l : List UInt8) :
    decode (encodeChar c ++ l) = .char c :: decode l := by
  have front := front?_encodeChar c l
  cases he : encodeChar c with
  | nil => exact absurd he (encodeChar_ne_nil c)
  | cons b r =>
    rw [he, List.cons_append] at front
    rw [List.cons_append, decode.eq_def]
    simp only [front, he]
    simp

/-- What was encoded is decoded, whatever follows it. -/
lemma decode_encode_append (l : List Char) (rest : List UInt8) :
    decode (encode l ++ rest) = l.map .char ++ decode rest := by
  induction l with
  | nil => rfl
  | cons c l ih =>
    rw [encode, List.flatMap_cons, List.append_assoc, decode_encodeChar_append, List.map_cons,
      List.cons_append]
    exact congrArg _ ih

/-- Decoding undoes encoding. -/
theorem decode_encode (l : List Char) : decode (encode l) = l.map .char := by
  have whole := decode_encode_append l []
  rwa [List.append_nil, decode, List.append_nil] at whole

end ClaimTracker.Text.Utf8
