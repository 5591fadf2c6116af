import Mathlib.Data.List.DropRight
import Mathlib.Tactic.Lemma
import ClaimTracker.Text.Blank

/-!
# Trimmed texts and their pieces

A text is trimmed if it neither begins nor ends with a blank, and trimming leaves exactly such texts as
they are. Splitting at a separator gives pieces without it that make up the text when joined again; a
cut gives the first of these pieces and all the others together.
-/

namespace ClaimTracker.Text

section Trimming

variable {l m : List Char} {c : Char}

lemma trim_eq (l : List Char) : trim l = (l.dropWhile isBlank).rdropWhile isBlank := rfl

lemma dropWhile_isBlank_eq_self_iff :
    l.dropWhile isBlank = l ↔ ∀ c ∈ l.head?, isBlank c = false := by
  cases l <;> simp

lemma rdropWhile_isBlank_eq_self_iff :
    l.rdropWhile isBlank = l ↔ ∀ c ∈ l.getLast?, isBlank c = false := by
  rw [List.rdropWhile_eq_self_iff]
  by_cases empty : l = []
  · simp [empty]
  · simp [empty, List.getLast?_eq_some_getLast]

/-- Trimming leaves exactly those texts that neither begin nor end with a blank. -/
lemma trim_eq_self_iff :
    trim l = l ↔ (∀ c ∈ l.head?, isBlank c = false) ∧ ∀ c ∈ l.getLast?, isBlank c = false := by
  rw [← dropWhile_isBlank_eq_self_iff, ← rdropWhile_isBlank_eq_self_iff, trim_eq]
  constructor
  · intro whole
    have kept : l.dropWhile isBlank = l := by
      refine (List.dropWhile_suffix isBlank).eq_of_length_le ?_
      have shorter := (List.rdropWhile_prefix isBlank (l.dropWhile isBlank)).length_le
      rwa [whole] at shorter
    rw [kept] at whole
    exact ⟨kept, whole⟩
  · rintro ⟨front, back⟩
    rw [front, back]

/-- What has been trimmed is trimmed. -/
@[simp] lemma trim_trim (l : List Char) : trim (trim l) = trim l := by
  refine trim_eq_self_iff.mpr ⟨fun c hc => ?_, ?_⟩
  · obtain ⟨back, hback⟩ := List.head?_eq_some_iff.mp hc
    obtain ⟨rest, hrest⟩ := List.rdropWhile_prefix isBlank (l.dropWhile isBlank)
    have first := List.head?_dropWhile_not isBlank l
    rw [trim_eq] at hback
    rw [← hrest, hback, List.cons_append, List.head?_cons] at first
    exact first
  · exact rdropWhile_isBlank_eq_self_iff.mp (List.rdropWhile_idempotent isBlank _)

lemma mem_of_mem_trim (h : c ∈ trim l) : c ∈ l :=
  (List.dropWhile_suffix isBlank).subset ((List.rdropWhile_prefix isBlank _).subset h)

/-- A text that begins and ends with trimmed parts is trimmed, whatever stands between them. -/
lemma trim_append_append {between : List Char} (front : trim l = l) (back : trim m = m)
    (nonempty : l ≠ []) (nonempty' : m ≠ []) : trim (l ++ between ++ m) = l ++ between ++ m := by
  refine trim_eq_self_iff.mpr ⟨?_, ?_⟩
  · rw [List.append_assoc, List.head?_append_of_ne_nil _ nonempty]
    exact (trim_eq_self_iff.mp front).1
  · rw [List.getLast?_append_of_ne_nil _ nonempty']
    exact (trim_eq_self_iff.mp back).2

end Trimming

section Splitting

variable {sep : Char} {l front back : List Char}

/-- The pieces between separators are those of the standard library. -/
lemma fields_eq_splitOn (sep : Char) (l : List Char) : fields sep l = l.splitOn sep := by
  induction l with
  | nil => rfl
  | cons c l ih =>
    rw [fields, List.splitOn_cons_eq_if_modifyHead, ih]
    by_cases here : c = sep
    · simp [here]
    · rw [if_neg here, if_neg (by simpa using here)]
      cases pieces : l.splitOn sep with
      | nil => exact absurd pieces (List.splitOn_ne_nil sep l)
      | cons piece pieces => rfl

/-- No piece holds a separator. -/
lemma notMem_of_mem_splitOn {piece : List Char} (h : piece ∈ l.splitOn sep) : sep ∉ piece := by
  induction l generalizing piece with
  | nil =>
    rw [List.splitOn_nil, List.mem_singleton] at h
    exact h ▸ List.not_mem_nil
  | cons c l ih =>
    rw [List.splitOn_cons_eq_if_modifyHead] at h
    by_cases here : c = sep
    · rw [if_pos (by simpa using here)] at h
      rcases List.mem_cons.mp h with rfl | h
      · exact List.not_mem_nil
      · exact ih h
    · rw [if_neg (by simpa using here)] at h
      cases pieces : l.splitOn sep with
      | nil => exact absurd pieces (List.splitOn_ne_nil sep l)
      | cons first others =>
        rw [pieces] at ih h
        rcases List.mem_cons.mp h with rfl | h
        · exact List.not_mem_cons_of_ne_of_not_mem (Ne.symm here) (ih List.mem_cons_self)
        · exact ih (List.mem_cons_of_mem first h)

/-- There is one more piece than there are separators. -/
lemma length_splitOn (sep : Char) (l : List Char) : (l.splitOn sep).length = l.count sep + 1 := by
  induction l with
  | nil => simp
  | cons c l ih =>
    rw [List.splitOn_cons_eq_if_modifyHead, List.count_cons]
    by_cases here : c = sep
    · simp [here, ih]
    · simp [here, ih]

lemma cut_of_notMem (h : sep ∉ l) : cut sep l = none := by
  induction l with
  | nil => rfl
  | cons c l ih =>
    obtain ⟨here, later⟩ := not_or.mp (mt List.mem_cons.mpr h)
    rw [cut, if_neg (Ne.symm here), ih later]
    rfl

/-- A cut is made at the first separator. -/
lemma cut_append_cons (first : sep ∉ front) : cut sep (front ++ sep :: back) = some (front, back) := by
  induction front with
  | nil => simp [cut]
  | cons c front ih =>
    obtain ⟨here, later⟩ := not_or.mp (mt List.mem_cons.mpr first)
    rw [List.cons_append, cut, if_neg (Ne.symm here), ih later]
    rfl

lemma cut_eq_some_iff : cut sep l = some (front, back) ↔ l = front ++ sep :: back ∧ sep ∉ front := by
  constructor
  · intro h
    by_cases separated : sep ∈ l
    · obtain ⟨before, after, rfl, first⟩ := List.eq_append_cons_of_mem separated
      rw [cut_append_cons first] at h
      cases h
      exact ⟨rfl, first⟩
    · rw [cut_of_notMem separated] at h
      cases h
  · rintro ⟨rfl, first⟩
    exact cut_append_cons first

/-- A blank piece is left out, and any other is trimmed. -/
lemma nonBlank?_ofList (piece : List Char) :
    nonBlank? (String.ofList piece) =
      if (trim piece).isEmpty then none else some (String.ofList (trim piece)) := by
  have empty : (String.ofList (trim piece)).isEmpty = (trim piece).isEmpty := by
    rw [Bool.eq_iff_iff, String.isEmpty_iff, List.isEmpty_iff, String.ofList_eq_empty_iff]
  rw [nonBlank?, trimmed, String.toList_ofList]
  simp only [empty]

/-- The entries of a comma-separated list are its pieces that are not blank, each of them trimmed. -/
lemma commaList_eq (s : String) :
    commaList s =
      (((s.toList.splitOn ',').map trim).filter fun piece => !piece.isEmpty).map String.ofList := by
  rw [commaList, fields_eq_splitOn]
  induction s.toList.splitOn ',' with
  | nil => rfl
  | cons piece pieces ih =>
    rw [List.filterMap_cons, nonBlank?_ofList, ih, List.map_cons, List.filter_cons]
    cases (trim piece).isEmpty <;> rfl

end Splitting

end ClaimTracker.Text
