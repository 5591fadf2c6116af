import Mathlib.Data.List.Perm.Basic
import Mathlib.Data.List.Sort
import Mathlib.Data.Prod.Lex
import Mathlib.Data.String.Basic
import ClaimTracker.Proofs.Inventory.Operations

/-!
# How a table is listed

To list a table, its entries are gone through and the records are sorted by namespace and name. In which
order the entries come is left open here, and so is what becomes of records that are sorted alike. But
records under their own keys differ in namespace or name, so only one list can come of it: that of all
records, once each, in strictly ascending order.
-/

namespace ClaimTracker

namespace Text

lemma isLE_then_eq (a b c d : String) :
    ((compare a b).then (compare c d)).isLE = decide (toLex (a, c) ≤ toLex (b, d)) := by
  rw [Bool.eq_iff_iff, Ordering.isLE_then_iff_or, compare_lt_iff_lt, Std.compare_eq_iff_eq,
    Std.LawfulBCmp.isLE_iff_le, decide_eq_true_iff, Prod.Lex.toLex_le_toLex]

/-- What is sorted by one text, and by another among those with the same first one, comes out in the
lexicographic order of the two. -/
lemma pairwise_mergeSort {α : Type} (first second : α → String) (l : List α) :
    (l.mergeSort fun a b =>
        ((compare (first a) (first b)).then (compare (second a) (second b))).isLE).Pairwise
      fun a b => toLex (first a, second a) ≤ toLex (first b, second b) := by
  let le : α → α → Prop := fun a b => toLex (first a, second a) ≤ toLex (first b, second b)
  have : Std.Total le := ⟨fun _ _ => le_total _ _⟩
  have : IsTrans α le := ⟨fun _ _ _ => le_trans⟩
  simp only [isLE_then_eq]
  exact List.pairwise_mergeSort' le l

end Text

namespace Record

variable {ρ : Type} [Record ρ]

/-- By what records are sorted: their namespace, and their name within it. -/
def place (r : ρ) : String ×ₗ String := toLex (ns r, name r)

lemma key_eq_of_place_eq {r s : ρ} (same : place r = place s) : key r = key s := by
  obtain ⟨namespaces, names⟩ := Prod.ext_iff.mp (toLex.injective same)
  exact congrArg₂ objectKey namespaces names

end Record

namespace Table

section Entries

variable {ρ : Type}

/-- The entries of a table, each of them once, in any order. -/
structure Enumerates (t : Table ρ) (entries : List (String × ρ)) : Prop where
  nodup_keys : (entries.map Prod.fst).Nodup
  mem_iff : ∀ k r, (k, r) ∈ entries ↔ t[k]? = some r

variable {t : Table ρ}

lemma enumerates_toList (t : Table ρ) : t.Enumerates t.toList where
  nodup_keys := by
    rw [Std.ExtTreeMap.map_fst_toList_eq_keys]
    exact Std.ExtTreeMap.nodup_keys
  mem_iff _ _ := Std.ExtTreeMap.mem_toList_iff_getElem?_eq_some

/-- However the entries are gone through, they are the same ones. -/
lemma Enumerates.perm {entries others : List (String × ρ)} (h : t.Enumerates entries)
    (h' : t.Enumerates others) : entries.Perm others := by
  refine (List.perm_ext_iff_of_nodup h.nodup_keys.of_map h'.nodup_keys.of_map).mpr ?_
  rintro ⟨k, r⟩
  rw [h.mem_iff, h'.mem_iff]

end Entries

variable {ρ : Type} [Record ρ]

/-- The list may come of listing the table: its records, gone through in any order, and sorted. -/
def ListedAs (t : Table ρ) (l : List ρ) : Prop :=
  ∃ entries, t.Enumerates entries ∧ l.Perm (entries.map Prod.snd) ∧
    l.Pairwise fun r s => Record.listedBefore r s = true

/-- The list has every record of the table once, in strictly ascending order. -/
structure IsCanonical (t : Table ρ) (l : List ρ) : Prop where
  ascending : l.Pairwise fun r s => Record.place r < Record.place s
  nodup : l.Nodup
  mem_iff : ∀ r, r ∈ l ↔ ∃ k : String, t[k]? = some r

variable {t : Table ρ} {l : List ρ}

lemma listedAs_records (t : Table ρ) : t.ListedAs t.records := by
  refine ⟨t.toList, enumerates_toList t, List.mergeSort_perm _ _, ?_⟩
  refine (Text.pairwise_mergeSort Record.ns Record.name _).imp fun {r s} le => ?_
  rw [Record.listedBefore, Text.isLE_then_eq]
  exact decide_eq_true le

lemma ListedAs.perm_records (h : t.ListedAs l) : l.Perm t.records := by
  obtain ⟨entries, enumerates, perm, -⟩ := h
  obtain ⟨others, enumerates', perm', -⟩ := listedAs_records t
  exact perm.trans (((enumerates.perm enumerates').map Prod.snd).trans perm'.symm)

/-- Records that stand under their own keys are listed under different keys. -/
lemma ListedAs.nodup_keys (keyed : t.Keyed) (h : t.ListedAs l) : (l.map Record.key).Nodup := by
  obtain ⟨entries, enumerates, perm, -⟩ := h
  have keys : (entries.map Prod.snd).map Record.key = entries.map Prod.fst := by
    rw [List.map_map]
    refine List.map_congr_left fun entry he => ?_
    exact keyed entry.1 entry.2 ((enumerates.mem_iff _ _).mp he)
  rw [(perm.map Record.key).nodup_iff, keys]
  exact enumerates.nodup_keys

lemma ListedAs.ascending (keyed : t.Keyed) (h : t.ListedAs l) :
    l.Pairwise fun r s => Record.place r < Record.place s := by
  have distinct : l.Pairwise fun r s => Record.key r ≠ Record.key s :=
    List.pairwise_map.mp (h.nodup_keys keyed)
  obtain ⟨-, -, -, sorted⟩ := h
  refine (sorted.and distinct).imp ?_
  rintro r s ⟨le, apart⟩
  rw [Record.listedBefore, Text.isLE_then_eq] at le
  exact lt_of_le_of_ne (of_decide_eq_true le) fun same => apart (Record.key_eq_of_place_eq same)

lemma ListedAs.isCanonical (keyed : t.Keyed) (h : t.ListedAs l) : t.IsCanonical l where
  ascending := h.ascending keyed
  nodup := (h.nodup_keys keyed).of_map
  mem_iff _ := h.perm_records.mem_iff.trans mem_records

lemma ListedAs.length_eq (h : t.ListedAs l) : l.length = t.size :=
  h.perm_records.length_eq.trans (length_records t)

/-- Nothing is left open where the records stand under their own keys. -/
lemma ListedAs.eq_records (keyed : t.Keyed) (h : t.ListedAs l) : l = t.records := by
  refine List.Perm.eq_of_pairwise ?_ (h.ascending keyed) ((listedAs_records t).ascending keyed)
    h.perm_records
  intro r s _ _ before after
  exact absurd before after.asymm

end Table

end ClaimTracker
