import Mathlib.Data.List.Basic
import ClaimTracker.Proofs.Cycle.Effects

/-!
# The order of a cycle

The actions of a cycle fall into polling, enrichment, and what comes after. From where an action
stands it follows what has been done before it: everything that can fail and enrichment before the
persist, and nothing that could change the inventory between enrichment and the end.
-/

namespace ClaimTracker

section Lists

variable {α : Type}

/-- What follows an element that comes once, after a front that does not have it. -/
lemma mem_of_append_cons_eq {done rest front back : List α} {a b : α}
    (h : done ++ b :: rest = front ++ a :: back) (hd : a ∈ done) (hf : a ∉ front) : b ∈ back := by
  obtain ⟨c, rfl, hc⟩ | ⟨c, rfl, hc⟩ := List.append_eq_append_iff.mp h
  · exact absurd (List.mem_append_left c hd) hf
  · cases c with
    | nil => exact absurd (by simpa using hd) hf
    | cons x c =>
      obtain ⟨-, rfl⟩ := List.cons.inj hc
      exact List.mem_append_right c List.mem_cons_self

end Lists

namespace Cycle

variable {σ : Type}

lemma eq_of_mem_closing {clean : Bool} {a : Action σ} (h : a ∈ closing clean) :
    a = .publish ∨ a = .persist ∧ clean = true ∨ a = .finish := by
  cases clean with
  | false =>
    rcases List.mem_cons.mp h with rfl | h
    · exact Or.inl rfl
    · exact Or.inr (Or.inr (List.mem_singleton.mp h))
  | true =>
    rcases List.mem_cons.mp h with rfl | h
    · exact Or.inl rfl
    rcases List.mem_cons.mp h with rfl | h
    · exact Or.inr (Or.inl ⟨rfl, rfl⟩)
    · exact Or.inr (Or.inr (List.mem_singleton.mp h))

/-- The actions of a cycle fall into polling, enrichment, and what comes after it, which is to
persist only if nothing has failed. -/
structure Splits (polled actions : List (Action σ)) : Prop where
  eq : actions = polled ++ .enrich :: closing (polled.filterMap Action.failure?).isEmpty
  polling : ∀ a ∈ polled, a.isPolling = true

namespace Splits

variable {polled actions done rest : List (Action σ)} {a : Action σ}

lemma enrich_notMem (h : Splits polled actions) : .enrich ∉ polled := by
  intro hm
  cases h.polling _ hm

/-- Once enrichment is done, what is next is to publish, to persist or to finish. -/
lemma mem_closing (h : Splits polled actions) (heq : done ++ a :: rest = actions)
    (enriched : .enrich ∈ done) : a ∈ closing (polled.filterMap Action.failure?).isEmpty :=
  mem_of_append_cons_eq (heq.trans h.eq) enriched h.enrich_notMem

lemma enrich_notMem_closing (clean : Bool) : (.enrich : Action σ) ∉ closing clean := by
  intro hm
  rcases eq_of_mem_closing hm with h | ⟨h, -⟩ | h <;> cases h

/-- Enrichment comes right after polling. -/
lemma done_eq (h : Splits polled actions) (heq : done ++ .enrich :: rest = actions) :
    done = polled :=
  ((List.append_cons_inj_of_notMem h.enrich_notMem (enrich_notMem_closing _)).mp
    (h.eq.symm.trans heq.symm)).1.symm

/-- A persist comes second after enrichment and last but one, in cycles without failures. -/
lemma done_eq_of_persist (h : Splits polled actions) (heq : done ++ .persist :: rest = actions) :
    polled.filterMap Action.failure? = [] ∧ done = polled ++ [.enrich, .publish] ∧
      rest = [.finish] := by
  have persist_notMem : .persist ∉ polled := by
    intro hm
    cases h.polling _ hm
  have persists : .persist ∈ polled ++ .enrich ::
      closing (polled.filterMap Action.failure?).isEmpty := by
    rw [← h.eq, ← heq]
    exact List.mem_append_right _ List.mem_cons_self
  have clean : (polled.filterMap Action.failure?).isEmpty = true := by
    rcases List.mem_append.mp persists with hm | hm
    · exact absurd hm persist_notMem
    rcases List.mem_cons.mp hm with hm | hm
    · cases hm
    rcases eq_of_mem_closing hm with h | ⟨-, h⟩ | h
    · cases h
    · exact h
    · cases h
  refine ⟨List.isEmpty_iff.mp clean, ?_⟩
  have split : (polled ++ [.enrich, .publish]) ++ .persist :: [.finish] =
      done ++ .persist :: rest := by
    rw [heq, h.eq, clean, List.append_assoc]
    rfl
  have front : (.persist : Action σ) ∉ polled ++ [.enrich, .publish] := by
    simp [persist_notMem]
  obtain ⟨hd, -, hr⟩ := (List.append_cons_inj_of_notMem front (by simp)).mp split
  exact ⟨hd.symm, hr.symm⟩

/-- Before a persist nothing has been persisted, and the cycle is not at its end. -/
lemma notMem_of_persist (h : Splits polled actions) (heq : done ++ .persist :: rest = actions) :
    .persist ∉ done ∧ .finish ∉ done := by
  obtain ⟨-, rfl, -⟩ := h.done_eq_of_persist heq
  constructor <;> intro hm <;> rcases List.mem_append.mp hm with hm | hm
  · cases h.polling _ hm
  · simp at hm
  · cases h.polling _ hm
  · simp at hm

end Splits

lemma splits_actions [Listing.Source σ] (settings : Settings)
    (configs : Option (List NamespaceConfig)) (before : DeclaredPartitions) (s : σ) :
    Splits (polling settings configs before s) (actions settings configs before s) :=
  ⟨actions_eq_closing settings configs before s, fun _ => isPolling_of_mem_polling⟩

end Cycle

end ClaimTracker
