import ClaimTracker.Proofs.Inventory.Disjoint

/-!
# Calls in any order

If no two calls for different partitions list a key, and calls for one partition list the same, then
each call leaves what it lists, whatever comes before and after it. So it does not matter in which
order such calls come, and of what a call lists only the last item of each key matters.
-/

namespace ClaimTracker.Table

variable {ρ : Type} [Record ρ]

/-- Calls for one partition list the same, and calls for different partitions list different keys. -/
structure Separate (calls : List (Call ρ)) : Prop where
  items : ∀ c ∈ calls, ∀ d ∈ calls, c.1 = d.1 → c.2 = d.2
  keys : ∀ c ∈ calls, ∀ d ∈ calls, ∀ r ∈ c.2, ∀ s ∈ d.2, Record.key r = Record.key s → c.1 = d.1

/-- Every call has one among others that is for its partition and leaves the same under every key. -/
def Matched (calls others : List (Call ρ)) : Prop :=
  ∀ c ∈ calls, ∃ d ∈ others, d.1 = c.1 ∧ ∀ k, lastOf k d.2 = lastOf k c.2

lemma Matched.spares {calls others : List (Call ρ)} (h : Matched others calls) {k p : String}
    (spared : Spares k p calls) : Spares k p others := by
  intro d hd
  obtain ⟨c, hc, same, last⟩ := h d hd
  rw [← same, ← last]
  exact spared c hc

variable [LawfulRecord ρ] {t : Table ρ} {calls others : List (Call ρ)}

/-- What separate calls leave under a key is what one of them lists, or what they have all spared. -/
lemma Separate.getElem?_replaceAll_iff (h : Separate calls) {k : String} {r : ρ} :
    (t.replaceAll calls)[k]? = some r ↔
      (∃ c ∈ calls, (lastOf k c.2).map (Record.assign c.1) = some r) ∨
        t[k]? = some r ∧ Spares k (Record.partition r) calls := by
  rw [getElem?_replaceAll_eq_some_iff]
  refine or_congr_left ⟨?_, ?_⟩
  · rintro ⟨before, p, items, after, rfl, left, -⟩
    exact ⟨(p, items), List.mem_append_right _ List.mem_cons_self, left⟩
  · rintro ⟨⟨p, items⟩, call, left⟩
    obtain ⟨later, before, heq, others⟩ :=
      exists_last_call call fun d hd same => h.items d hd (p, items) call same
    refine ⟨before, p, items, later, heq, left, fun d hd => ⟨others d hd, ?_⟩⟩
    obtain ⟨s, last, -⟩ := Option.map_eq_some_iff.mp left
    obtain ⟨listed, rfl⟩ := mem_of_lastOf last
    -- Another item of the key would belong to a call for the same partition.
    refine lastOf_eq_none_iff.mpr fun u hu same => others d hd ?_
    have member : d ∈ calls := by
      rw [heq]
      exact List.mem_append_right _ (List.mem_cons_of_mem _ hd)
    exact h.keys d member (p, items) call u hu s listed same

/-- Separate calls that match lead to the same table. -/
lemma replaceAll_eq_of_matched (h : Separate calls) (h' : Separate others)
    (matched : Matched calls others) (back : Matched others calls) :
    t.replaceAll calls = t.replaceAll others := by
  have left : ∀ {l l' : List (Call ρ)}, Matched l l' → ∀ {k : String} {r : ρ},
      (∃ c ∈ l, (lastOf k c.2).map (Record.assign c.1) = some r) →
        ∃ d ∈ l', (lastOf k d.2).map (Record.assign d.1) = some r := by
    rintro l l' found k r ⟨c, hc, given⟩
    obtain ⟨d, hd, same, last⟩ := found c hc
    exact ⟨d, hd, by rw [last, same, given]⟩
  refine Std.ExtTreeMap.ext_getElem? fun {k} => Option.ext fun r => ?_
  rw [h.getElem?_replaceAll_iff, h'.getElem?_replaceAll_iff]
  constructor
  · rintro (listed | ⟨stored, spared⟩)
    · exact Or.inl (left matched listed)
    · exact Or.inr ⟨stored, back.spares spared⟩
  · rintro (listed | ⟨stored, spared⟩)
    · exact Or.inl (left back listed)
    · exact Or.inr ⟨stored, matched.spares spared⟩

section Lists

omit [LawfulRecord ρ]

variable {α : Type} {f : α → List ρ} {l : List α} {k : String} {r : ρ}

lemma lastOf_append (k : String) (items more : List ρ) :
    lastOf k (items ++ more) = (lastOf k more).or (lastOf k items) := by
  rw [lastOf, List.reverse_append, List.find?_append]
  rfl

/-- Where a key belongs to one record only, this record is the last one. -/
lemma lastOf_eq_some_iff {items : List ρ}
    (unique : ∀ r ∈ items, ∀ s ∈ items, Record.key r = Record.key s → r = s) :
    lastOf k items = some r ↔ r ∈ items ∧ Record.key r = k := by
  constructor
  · exact mem_of_lastOf
  · rintro ⟨hr, rfl⟩
    obtain ⟨s, last⟩ := exists_lastOf_of_mem hr
    obtain ⟨hs, same⟩ := mem_of_lastOf last
    rw [last, unique s hs r hr same]

lemma exists_of_lastOf_flatMap (h : lastOf k (l.flatMap f) = some r) :
    ∃ a ∈ l, lastOf k (f a) = some r := by
  induction l with
  | nil => cases h
  | cons a l ih =>
    rw [List.flatMap_cons, lastOf_append, Option.or_eq_some_iff] at h
    rcases h with later | ⟨-, here⟩
    · obtain ⟨b, hb, last⟩ := ih later
      exact ⟨b, List.mem_cons_of_mem a hb, last⟩
    · exact ⟨a, List.mem_cons_self, here⟩

/-- If all lists that have a key leave the same under it, then so does their concatenation. -/
lemma lastOf_flatMap_eq_some_iff
    (same : ∀ a ∈ l, ∀ b ∈ l, ∀ r s, lastOf k (f a) = some r → lastOf k (f b) = some s → r = s) :
    lastOf k (l.flatMap f) = some r ↔ ∃ a ∈ l, lastOf k (f a) = some r := by
  constructor
  · exact exists_of_lastOf_flatMap
  · rintro ⟨a, ha, last⟩
    obtain ⟨listed, rfl⟩ := mem_of_lastOf last
    obtain ⟨s, whole⟩ := exists_lastOf_of_mem (List.mem_flatMap.mpr ⟨a, ha, listed⟩)
    obtain ⟨b, hb, last'⟩ := exists_of_lastOf_flatMap whole
    rw [whole, same a ha b hb r s last last']

end Lists

end ClaimTracker.Table
