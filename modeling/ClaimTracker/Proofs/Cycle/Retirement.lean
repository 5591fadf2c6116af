import ClaimTracker.Proofs.Cycle.Coverage

/-!
# What is left after a cycle

Every record stored is of a central type or of a type that was declared in the last cycle, whatever
has failed. A cycle without failures replaces the partitions of all types that are central or
declared in it, and empties those that were declared before and are not any more. So nothing is left
in it but what it has listed.
-/

namespace ClaimTracker

namespace Cycle

variable {σ : Type}

lemma mem_undeclared {before now central : List String} {p : String} :
    p ∈ undeclared before now central ↔ p ∈ before ∧ p ∉ now ∧ p ∉ central := by
  simp [undeclared]

/-- Without configurations nothing was declared before. -/
def Consistent (configs : Option (List NamespaceConfig)) (before : DeclaredPartitions) : Prop :=
  configs = none → before = {}

section Calls

variable {settings : Settings} {configs : Option (List NamespaceConfig)}
  {before : DeclaredPartitions}

/-- What is retired is what was declared before and is neither declared now nor central. -/
lemma replacements_retirement (h : Consistent configs before) :
    (retirement settings configs before : List (Action σ)).filterMap Action.replacement? =
      Inventory.Replacement.clearing
        (undeclared before.claims (declaredNow settings configs).claims (centralClaims settings))
        (undeclared before.composites (declaredNow settings configs).composites
          (centralComposites settings)) := by
  cases configs with
  | none => rw [h rfl]; rfl
  | some configs =>
    rw [retirement, List.filterMap_cons_none rfl, retire, List.filterMap_append,
      List.filterMap_map, List.filterMap_map]
    exact congr (congrArg _ (congrFun List.filterMap_eq_map _)) (congrFun List.filterMap_eq_map _)

end Calls

/-- All records are of central types or of types noted as declared. -/
structure Covers (settings : Settings) (d : DeclaredPartitions) (i : Inventory) : Prop where
  claims : ∀ (k : String) (c : Claim), i.claims[k]? = some c →
    c.partition ∈ centralClaims settings ∨ c.partition ∈ d.claims
  composites : ∀ (k : String) (x : Composite), i.composites[k]? = some x →
    x.partition ∈ centralComposites settings ∨ x.partition ∈ d.composites

lemma covers_empty (settings : Settings) (d : DeclaredPartitions) : Covers settings d ∅ := by
  have claims : (∅ : Inventory).claims = ∅ := rfl
  have composites : (∅ : Inventory).composites = ∅ := rfl
  constructor
  · intro k c h
    rw [claims, Std.ExtTreeMap.getElem?_empty] at h
    cases h
  · intro k x h
    rw [composites, Std.ExtTreeMap.getElem?_empty] at h
    cases h

lemma Covers.enrich {settings : Settings} {d : DeclaredPartitions} {i : Inventory}
    (h : Covers settings d i) : Covers settings d i.enrich := by
  refine ⟨fun k c hc => ?_, h.composites⟩
  rw [Inventory.getElem?_enrich_claims] at hc
  obtain ⟨b, hb, rfl⟩ := Option.map_eq_some_iff.mp hc
  exact h.claims k b hb

section Family

variable {ρ : Type} [Record ρ] [LawfulRecord ρ] {before now central : List String} {t : Table ρ}
  {calls : List (Table.Call ρ)}

/-- Calls for what is declared now, and retirement of what no longer is, leave records of central
types and of types declared now. -/
lemma partition_of_retired (own : ∀ c ∈ calls, c.1 ∈ central ∨ c.1 ∈ now)
    (old : ∀ (k : String) (r : ρ), t[k]? = some r →
      Record.partition r ∈ central ∨ Record.partition r ∈ before)
    {k : String} {r : ρ}
    (h : (t.replaceAll (calls ++ Table.clearing (undeclared before now central)))[k]? = some r) :
    Record.partition r ∈ central ∨ Record.partition r ∈ now := by
  rw [Table.replaceAll_append, Table.getElem?_replaceAll_clearing, mem_undeclared] at h
  obtain ⟨stored, kept⟩ := h
  rcases Table.partition_of_replaceAll stored with ⟨c, hc, hp⟩ | ⟨ht, -⟩
  · rw [← hp]
    exact own c hc
  · rcases old k r ht with hcentral | hbefore
    · exact Or.inl hcentral
    · by_cases hcentral : Record.partition r ∈ central
      · exact Or.inl hcentral
      · by_cases hnow : Record.partition r ∈ now
        · exact Or.inr hnow
        · exact absurd ⟨hbefore, hnow, hcentral⟩ kept

/-- If all central types and all types declared now are replaced, nothing else is left. -/
lemma replaceAll_retired (own : ∀ c ∈ calls, c.1 ∈ central ∨ c.1 ∈ now)
    (all : ∀ p, p ∈ central ∨ p ∈ now → ∃ c ∈ calls, c.1 = p)
    (old : ∀ (k : String) (r : ρ), t[k]? = some r →
      Record.partition r ∈ central ∨ Record.partition r ∈ before) :
    t.replaceAll (calls ++ Table.clearing (undeclared before now central)) =
      (∅ : Table ρ).replaceAll calls := by
  refine Table.replaceAll_forgets ?_ ?_
  · intro k r ht
    by_cases hp : Record.partition r ∈ central ∨ Record.partition r ∈ now
    · exact Or.inl (all _ hp)
    · obtain ⟨hcentral, hnow⟩ := not_or.mp hp
      rcases old k r ht with h | hbefore
      · exact absurd h hcentral
      · exact Or.inr (mem_undeclared.mpr ⟨hbefore, hnow, hcentral⟩)
  · intro c hc hgone
    obtain ⟨-, hnow, hcentral⟩ := mem_undeclared.mp hgone
    rcases own c hc with h | h
    · exact hcentral h
    · exact hnow h

end Family

variable [Listing.Source σ]

section Polling

variable {settings : Settings} {configs : Option (List NamespaceConfig)}
  {before : DeclaredPartitions} {s : σ} {i : Inventory}

/-- What polling does to the two tables. -/
lemma replaceAll_polling (h : Consistent configs before) :
    i.replaceAll ((polling settings configs before s).filterMap Action.replacement?) =
      ⟨i.claims.replaceAll (claimCalls settings configs s ++
          Table.clearing (undeclared before.claims (declaredNow settings configs).claims
            (centralClaims settings))),
        i.composites.replaceAll (compositeCalls settings configs s ++
          Table.clearing (undeclared before.composites (declaredNow settings configs).composites
            (centralComposites settings)))⟩ := by
  have claims : ((listing settings configs s).filterMap Action.replacement?).filterMap
      Inventory.Replacement.claimCall? = claimCalls settings configs s :=
    List.filterMap_filterMap
  have composites : ((listing settings configs s).filterMap Action.replacement?).filterMap
      Inventory.Replacement.compositeCall? = compositeCalls settings configs s :=
    List.filterMap_filterMap
  rw [Inventory.replaceAll_eq, polling, List.filterMap_append, replacements_retirement h,
    List.filterMap_append, List.filterMap_append, claims, composites,
    Inventory.Replacement.claimCalls_clearing, Inventory.Replacement.compositeCalls_clearing]

/-- Polling keeps the inventory to what is central or declared, whether listings fail or not. -/
lemma Covers.polled (old : Covers settings before i) (h : Consistent configs before) :
    Covers settings (declaredNow settings configs)
      (i.replaceAll ((polling settings configs before s).filterMap Action.replacement?)) := by
  rw [replaceAll_polling h]
  constructor
  · intro k c hc
    exact partition_of_retired (fun _ => partition_of_mem_claimCalls) old.claims hc
  · intro k x hx
    exact partition_of_retired (fun _ => partition_of_mem_compositeCalls) old.composites hx

/-- Polling without failures forgets the inventory. -/
lemma replaceAll_polling_of_clean (old : Covers settings before i) (h : Consistent configs before)
    (clean : ∀ x ∈ listing settings configs s, isFailure x = false) :
    i.replaceAll ((polling settings configs before s).filterMap Action.replacement?) =
      ⟨(∅ : Table Claim).replaceAll (claimCalls settings configs s),
        (∅ : Table Composite).replaceAll (compositeCalls settings configs s)⟩ := by
  rw [replaceAll_polling h]
  congr 1
  · exact replaceAll_retired (fun _ => partition_of_mem_claimCalls)
      (fun _ => exists_claimCall_of_clean clean) old.claims
  · exact replaceAll_retired (fun _ => partition_of_mem_compositeCalls)
      (fun _ => exists_compositeCall_of_clean clean) old.composites

/-- Only listings fail. -/
lemma failures_polling :
    (polling settings configs before s).filterMap Action.failure? =
      (listing settings configs s).filterMap Action.failure? := by
  have retiring : (retirement settings configs before : List (Action σ)).filterMap
      Action.failure? = [] := by
    refine List.filterMap_eq_nil_iff.mpr fun x hx => ?_
    rcases mem_retirement hx with ⟨d, rfl⟩ | ⟨p, rfl⟩ | ⟨p, rfl⟩ <;> rfl
  rw [polling, List.filterMap_append, retiring, List.append_nil]

/-- No call before the retirement of types stands for a retirement. -/
lemma mem_listing_of_claimCall {p : String} {items : List Claim}
    (h : (p, items) ∈ claimCalls settings configs s) :
    .replaceClaims p items ∈ listing settings configs s := by
  obtain ⟨a, ha, hcall⟩ := List.mem_filterMap.mp h
  cases a with
  | replaceClaims q l => cases hcall; exact ha
  | retireClaims q => rcases mem_listing ha with h | ⟨_, h⟩ | ⟨_, h⟩ <;> cases h
  | _ => cases hcall

lemma mem_listing_of_compositeCall {p : String} {items : List Composite}
    (h : (p, items) ∈ compositeCalls settings configs s) :
    .replaceComposites p items ∈ listing settings configs s := by
  obtain ⟨a, ha, hcall⟩ := List.mem_filterMap.mp h
  cases a with
  | replaceComposites q l => cases hcall; exact ha
  | retireComposites q => rcases mem_listing ha with h | ⟨_, h⟩ | ⟨_, h⟩ <;> cases h
  | _ => cases hcall

/-- A claim that is left was listed in the cycle. -/
lemma exists_listed_claim {k : String} {c : Claim}
    (h : ((∅ : Table Claim).replaceAll (claimCalls settings configs s))[k]? = some c) :
    ∃ items, .replaceClaims c.partition items ∈ listing settings configs s ∧
      ∃ b ∈ items, Record.key b = k ∧ c = { b with partition := c.partition } := by
  obtain ⟨items, call, listed⟩ := Table.exists_call_of_replaceAll h
  exact ⟨items, mem_listing_of_claimCall call, listed⟩

/-- A composite that is left was listed in the cycle. -/
lemma exists_listed_composite {k : String} {x : Composite}
    (h : ((∅ : Table Composite).replaceAll (compositeCalls settings configs s))[k]? = some x) :
    ∃ items, .replaceComposites x.partition items ∈ listing settings configs s ∧
      ∃ y ∈ items, Record.key y = k ∧ x = { y with partition := x.partition } := by
  obtain ⟨items, call, listed⟩ := Table.exists_call_of_replaceAll h
  exact ⟨items, mem_listing_of_compositeCall call, listed⟩

lemma mem_actions_of_mem_listing {x : Action σ} (h : x ∈ listing settings configs s) :
    x ∈ actions settings configs before s := by
  rw [actions_eq_closing]
  exact List.mem_append_left _ (List.mem_append_left _ h)

end Polling

end Cycle

end ClaimTracker
