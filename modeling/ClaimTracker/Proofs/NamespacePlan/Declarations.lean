import Mathlib.Tactic.Lemma
import ClaimTracker.NamespacePlan

/-!
# What a plan is made from

A plan lists what the configurations declare and the central settings do not, each type once. A
composite type is planned with the keys of a configuration that declares it, a claim type for
namespaces with configurations that declare it.
-/

namespace ClaimTracker.NamespacePlan

section FirstOfEach

variable {α : Type} {key : α → String}

lemma firstOfEach_cons (key : α → String) (a : α) (l : List α) :
    firstOfEach key (a :: l) = a :: firstOfEach key (l.filter fun b => (key b == key a) = false) :=
  List.eraseDupsBy_cons

lemma mem_of_mem_firstOfEach {l : List α} {a : α} (h : a ∈ firstOfEach key l) : a ∈ l := by
  match l with
  | [] => cases h
  | b :: l =>
    rw [firstOfEach_cons] at h
    rcases List.mem_cons.mp h with rfl | rest
    · exact List.mem_cons_self
    · exact List.mem_cons_of_mem b (List.mem_filter.mp (mem_of_mem_firstOfEach rest)).1
termination_by l.length
decreasing_by
  have := List.length_filter_le (fun c => decide ((key c == key b) = false)) l
  simp only [List.length_cons]
  omega

lemma firstOfEach_ne_nil {l : List α} {a : α} (h : a ∈ l) : firstOfEach key l ≠ [] := by
  cases l with
  | nil => cases h
  | cons b l =>
    rw [firstOfEach_cons]
    exact List.cons_ne_nil _ _

lemma exists_firstOfEach {l : List α} {a : α} (h : a ∈ l) :
    ∃ b ∈ firstOfEach key l, key b = key a := by
  match l with
  | [] => cases h
  | c :: l =>
    rw [firstOfEach_cons]
    by_cases hkey : key a = key c
    · exact ⟨c, List.mem_cons_self, hkey.symm⟩
    · rcases List.mem_cons.mp h with rfl | rest
      · exact absurd rfl hkey
      · have kept : a ∈ l.filter fun b => (key b == key c) = false :=
          List.mem_filter.mpr ⟨rest, by simpa using hkey⟩
        obtain ⟨b, hb, heq⟩ := exists_firstOfEach kept
        exact ⟨b, List.mem_cons_of_mem c hb, heq⟩
termination_by l.length
decreasing_by
  have := List.length_filter_le (fun b => decide ((key b == key c) = false)) l
  simp only [List.length_cons]
  omega

lemma nodup_firstOfEach (key : α → String) (l : List α) : ((firstOfEach key l).map key).Nodup := by
  match l with
  | [] => exact List.nodup_nil
  | c :: l =>
    have others := nodup_firstOfEach key (l.filter fun b => (key b == key c) = false)
    rw [firstOfEach_cons, List.map_cons]
    refine List.nodup_cons.mpr ⟨fun again => ?_, others⟩
    obtain ⟨b, hb, heq⟩ := List.mem_map.mp again
    have kept := (List.mem_filter.mp (mem_of_mem_firstOfEach hb)).2
    simp [heq] at kept
termination_by l.length
decreasing_by
  have := List.length_filter_le (fun b => decide ((key b == key c) = false)) l
  simp only [List.length_cons]
  omega

end FirstOfEach

/-- A claim type is planned for at least one namespace. -/
lemma scopes_ne_nil {configs : List NamespaceConfig} {keys : RecordKeys}
    {centralClaims centralComposites : List String} {p : PlannedClaims}
    (h : p ∈ (build configs keys centralClaims centralComposites).claims) : p.scopes ≠ [] := by
  obtain ⟨d, hd, rfl⟩ := List.mem_map.mp h
  have declared := mem_of_mem_firstOfEach hd
  have own : d ∈ (unlessCentral centralClaims (declaredClaims configs keys)).filter
      fun e => e.type.display == d.type.display :=
    List.mem_filter.mpr ⟨declared, beq_self_eq_true _⟩
  intro hnil
  exact firstOfEach_ne_nil own (List.map_eq_nil_iff.mp hnil)

lemma mem_unlessCentral {central : List String} {l : List Declaration} {d : Declaration} :
    d ∈ unlessCentral central l ↔ d ∈ l ∧ d.type.display ∉ central := by
  simp [unlessCentral]

lemma mem_declaredComposites {configs : List NamespaceConfig} {keys : RecordKeys}
    {d : Declaration} :
    d ∈ declaredComposites configs keys ↔
      ∃ c ∈ configs, ∃ t ∈ c.compositeTypes, d = ⟨t, c.ns, c.listingKeys keys⟩ := by
  simp only [declaredComposites, List.mem_flatMap, List.mem_map, eq_comm]

lemma mem_declaredClaims {configs : List NamespaceConfig} {keys : RecordKeys} {d : Declaration} :
    d ∈ declaredClaims configs keys ↔
      ∃ c ∈ configs, ∃ t ∈ c.claimTypes, d = ⟨t, c.ns, c.listingKeys keys⟩ := by
  simp only [declaredClaims, List.mem_flatMap, List.mem_map, eq_comm]

variable {configs : List NamespaceConfig} {keys : RecordKeys}
  {centralClaims centralComposites : List String}

lemma mem_composites {p : ResourceType × ListingKeys}
    (h : p ∈ (build configs keys centralClaims centralComposites).composites) :
    p.1.display ∉ centralComposites ∧
      ∃ c ∈ configs, p.1 ∈ c.compositeTypes ∧ p.2 = c.listingKeys keys := by
  obtain ⟨d, hd, rfl⟩ := List.mem_map.mp h
  obtain ⟨declared, uncentral⟩ := mem_unlessCentral.mp (mem_of_mem_firstOfEach hd)
  obtain ⟨c, hc, t, ht, rfl⟩ := mem_declaredComposites.mp declared
  exact ⟨uncentral, c, hc, ht, rfl⟩

lemma mem_claims {p : PlannedClaims}
    (h : p ∈ (build configs keys centralClaims centralComposites).claims) :
    p.type.display ∉ centralClaims ∧ ∃ c ∈ configs, p.type ∈ c.claimTypes := by
  obtain ⟨d, hd, rfl⟩ := List.mem_map.mp h
  obtain ⟨declared, uncentral⟩ := mem_unlessCentral.mp (mem_of_mem_firstOfEach hd)
  obtain ⟨c, hc, t, ht, rfl⟩ := mem_declaredClaims.mp declared
  exact ⟨uncentral, c, hc, ht⟩

/-- A claim type is planned for namespaces with a configuration that declares it. -/
lemma mem_scopes {p : PlannedClaims}
    (h : p ∈ (build configs keys centralClaims centralComposites).claims)
    {scope : String × ListingKeys} (hs : scope ∈ p.scopes) :
    ∃ c ∈ configs, c.ns = scope.1 ∧ c.listingKeys keys = scope.2 ∧
      ∃ t ∈ c.claimTypes, t.display = p.type.display := by
  obtain ⟨d, -, rfl⟩ := List.mem_map.mp h
  obtain ⟨e, he, rfl⟩ := List.mem_map.mp hs
  obtain ⟨own, same⟩ := List.mem_filter.mp (mem_of_mem_firstOfEach he)
  obtain ⟨declared, -⟩ := mem_unlessCentral.mp own
  obtain ⟨c, hc, t, ht, rfl⟩ := mem_declaredClaims.mp declared
  exact ⟨c, hc, rfl, rfl, t, ht, eq_of_beq same⟩

/-- The composite types that are planned are those that are declared and not central. -/
lemma mem_displays_composites {p : String} :
    p ∈ (build configs keys centralClaims centralComposites).composites.map (·.1.display) ↔
      p ∉ centralComposites ∧ ∃ c ∈ configs, ∃ t ∈ c.compositeTypes, t.display = p := by
  constructor
  · intro h
    obtain ⟨q, hq, rfl⟩ := List.mem_map.mp h
    obtain ⟨uncentral, c, hc, ht, -⟩ := mem_composites hq
    exact ⟨uncentral, c, hc, q.1, ht, rfl⟩
  · rintro ⟨uncentral, c, hc, t, ht, rfl⟩
    have declared : (⟨t, c.ns, c.listingKeys keys⟩ : Declaration) ∈
        unlessCentral centralComposites (declaredComposites configs keys) :=
      mem_unlessCentral.mpr ⟨mem_declaredComposites.mpr ⟨c, hc, t, ht, rfl⟩, uncentral⟩
    obtain ⟨d, hd, heq⟩ := exists_firstOfEach declared
    exact List.mem_map.mpr ⟨(d.type, d.keys), List.mem_map.mpr ⟨d, hd, rfl⟩, heq⟩

/-- The claim types that are planned are those that are declared and not central. -/
lemma mem_displays_claims {p : String} :
    p ∈ (build configs keys centralClaims centralComposites).claims.map (·.type.display) ↔
      p ∉ centralClaims ∧ ∃ c ∈ configs, ∃ t ∈ c.claimTypes, t.display = p := by
  constructor
  · intro h
    obtain ⟨q, hq, rfl⟩ := List.mem_map.mp h
    obtain ⟨uncentral, c, hc, ht⟩ := mem_claims hq
    exact ⟨uncentral, c, hc, q.type, ht, rfl⟩
  · rintro ⟨uncentral, c, hc, t, ht, rfl⟩
    have declared : (⟨t, c.ns, c.listingKeys keys⟩ : Declaration) ∈
        unlessCentral centralClaims (declaredClaims configs keys) :=
      mem_unlessCentral.mpr ⟨mem_declaredClaims.mpr ⟨c, hc, t, ht, rfl⟩, uncentral⟩
    obtain ⟨d, hd, heq⟩ := exists_firstOfEach declared
    exact List.mem_map.mpr ⟨_, List.mem_map.mpr ⟨d, hd, rfl⟩, heq⟩

lemma nodup_composites :
    ((build configs keys centralClaims centralComposites).composites.map (·.1.display)).Nodup := by
  rw [build, List.map_map]
  exact nodup_firstOfEach _ _

lemma nodup_claims :
    ((build configs keys centralClaims centralComposites).claims.map (·.type.display)).Nodup := by
  rw [build, List.map_map]
  exact nodup_firstOfEach _ _

end ClaimTracker.NamespacePlan
