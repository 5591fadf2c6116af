import ClaimTracker.Proofs.NamespacePlan.Pass
import ClaimTracker.Proofs.NamespacePlan.Reordering

/-!
# What a plan consists of

A plan has each type once that is declared and not central, in the order in which they are first declared,
and each claim type with each namespace once that declares it. The keys are those of the first
configuration that declares the type, for claims the first one in the namespace. What is declared and
central is skipped, once for each declaration.
-/

namespace ClaimTracker.NamespacePlan

section FirstOfEach

variable {α : Type} {key : α → String}

/-- What is kept is the first element of its key. -/
lemma find?_of_mem_firstOfEach {l : List α} {a : α} (h : a ∈ firstOfEach key l) :
    (l.find? fun b => key b == key a) = some a := by
  match l with
  | [] => cases h
  | c :: l =>
    rw [firstOfEach_cons] at h
    rcases List.mem_cons.mp h with rfl | rest
    · exact List.find?_cons_of_pos (beq_self_eq_true _)
    have other : key a ≠ key c := by
      simpa using (List.mem_filter.mp (mem_of_mem_firstOfEach rest)).2
    have first := find?_of_mem_firstOfEach rest
    rw [List.find?_filter] at first
    rw [List.find?_cons_of_neg (by simpa using Ne.symm other), ← first]
    congr 1
    funext b
    by_cases same : key b = key a
    · simp [same, other]
    · simp [same]
termination_by l.length
decreasing_by
  have := List.length_filter_le (fun b => decide ((key b == key c) = false)) l
  simp only [List.length_cons]
  omega

lemma map_firstOfEach (key : α → String) (l : List α) :
    (firstOfEach key l).map key = (l.map key).eraseDups := by
  match l with
  | [] => rfl
  | c :: l =>
    have rest := map_firstOfEach key (l.filter fun b => (key b == key c) = false)
    have others : (fun b => decide ((key b == key c) = false)) = (fun g => !g == key c) ∘ key := by
      funext b
      cases h : key b == key c <;> simp [h]
    rw [firstOfEach_cons, List.map_cons, rest, List.map_cons, List.eraseDups_cons, List.filter_map,
      others]
termination_by l.length
decreasing_by
  have := List.length_filter_le (fun b => decide ((key b == key c) = false)) l
  simp only [List.length_cons]
  omega

end FirstOfEach

open NamespaceConfig (Field)

/-- The first configuration that declares a type of this display form in a field. -/
def firstDeclaring (f : Field) (configs : List NamespaceConfig) (g : String) :
    Option NamespaceConfig :=
  configs.find? fun c => (typesOf c f).any (·.display == g)

/-- The types are those that are declared in a field and not central, each once, in the order in which
they are first declared. -/
structure PlansEach (f : Field) (configs : List NamespaceConfig) (central : List String)
    (types : List ResourceType) : Prop where
  nodup : (types.map ResourceType.display).Nodup
  complete : ∀ g, g ∈ types.map ResourceType.display ↔
    g ∉ central ∧ ∃ c ∈ configs, ∃ t ∈ typesOf c f, t.display = g
  order : types.map ResourceType.display =
    ((configs.flatMap fun c => (typesOf c f).map ResourceType.display).filter
      (!central.contains ·)).eraseDups

structure IsExact (configs : List NamespaceConfig) (keys : RecordKeys)
    (centralClaims centralComposites : List String) (plan : NamespacePlan) : Prop where
  composites : PlansEach .composites configs centralComposites (plan.composites.map Prod.fst)
  compositeKeys : ∀ q ∈ plan.composites, ∃ c,
    firstDeclaring .composites configs q.1.display = some c ∧
      q.1 ∈ c.compositeTypes ∧ q.2 = c.listingKeys keys
  claims : PlansEach .claims configs centralClaims (plan.claims.map PlannedClaims.type)
  claimTypes : ∀ p ∈ plan.claims, ∃ c,
    firstDeclaring .claims configs p.type.display = some c ∧ p.type ∈ c.claimTypes
  namespaces_nodup : ∀ p ∈ plan.claims, (p.scopes.map Prod.fst).Nodup
  namespaces_complete : ∀ p ∈ plan.claims, ∀ ns, ns ∈ p.scopes.map Prod.fst ↔
    ∃ c ∈ configs, c.ns = ns ∧ ∃ t ∈ c.claimTypes, t.display = p.type.display
  /-- Namespaces come in the order in which they first declare the type. -/
  namespaces_order : ∀ p ∈ plan.claims, p.scopes.map Prod.fst =
    (configs.flatMap fun c =>
      (c.claimTypes.filter (·.display == p.type.display)).map fun _ => c.ns).eraseDups
  /-- Of the configurations of a namespace the first that declares the type gives the keys. -/
  scopeKeys : ∀ p ∈ plan.claims, ∀ s ∈ p.scopes, ∃ c,
    firstDeclaring .claims (configs.filter (·.ns == s.1)) p.type.display = some c ∧
      s.2 = c.listingKeys keys
  skipped : plan.skipped = configs.flatMap fun c =>
    (c.compositeTypes.map ResourceType.display).filter centralComposites.contains ++
      (c.claimTypes.map ResourceType.display).filter centralClaims.contains

section Declared

variable {f : Field} {configs : List NamespaceConfig} {keys : RecordKeys} {central : List String}

/-- The first declaration with a property comes from the first configuration that has one. -/
lemma find?_declarations {P : Declaration → Bool} {d : Declaration}
    (h : (declarations configs keys f).find? P = some d) :
    ∃ c, (configs.find? fun c => (typesOf c f).any fun t => P ⟨t, c.ns, c.listingKeys keys⟩) =
        some c ∧ d.type ∈ typesOf c f ∧ d.keys = c.listingKeys keys := by
  rw [declarations, List.find?_flatMap] at h
  obtain ⟨before, c, after, rfl, found, none⟩ := List.findSome?_eq_some_iff.mp h
  rw [List.find?_map] at found
  obtain ⟨t, ht, rfl⟩ := Option.map_eq_some_iff.mp found
  refine ⟨c, List.find?_eq_some_iff_append.mpr ⟨?_, before, after, rfl, fun b hb => ?_⟩, ?_, rfl⟩
  · have own := List.find?_some ht
    exact List.any_eq_true.mpr ⟨t, List.mem_of_find?_eq_some ht, own⟩
  · have missing := none b hb
    rw [List.find?_map, Option.map_eq_none_iff, List.find?_eq_none] at missing
    simpa using missing
  · exact List.mem_of_find?_eq_some ht

/-- The types of the declarations that are not central, each once. -/
lemma plansEach_firstOfEach (f : Field) (configs : List NamespaceConfig) (keys : RecordKeys)
    (central : List String) :
    PlansEach f configs central
      ((firstOfEach (fun d => d.type.display)
        (unlessCentral central (declarations configs keys f))).map Declaration.type) := by
  have displays : ((firstOfEach (fun d => d.type.display)
      (unlessCentral central (declarations configs keys f))).map Declaration.type).map
        ResourceType.display =
      ((configs.flatMap fun c => (typesOf c f).map ResourceType.display).filter
        (!central.contains ·)).eraseDups := by
    have all : (declarations configs keys f).map (fun d => d.type.display) =
        configs.flatMap fun c => (typesOf c f).map ResourceType.display := by
      simp [declarations, List.map_flatMap, Function.comp_def]
    rw [List.map_map, ← all, List.filter_map]
    exact map_firstOfEach _ _
  refine ⟨?_, fun g => ?_, displays⟩
  · rw [List.map_map]
    exact nodup_firstOfEach _ _
  · rw [displays]
    simp only [List.mem_eraseDups, List.mem_filter, List.mem_flatMap, List.mem_map,
      Bool.not_eq_true', List.contains_eq_mem, decide_eq_false_iff_not]
    exact and_comm

lemma filter_unlessCentral {g : String} (uncentral : g ∉ central) (l : List Declaration) :
    (unlessCentral central l).filter (fun d => d.type.display == g) =
      l.filter fun d => d.type.display == g := by
  rw [unlessCentral, List.filter_filter]
  refine List.filter_congr fun d _ => ?_
  rw [Bool.eq_iff_iff]
  by_cases same : d.type.display = g
  · simp [same, uncentral]
  · simp [same]

/-- What is planned of a type comes from the first configuration that declares it. -/
lemma firstDeclaring_of_mem {d : Declaration}
    (h : d ∈ firstOfEach (fun d => d.type.display)
      (unlessCentral central (declarations configs keys f))) :
    ∃ c, firstDeclaring f configs d.type.display = some c ∧
      d.type ∈ typesOf c f ∧ d.keys = c.listingKeys keys := by
  have uncentral := (mem_unlessCentral.mp (mem_of_mem_firstOfEach h)).2
  have first := find?_of_mem_firstOfEach h
  rw [← List.head?_filter, filter_unlessCentral uncentral, List.head?_filter] at first
  exact find?_declarations first

/-- The namespaces of a type are those of its declarations, each once. -/
lemma namespaces_scopesOf {g : String} (uncentral : g ∉ central) :
    (scopesOf g (unlessCentral central (declarations configs keys f))).map Prod.fst =
      (configs.flatMap fun c =>
        ((typesOf c f).filter (·.display == g)).map fun _ => c.ns).eraseDups := by
  rw [scopesOf, List.map_map, filter_unlessCentral uncentral]
  refine (map_firstOfEach Declaration.ns _).trans (congrArg List.eraseDups ?_)
  rw [declarations, List.filter_flatMap, List.map_flatMap]
  refine List.flatMap_congr fun c _ => ?_
  rw [List.filter_map, List.map_map]
  rfl

/-- What is planned of a claim type for a namespace comes from the first configuration there that declares
the type. -/
lemma firstDeclaring_of_mem_scopes {g : String} (uncentral : g ∉ central)
    {s : String × ListingKeys}
    (h : s ∈ scopesOf g (unlessCentral central (declarations configs keys f))) :
    ∃ c, firstDeclaring f (configs.filter (·.ns == s.1)) g = some c ∧
      s.2 = c.listingKeys keys := by
  obtain ⟨e, he, rfl⟩ := List.mem_map.mp h
  have first := find?_of_mem_firstOfEach he
  rw [filter_unlessCentral uncentral, List.find?_filter] at first
  obtain ⟨c, found, -, own⟩ := find?_declarations first
  refine ⟨c, ?_, own⟩
  rw [firstDeclaring, List.find?_filter, ← found]
  congr 1
  funext b
  rw [Bool.eq_iff_iff]
  simp only [decide_eq_true_eq, List.any_eq_true]
  constructor
  · rintro ⟨here, t, ht, same⟩
    exact ⟨t, ht, same, here⟩
  · rintro ⟨t, ht, same, here⟩
    exact ⟨here, t, ht, same⟩

end Declared

lemma isExact_build (configs : List NamespaceConfig) (keys : RecordKeys)
    (centralClaims centralComposites : List String) :
    (build configs keys centralClaims centralComposites).IsExact configs keys centralClaims
      centralComposites := by
  constructor
  case composites =>
    have planned := plansEach_firstOfEach .composites configs keys centralComposites
    rwa [build, List.map_map]
  case compositeKeys =>
    intro q hq
    obtain ⟨d, hd, rfl⟩ := List.mem_map.mp hq
    exact firstDeclaring_of_mem (f := .composites) hd
  case claims =>
    have planned := plansEach_firstOfEach .claims configs keys centralClaims
    rwa [build, List.map_map]
  case claimTypes =>
    intro p hp
    obtain ⟨d, hd, rfl⟩ := List.mem_map.mp hp
    obtain ⟨c, first, declared, -⟩ := firstDeclaring_of_mem (f := .claims) hd
    exact ⟨c, first, declared⟩
  case namespaces_nodup => exact fun p hp => nodup_namespaces hp
  case namespaces_complete => exact fun p hp ns => mem_namespaces_iff hp
  case namespaces_order =>
    intro p hp
    obtain ⟨uncentral, -⟩ := mem_claims hp
    obtain ⟨d, -, rfl⟩ := List.mem_map.mp hp
    exact namespaces_scopesOf (f := .claims) uncentral
  case scopeKeys =>
    intro p hp s hs
    obtain ⟨uncentral, -⟩ := mem_claims hp
    obtain ⟨d, -, rfl⟩ := List.mem_map.mp hp
    exact firstDeclaring_of_mem_scopes (f := .claims) uncentral hs
  case skipped => rfl

/-- However configurations and central types overlap, the plan consists of what it is to consist of. One
pass over the declarations makes it, in which the position of a claim type is always inside the plan
and that of the entry of this type, and no entry is without its position. -/
theorem build_exact (configs : List NamespaceConfig) (keys : RecordKeys)
    (centralClaims centralComposites : List String) :
    let plan := build configs keys centralClaims centralComposites
    let central := centrals centralClaims centralComposites
    plan.IsExact configs keys centralClaims centralComposites ∧
      (∃ w, pass central (entries configs keys) = some w ∧ w.plan = plan) ∧
      ∀ steps : Nat, ∃ w, pass central ((entries configs keys).take steps) = some w ∧
        Locates w.positions w.plan.claims := by
  intro plan central
  refine ⟨isExact_build configs keys centralClaims centralComposites, ?_, fun steps => ?_⟩
  · obtain ⟨w, reached, follows⟩ := exists_pass central (entries configs keys)
    exact ⟨w, reached, follows.plan.trans (build_eq_planFor _ _ _ _).symm⟩
  · obtain ⟨w, reached, follows⟩ := exists_pass central ((entries configs keys).take steps)
    exact ⟨w, reached, follows.locates⟩

end ClaimTracker.NamespacePlan
