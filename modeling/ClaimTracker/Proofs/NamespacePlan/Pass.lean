import ClaimTracker.Proofs.NamespacePlan.Declarations
import Mathlib.Data.List.Basic
import Mathlib.Data.List.Induction
import Std.Data.ExtTreeMap

/-!
# A plan in one pass

A plan can be made in one pass over the declarations, in the order in which they stand in the
configurations. The pass keeps the composite types that it has seen, and for each claim type the position
of its entry, at which it adds further namespaces. The position is always that of an entry of this type,
and at the end of the pass the plan is the one that is built.
-/

namespace ClaimTracker.NamespacePlan

section FirstOfEach

variable {α : Type} {key : α → String}

/-- Of a further element nothing is kept if its key was there. -/
lemma firstOfEach_append_singleton (key : α → String) (l : List α) (a : α) :
    firstOfEach key (l ++ [a]) =
      firstOfEach key l ++ if key a ∈ l.map key then [] else [a] := by
  match l with
  | [] => rfl
  | c :: l =>
    have rest := firstOfEach_append_singleton key (l.filter fun b => (key b == key c) = false) a
    rw [List.cons_append, firstOfEach_cons, firstOfEach_cons, List.filter_append]
    by_cases same : key a = key c
    · simp [same]
    · have kept : [a].filter (fun b => (key b == key c) = false) = [a] := by simp [same]
      have known : key a ∈ (l.filter fun b => (key b == key c) = false).map key ↔
          key a ∈ (c :: l).map key := by
        simp only [List.mem_map, List.mem_filter, List.mem_cons]
        grind
      rw [kept, rest]
      simp only [known, List.cons_append]
termination_by l.length
decreasing_by
  have := List.length_filter_le (fun b => decide ((key b == key c) = false)) l
  simp only [List.length_cons]
  omega

lemma mem_map_firstOfEach {l : List α} {k : String} :
    k ∈ (firstOfEach key l).map key ↔ k ∈ l.map key := by
  constructor
  · intro h
    obtain ⟨a, ha, rfl⟩ := List.mem_map.mp h
    exact List.mem_map_of_mem (mem_of_mem_firstOfEach ha)
  · intro h
    obtain ⟨a, ha, rfl⟩ := List.mem_map.mp h
    obtain ⟨b, hb, heq⟩ := exists_firstOfEach ha
    exact List.mem_map.mpr ⟨b, hb, heq⟩

end FirstOfEach

open NamespaceConfig (Field)

def typesOf (c : NamespaceConfig) : Field → List ResourceType
  | .claims => c.claimTypes
  | .composites => c.compositeTypes

def declarations (configs : List NamespaceConfig) (keys : RecordKeys) (f : Field) :
    List Declaration :=
  configs.flatMap fun c => (typesOf c f).map fun t => ⟨t, c.ns, c.listingKeys keys⟩

structure Entry where
  field : Field
  declaration : Declaration

/-- All declarations, in the order of the configurations, in each of them composites first. -/
def entries (configs : List NamespaceConfig) (keys : RecordKeys) : List Entry :=
  configs.flatMap fun c => [Field.composites, Field.claims].flatMap fun f =>
    (typesOf c f).map fun t => ⟨f, ⟨t, c.ns, c.listingKeys keys⟩⟩

structure Draft where
  plan : NamespacePlan := ⟨[], [], []⟩
  /-- The composite types that are planned. -/
  seen : List String := []
  /-- Where the claim types that are planned stand. -/
  positions : Std.ExtTreeMap String Nat := ∅

namespace Draft

def skip (w : Draft) (d : Declaration) : Draft :=
  { w with plan := { w.plan with skipped := w.plan.skipped ++ [d.type.display] } }

/-- Plans a composite type unless it is planned. -/
def takeComposite (w : Draft) (d : Declaration) : Draft :=
  if w.seen.contains d.type.display then w
  else
    { w with
      plan := { w.plan with composites := w.plan.composites ++ [(d.type, d.keys)] }
      seen := d.type.display :: w.seen }

/-- The position of a claim type, at the end of the plan if it is new, and the draft in which it stands
there. -/
def locate (w : Draft) (d : Declaration) : Nat × Draft :=
  match w.positions[d.type.display]? with
  | some n => (n, w)
  | none =>
    (w.plan.claims.length,
      { w with
        plan := { w.plan with claims := w.plan.claims ++ [⟨d.type, []⟩] }
        positions := w.positions.insert d.type.display w.plan.claims.length })

/-- The entry with the namespace of a declaration, unless it has it. -/
def addScope (d : Declaration) (p : PlannedClaims) : PlannedClaims :=
  if p.scopes.any (·.1 == d.ns) then p else { p with scopes := p.scopes ++ [(d.ns, d.keys)] }

/-- Plans a claim type for a namespace. There is no result if its position is outside the plan. -/
def takeClaim (w : Draft) (d : Declaration) : Option Draft :=
  let (n, w) := w.locate d
  w.plan.claims[n]?.map fun p =>
    { w with plan := { w.plan with claims := w.plan.claims.set n (addScope d p) } }

/-- Takes a declaration in, given the types of each field that are polled centrally. -/
def take (central : Field → List String) (w : Draft) (e : Entry) : Option Draft :=
  if (central e.field).contains e.declaration.type.display then some (w.skip e.declaration)
  else
    match e.field with
    | .composites => some (w.takeComposite e.declaration)
    | .claims => w.takeClaim e.declaration

end Draft

/-- The draft after a pass over declarations, if it has come to its end. -/
def pass (central : Field → List String) (l : List Entry) : Option Draft :=
  l.foldlM (Draft.take central) {}

def displays (l : List Declaration) : List String :=
  l.map fun d => d.type.display

/-- The entry that declarations lead to for the type of one of them. -/
def planned (l : List Declaration) (d : Declaration) : PlannedClaims :=
  ⟨d.type, scopesOf d.type.display l⟩

def plannedAll (l : List Declaration) : List PlannedClaims :=
  (firstOfEach (fun d => d.type.display) l).map (planned l)

def own (central : Field → List String) (f : Field) (l : List Entry) : List Declaration :=
  unlessCentral (central f) ((l.filter (·.field = f)).map Entry.declaration)

def skipped? (central : Field → List String) (e : Entry) : Option String :=
  Option.guard (central e.field).contains e.declaration.type.display

def planFor (central : Field → List String) (l : List Entry) : NamespacePlan where
  composites := (firstOfEach (fun d => d.type.display) (own central .composites l)).map fun d =>
    (d.type, d.keys)
  claims := plannedAll (own central .claims l)
  skipped := l.filterMap (skipped? central)

def centrals (centralClaims centralComposites : List String) : Field → List String
  | .claims => centralClaims
  | .composites => centralComposites

lemma declarations_entries (configs : List NamespaceConfig) (keys : RecordKeys) (f : Field) :
    ((entries configs keys).filter (·.field = f)).map Entry.declaration =
      declarations configs keys f := by
  rw [entries, declarations, List.filter_flatMap, List.map_flatMap]
  refine List.flatMap_congr fun c _ => ?_
  cases f <;> simp [List.filter_map, Function.comp_def]

lemma skipped_entries (configs : List NamespaceConfig) (keys : RecordKeys)
    (central : Field → List String) :
    (entries configs keys).filterMap (skipped? central) =
      configs.flatMap fun c => [Field.composites, Field.claims].flatMap fun f =>
        ((typesOf c f).map ResourceType.display).filter (central f).contains := by
  rw [entries, List.filterMap_flatMap]
  refine List.flatMap_congr fun c _ => ?_
  rw [List.filterMap_flatMap]
  refine List.flatMap_congr fun f _ => ?_
  rw [List.filterMap_map, ← List.filterMap_eq_filter, List.filterMap_map]
  rfl

/-- The plan that is built is the one for all declarations. -/
lemma build_eq_planFor (configs : List NamespaceConfig) (keys : RecordKeys)
    (centralClaims centralComposites : List String) :
    build configs keys centralClaims centralComposites =
      planFor (centrals centralClaims centralComposites) (entries configs keys) := by
  rw [planFor, own, own, declarations_entries, declarations_entries, skipped_entries]
  simp only [List.flatMap_cons, List.flatMap_nil, List.append_nil]
  rfl

section Claims

variable {l : List Declaration} {d e : Declaration}

/-- The entry with the namespace of a declaration, if it is for the declared type. -/
def widen (d : Declaration) (p : PlannedClaims) : PlannedClaims :=
  if p.type.display = d.type.display then Draft.addScope d p else p

@[simp] lemma type_addScope (d : Declaration) (p : PlannedClaims) :
    (Draft.addScope d p).type = p.type := by
  unfold Draft.addScope
  split <;> rfl

@[simp] lemma type_widen (d : Declaration) (p : PlannedClaims) : (widen d p).type = p.type := by
  unfold widen
  split
  · exact type_addScope d p
  · rfl

lemma addScope_eq (d : Declaration) (p : PlannedClaims) :
    Draft.addScope d p = ⟨p.type,
      p.scopes ++ if d.ns ∈ p.scopes.map Prod.fst then [] else [(d.ns, d.keys)]⟩ := by
  have known : p.scopes.any (·.1 == d.ns) = true ↔ d.ns ∈ p.scopes.map Prod.fst := by
    simp [List.any_eq_true]
  unfold Draft.addScope
  by_cases h : d.ns ∈ p.scopes.map Prod.fst
  · rw [if_pos (known.mpr h), if_pos h, List.append_nil]
  · rw [if_neg (known.not.mpr h), if_neg h]

lemma scopesOf_append_of_ne {g : String} (h : d.type.display ≠ g) :
    scopesOf g (l ++ [d]) = scopesOf g l := by
  have other : [d].filter (fun e => e.type.display == g) = [] := by simp [h]
  rw [scopesOf, List.filter_append, other, List.append_nil]
  rfl

lemma scopesOf_append_self (l : List Declaration) (d : Declaration) :
    scopesOf d.type.display (l ++ [d]) = scopesOf d.type.display l ++
      if d.ns ∈ (scopesOf d.type.display l).map Prod.fst then [] else [(d.ns, d.keys)] := by
  have own : [d].filter (fun e => e.type.display == d.type.display) = [d] := by simp
  have known : d.ns ∈ (l.filter fun e => e.type.display == d.type.display).map Declaration.ns ↔
      d.ns ∈ (scopesOf d.type.display l).map Prod.fst := by
    rw [← mem_map_firstOfEach, scopesOf, List.map_map]
    rfl
  rw [scopesOf, List.filter_append, own, firstOfEach_append_singleton, List.map_append]
  simp only [known]
  split <;> rfl

/-- A further declaration adds its namespace to the entry of its type, and leaves the others. -/
lemma planned_append_singleton (l : List Declaration) (d e : Declaration) :
    planned (l ++ [d]) e = widen d (planned l e) := by
  by_cases same : e.type.display = d.type.display
  · rw [widen, if_pos (show (planned l e).type.display = _ from same), addScope_eq, planned, planned,
      same, scopesOf_append_self]
  · rw [widen, if_neg (show (planned l e).type.display ≠ _ from same), planned,
      scopesOf_append_of_ne (Ne.symm same)]
    rfl

lemma scopesOf_of_undeclared (new : d.type.display ∉ displays l) :
    scopesOf d.type.display l = [] := by
  have none : (l.filter fun e => e.type.display == d.type.display) = [] := by
    refine List.filter_eq_nil_iff.mpr fun e he same => ?_
    exact new (List.mem_map.mpr ⟨e, he, eq_of_beq same⟩)
  rw [scopesOf, none]
  rfl

@[simp] lemma mem_displays_append {g : String} :
    g ∈ displays (l ++ [d]) ↔ g ∈ displays l ∨ g = d.type.display := by
  simp [displays]

lemma mem_displays_iff {g : String} : g ∈ displays l ↔ ∃ p ∈ plannedAll l, p.type.display = g := by
  rw [displays, ← mem_map_firstOfEach]
  simp [plannedAll, planned]

/-- The entries for declarations, with one for a type that is new. -/
def located (l : List Declaration) (d : Declaration) : List PlannedClaims :=
  plannedAll l ++ if d.type.display ∈ displays l then [] else [⟨d.type, []⟩]

/-- A further declaration of a claim type adds its namespace to the entry of its type, which is at the
end if it is new. -/
lemma plannedAll_append_singleton (l : List Declaration) (d : Declaration) :
    plannedAll (l ++ [d]) = (located l d).map (widen d) := by
  have step : planned (l ++ [d]) = widen d ∘ planned l :=
    funext fun e => planned_append_singleton l d e
  rw [plannedAll, firstOfEach_append_singleton, step, ← List.map_map, List.map_append, located,
    displays]
  by_cases known : d.type.display ∈ l.map fun e => e.type.display
  · rw [if_pos known, if_pos known]
    rfl
  · rw [if_neg known, if_neg known, plannedAll, List.map_singleton, planned,
      scopesOf_of_undeclared known]

end Claims

/-- A position is noted for a type exactly if an entry of this type stands there. -/
def Locates (positions : Std.ExtTreeMap String Nat) (claims : List PlannedClaims) : Prop :=
  ∀ (g : String) (n : Nat),
    positions[g]? = some n ↔ ∃ p : PlannedClaims, claims[n]? = some p ∧ p.type.display = g

namespace Locates

variable {positions : Std.ExtTreeMap String Nat} {claims : List PlannedClaims} {d : Declaration}

lemma map_widen (h : Locates positions claims) (d : Declaration) :
    Locates positions (claims.map (widen d)) := by
  intro g n
  rw [h g n, List.getElem?_map]
  cases claims[n]? <;> simp

/-- A new type stands at the end. -/
lemma insert (h : Locates positions claims) (new : positions[d.type.display]? = none) :
    Locates (positions.insert d.type.display claims.length) (claims ++ [⟨d.type, []⟩]) := by
  have old : ∀ (n : Nat) (p : PlannedClaims), claims[n]? = some p →
      p.type.display ≠ d.type.display := by
    intro n p hp same
    rw [(h _ n).mpr ⟨p, hp, same⟩] at new
    cases new
  have stands : ∀ (n : Nat) (p : PlannedClaims), (claims ++ [⟨d.type, []⟩])[n]? = some p ↔
      claims[n]? = some p ∨ n = claims.length ∧ ⟨d.type, []⟩ = p := by
    intro n p
    grind
  intro g n
  rw [Std.ExtTreeMap.getElem?_insert]
  simp only [Std.LawfulEqCmp.compare_eq_iff_eq, stands]
  by_cases here : d.type.display = g
  · rw [if_pos here, ← here, Option.some.injEq]
    constructor
    · rintro rfl
      exact ⟨_, Or.inr ⟨rfl, rfl⟩, rfl⟩
    · rintro ⟨p, hp | ⟨rfl, -⟩, same⟩
      · exact absurd same (old n p hp)
      · rfl
  · rw [if_neg here, h g n]
    constructor
    · rintro ⟨p, hp, same⟩
      exact ⟨p, Or.inl hp, same⟩
    · rintro ⟨p, hp | ⟨-, rfl⟩, same⟩
      · exact ⟨p, hp, same⟩
      · exact absurd same here

/-- No other entry is of the type. -/
lemma set_addScope (h : Locates positions claims) {n : Nat} {p : PlannedClaims}
    (hp : claims[n]? = some p) (same : p.type.display = d.type.display) :
    claims.set n (Draft.addScope d p) = claims.map (widen d) := by
  obtain ⟨hn, -⟩ := List.getElem?_eq_some_iff.mp hp
  refine List.ext_getElem? fun m => ?_
  rw [List.getElem?_map, List.getElem?_set]
  by_cases here : n = m
  · subst here
    rw [if_pos rfl, if_pos hn, hp, Option.map_some, widen, if_pos same]
  · rw [if_neg here]
    cases hq : claims[m]? with
    | none => rfl
    | some q =>
      have other : q.type.display ≠ d.type.display := by
        intro heq
        have first := (h _ n).mpr ⟨p, hp, same⟩
        have second := (h _ m).mpr ⟨q, hq, heq⟩
        exact here (Option.some.inj (first.symm.trans second))
      rw [Option.map_some, widen, if_neg other]

end Locates

/-- What a draft is after a pass over declarations. -/
structure Draft.Follows (central : Field → List String) (w : Draft) (l : List Entry) : Prop where
  plan : w.plan = planFor central l
  seen : ∀ g, g ∈ w.seen ↔ g ∈ displays (own central .composites l)
  locates : Locates w.positions w.plan.claims

section Steps

variable {central : Field → List String} {f : Field} {l : List Entry} {w : Draft}
  {d : Declaration}

lemma own_append_of_ne {g : Field} (h : g ≠ f) :
    own central f (l ++ [⟨g, d⟩]) = own central f l := by
  simp [own, h]

lemma own_append_of_central (h : d.type.display ∈ central f) (g : Field) :
    own central g (l ++ [⟨f, d⟩]) = own central g l := by
  by_cases same : f = g
  · subst same
    simp [own, unlessCentral, h]
  · exact own_append_of_ne same

lemma own_append_self (h : d.type.display ∉ central f) :
    own central f (l ++ [⟨f, d⟩]) = own central f l ++ [d] := by
  simp [own, unlessCentral, h]

lemma skipped_append (h : d.type.display ∉ central f) :
    (l ++ [(⟨f, d⟩ : Entry)]).filterMap (skipped? central) = l.filterMap (skipped? central) := by
  simp [skipped?, h]

/-- The declaration of a central type is noted, and nothing else. -/
lemma Draft.Follows.skip (h : w.Follows central l) (centrally : d.type.display ∈ central f) :
    (w.skip d).Follows central (l ++ [⟨f, d⟩]) := by
  have skips : skipped? central ⟨f, d⟩ = some d.type.display := by
    simp [skipped?, centrally]
  refine ⟨?_, ?_, h.locates⟩
  · rw [planFor, own_append_of_central centrally, own_append_of_central centrally,
      List.filterMap_append, List.filterMap_cons_some skips, Draft.skip, h.plan]
    rfl
  · rw [own_append_of_central centrally]
    exact h.seen

lemma Draft.Follows.takeComposite (h : w.Follows central l)
    (uncentral : d.type.display ∉ central .composites) :
    (w.takeComposite d).Follows central (l ++ [⟨.composites, d⟩]) := by
  have plan : planFor central (l ++ [⟨.composites, d⟩]) =
      { w.plan with composites := w.plan.composites ++
          if d.type.display ∈ displays (own central .composites l) then []
            else [(d.type, d.keys)] } := by
    rw [planFor, own_append_self uncentral, own_append_of_ne (by decide), skipped_append uncentral,
      firstOfEach_append_singleton, List.map_append, h.plan, displays]
    split <;> rfl
  by_cases known : d.type.display ∈ displays (own central .composites l)
  · rw [Draft.takeComposite, if_pos (List.contains_iff_mem.mpr ((h.seen _).mpr known))]
    rw [if_pos known, List.append_nil] at plan
    refine ⟨plan.symm, fun g => ?_, h.locates⟩
    rw [h.seen, own_append_self uncentral, mem_displays_append]
    exact ⟨Or.inl, fun hg => hg.elim id fun last => last ▸ known⟩
  · rw [Draft.takeComposite, if_neg (mt List.contains_iff_mem.mp (mt (h.seen _).mp known))]
    rw [if_neg known] at plan
    refine ⟨plan.symm, fun g => ?_, h.locates⟩
    rw [own_append_self uncentral, mem_displays_append, List.mem_cons, h.seen, or_comm]

/-- A claim type has its place, be it known or new. -/
lemma Draft.Follows.locate (h : w.Follows central l) (d : Declaration) :
    ∃ n positions p,
      w.locate d = (n, { w with
        plan := { w.plan with claims := located (own central .claims l) d }
        positions }) ∧
      Locates positions (located (own central .claims l) d) ∧
      (located (own central .claims l) d)[n]? = some p ∧ p.type.display = d.type.display := by
  have entries : w.plan.claims = plannedAll (own central .claims l) := by
    rw [h.plan]
    rfl
  have locates := h.locates
  cases known : w.positions[d.type.display]? with
  | some n =>
    obtain ⟨p, hp, same⟩ := (locates _ _).mp known
    have declared : d.type.display ∈ displays (own central .claims l) :=
      mem_displays_iff.mpr ⟨p, entries ▸ List.mem_of_getElem? hp, same⟩
    have kept : located (own central .claims l) d = w.plan.claims := by
      rw [located, if_pos declared, List.append_nil, entries]
    rw [kept]
    refine ⟨n, w.positions, p, ?_, locates, hp, same⟩
    simp only [Draft.locate, known]
  | none =>
    have undeclared : d.type.display ∉ displays (own central .claims l) := by
      intro declared
      obtain ⟨p, hp, same⟩ := mem_displays_iff.mp declared
      obtain ⟨n, hn⟩ := List.mem_iff_getElem?.mp (entries ▸ hp)
      rw [(locates _ n).mpr ⟨p, hn, same⟩] at known
      cases known
    have grown : located (own central .claims l) d = w.plan.claims ++ [⟨d.type, []⟩] := by
      rw [located, if_neg undeclared, entries]
    rw [grown]
    refine ⟨w.plan.claims.length, _, ⟨d.type, []⟩, ?_, locates.insert known, ?_, rfl⟩
    · simp only [Draft.locate, known]
    · exact List.getElem?_concat_length

/-- A claim type that is not central is planned for one more namespace, at a position inside the
plan. -/
lemma Draft.Follows.takeClaim (h : w.Follows central l)
    (uncentral : d.type.display ∉ central .claims) :
    ∃ w', w.takeClaim d = some w' ∧ w'.Follows central (l ++ [⟨.claims, d⟩]) := by
  have plan : planFor central (l ++ [⟨.claims, d⟩]) =
      { w.plan with claims := (NamespacePlan.located (own central .claims l) d).map (widen d) } := by
    rw [planFor, own_append_self uncentral, own_append_of_ne (by decide), skipped_append uncentral,
      plannedAll_append_singleton, h.plan]
    rfl
  obtain ⟨n, positions, p, place, locates, hp, same⟩ := h.locate d
  have taken : w.takeClaim d =
      some { w with plan := planFor central (l ++ [⟨.claims, d⟩]), positions } := by
    simp only [Draft.takeClaim, place, hp, Option.map_some, locates.set_addScope hp same, plan]
  refine ⟨_, taken, rfl, ?_, ?_⟩
  · rw [own_append_of_ne (by decide)]
    exact h.seen
  · rw [plan]
    exact locates.map_widen d

/-- A declaration can always be taken in. -/
lemma Draft.Follows.take (h : w.Follows central l) (e : Entry) :
    ∃ w', w.take central e = some w' ∧ w'.Follows central (l ++ [e]) := by
  obtain ⟨f, d⟩ := e
  by_cases centrally : d.type.display ∈ central f
  · exact ⟨w.skip d, if_pos (List.contains_iff_mem.mpr centrally), h.skip centrally⟩
  rw [Draft.take, if_neg (mt List.contains_iff_mem.mp centrally)]
  cases f with
  | composites => exact ⟨_, rfl, h.takeComposite centrally⟩
  | claims => exact h.takeClaim centrally

end Steps

/-- A pass comes to its end, and to the plan for the declarations. -/
lemma exists_pass (central : Field → List String) (l : List Entry) :
    ∃ w, pass central l = some w ∧ w.Follows central l := by
  induction l using List.reverseRecOn with
  | nil =>
    refine ⟨{}, rfl, rfl, fun g => Iff.rfl, fun g n => ?_⟩
    simp
  | append_singleton l e ih =>
    obtain ⟨w, reached, follows⟩ := ih
    obtain ⟨w', taken, next⟩ := follows.take e
    refine ⟨w', ?_, next⟩
    rw [pass, List.foldlM_append, ← pass, reached]
    simp [taken]

end ClaimTracker.NamespacePlan
