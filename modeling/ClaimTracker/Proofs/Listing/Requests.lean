import Mathlib.Logic.Relation
import Mathlib.Tactic.Lemma
import ClaimTracker.Cluster

/-!
# The requests of a listing

A listing makes its requests for one type and one place, of a source that changes with each of them.
The first asks for the first page, all others hand back a token. What a listing comes to is made up of
the pages that it was given, so a source that heeds the namespace of its requests has only objects of
that namespace listed. A cluster is such a source, and as requests leave it as it is, the same listing
always comes to the same.
-/

namespace ClaimTracker.Listing

variable {σ : Type} [Source σ]

def Leads : σ → σ → Prop :=
  Relation.ReflTransGen fun s t => ∃ r, t = (request r s).source

/-- Whatever has been requested before, listing a type in a place comes to the same. -/
structure Steady (s : σ) (answer : ResourceType → Option String → Except Error (List ClusterObject)) :
    Prop where
  bound_pos : ∀ t, Leads s t → 0 < Source.pageBound t
  result_eq : ∀ t, Leads s t → ∀ type ns, (all type ns t).result = answer type ns

/-- Requests for a namespace are answered with objects of this namespace. -/
def Heeds (s : σ) : Prop :=
  ∀ t, Leads s t → ∀ (r : Request) page ns, (request r t).result = .ok page → r.ns = some ns →
    ∀ o ∈ page.items, o.metadata.ns = some ns

lemma leads_request (r : Request) (s : σ) : Leads s (request r s).source :=
  .single ⟨r, rfl⟩

lemma Heeds.of_leads {s t : σ} (h : Heeds s) (hst : Leads s t) : Heeds t :=
  fun u htu => h u (hst.trans htu)

lemma Steady.of_leads {s t : σ}
    {answer : ResourceType → Option String → Except Error (List ClusterObject)}
    (h : Steady s answer) (hst : Leads s t) : Steady t answer :=
  ⟨fun u htu => h.bound_pos u (hst.trans htu), fun u htu => h.result_eq u (hst.trans htu)⟩

variable {type : ResourceType} {ns : Option String}

lemma leads_follow (type : ResourceType) (ns : Option String) (bound : Nat) (token : Option String)
    (s : σ) : Leads s (follow type ns bound token s).source := by
  induction bound generalizing token s with
  | zero => exact .refl
  | succ bound ih =>
    have first := leads_request (⟨type, ns, token, pageSize⟩ : Request) s
    simp only [follow]
    split
    · exact first
    · split
      · exact first
      · exact first.trans (ih _ _)

/-- A request of a listing is for its type and place, and is made of a source that the requests
before it have led to. -/
lemma mem_calls_follow {bound : Nat} {token : Option String} {s : σ} {c : Call σ}
    (h : c ∈ (follow type ns bound token s).calls) :
    c.request.type = type ∧ c.request.ns = ns ∧ ∃ t, Leads s t ∧ c = request c.request t := by
  induction bound generalizing token s with
  | zero => cases h
  | succ bound ih =>
    have first := leads_request (⟨type, ns, token, pageSize⟩ : Request) s
    simp only [follow] at h
    split at h
    · obtain rfl := List.mem_singleton.mp h
      exact ⟨rfl, rfl, s, .refl, rfl⟩
    · split at h
      · obtain rfl := List.mem_singleton.mp h
        exact ⟨rfl, rfl, s, .refl, rfl⟩
      · rcases List.mem_cons.mp h with rfl | rest
        · exact ⟨rfl, rfl, s, .refl, rfl⟩
        · obtain ⟨htype, hns, t, leads, heq⟩ := ih rest
          exact ⟨htype, hns, t, first.trans leads, heq⟩

lemma exists_page_of_follow {bound : Nat} {token : Option String} {s : σ}
    {objects : List ClusterObject} (h : (follow type ns bound token s).result = .ok objects)
    {o : ClusterObject} (ho : o ∈ objects) :
    ∃ c ∈ (follow type ns bound token s).calls, ∃ page, c.result = .ok page ∧ o ∈ page.items := by
  induction bound generalizing token s objects with
  | zero => cases h
  | succ bound ih =>
    simp only [follow] at h ⊢
    split at h
    · cases h
    · rename_i page paged
      split at h
      · cases h
        exact ⟨_, List.mem_cons_self, page, paged, ho⟩
      · rename_i token' _
        cases rest : (follow type ns bound (some token')
            (request ⟨type, ns, token, pageSize⟩ s).source).result with
        | error e =>
          rw [rest] at h
          cases h
        | ok more =>
          rw [rest] at h
          cases h
          rcases List.mem_append.mp ho with here | later
          · exact ⟨_, List.mem_cons_self, page, paged, here⟩
          · obtain ⟨c, hc, found⟩ := ih rest later
            exact ⟨c, List.mem_cons_of_mem _ hc, found⟩

lemma token_of_follow_some {bound : Nat} {token : String} {s : σ} {c : Call σ}
    (h : c ∈ (follow type ns bound (some token) s).calls) : c.request.token.isNone = false := by
  induction bound generalizing token s with
  | zero => cases h
  | succ bound ih =>
    simp only [follow] at h
    split at h
    · obtain rfl := List.mem_singleton.mp h
      rfl
    · split at h
      · obtain rfl := List.mem_singleton.mp h
        rfl
      · rcases List.mem_cons.mp h with rfl | rest
        · rfl
        · exact ih rest

lemma leads_all (type : ResourceType) (ns : Option String) (s : σ) : Leads s (all type ns s).source :=
  leads_follow type ns _ none s

/-- A listing asks for the first page once. -/
lemma openings_all (type : ResourceType) (ns : Option String) {s : σ}
    (h : 0 < Source.pageBound s) :
    ((all type ns s).calls.map Call.request).filter (·.token.isNone) =
      [⟨type, ns, none, pageSize⟩] := by
  have later : ∀ (bound : Nat) (token : String) (t : σ),
      ((follow type ns bound (some token) t).calls.map Call.request).filter (·.token.isNone) = [] := by
    intro bound token t
    refine List.filter_eq_nil_iff.mpr fun r hr => ?_
    obtain ⟨c, hc, rfl⟩ := List.mem_map.mp hr
    rw [token_of_follow_some hc]
    exact Bool.false_ne_true
  obtain ⟨bound, hb⟩ := Nat.exists_eq_succ_of_ne_zero (Nat.ne_of_gt h)
  rw [all, hb, follow]
  split
  · rfl
  · split
    · rfl
    · simp only [List.map_cons]
      rw [List.filter_cons_of_pos rfl, later]
      rfl

/-- What is listed in a namespace is of this namespace. -/
lemma Heeds.all {s : σ} (h : Heeds s) {ns : String} {objects : List ClusterObject}
    (listed : (all type (some ns) s).result = .ok objects) {o : ClusterObject} (ho : o ∈ objects) :
    o.metadata.ns = some ns := by
  obtain ⟨c, hc, page, paged, found⟩ := exists_page_of_follow listed ho
  obtain ⟨-, hns, t, leads, heq⟩ := mem_calls_follow hc
  rw [heq] at paged
  exact h t leads c.request page ns paged hns o found

end ClaimTracker.Listing

namespace ClaimTracker.Cluster

lemma eq_of_leads {c d : Cluster} (h : Listing.Leads c d) : d = c := by
  induction h with
  | refl => rfl
  | tail _ step ih =>
    obtain ⟨r, rfl⟩ := step
    exact ih

lemma steady (c : Cluster) : Listing.Steady c fun type ns => (Listing.all type ns c).result := by
  constructor
  · intro d leads
    exact Nat.succ_pos _
  · intro d leads type ns
    rw [eq_of_leads leads]

lemma mem_select_some {c : Cluster} {type : ResourceType} {ns : String} {o : ClusterObject}
    (h : o ∈ c.select type (some ns)) : o.metadata.ns = some ns :=
  eq_of_beq (List.mem_filter.mp h).2

lemma heeds (c : Cluster) : Listing.Heeds c := by
  intro d leads r page ns answered hns o ho
  have result : (Listing.request r d).result = d.page r := rfl
  rw [result, Cluster.page] at answered
  split at answered
  · cases answered
  · cases answered
    rw [hns] at ho
    exact mem_select_some (List.mem_of_mem_drop (List.mem_of_mem_take ho))

end ClaimTracker.Cluster
