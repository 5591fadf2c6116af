import ClaimTracker.Proofs.Cycle.Steady
import ClaimTracker.Proofs.Inventory.Separate

/-!
# Jobs that come to the same

Two jobs are alike if they list the same type in the same places, with keys that give the same records.
The places may come in another order; then the failures come in another order, and of the records with
one identity key another may be the last. If no identity key is listed in two places, alike jobs leave
the same record under each key.
-/

namespace ClaimTracker

namespace Cycle

/-- With these keys objects become the same records. A composite does not depend on the annotation
keys. -/
def Agree (family : Inventory.Family) (keys keys' : ListingKeys) : Prop :=
  match family with
  | .claims => keys = keys'
  | .composites => keys.composition = keys'.composition ∧ keys.origin = keys'.origin

structure Converts {ρ : Type} [Record ρ] (family : Inventory.Family)
    (convert : ClusterObject → ResourceType → ListingKeys → ρ) : Prop where
  key : ∀ o t keys, Record.key (convert o t keys) = objectKey o.ns o.name
  agree : ∀ o t keys keys', Agree family keys keys' → convert o t keys = convert o t keys'

lemma converts_claim : Converts .claims ClusterObject.claim where
  key _ _ _ := rfl
  agree _ _ _ _ agree := agree ▸ rfl

lemma converts_composite : Converts .composites ClusterObject.composite where
  key _ _ _ := rfl
  agree o t keys keys' agree := by
    obtain ⟨composition, origin⟩ := agree
    rw [ClusterObject.composite, composition, origin]
    rfl

namespace Job

structure Alike (j j' : Job) : Prop where
  family : j.family = j'.family
  type : j.type = j'.type
  places : (j.scopes.map Scope.ns).Perm (j'.scopes.map Scope.ns)
  keys : ∀ s ∈ j.scopes, ∀ s' ∈ j'.scopes, s.ns = s'.ns → Agree j.family s.keys s'.keys

variable {ρ : Type} [Record ρ] {j j' : Job}
  {answer : ResourceType → Option String → Except Listing.Error (List ClusterObject)}

def Lists (answer : ResourceType → Option String → Except Listing.Error (List ClusterObject))
    (j : Job) (ns : Option String) (k : String) : Prop :=
  ns ∈ j.scopes.map Scope.ns ∧
    ∃ objects, answer j.type ns = .ok objects ∧ ∃ o ∈ objects, objectKey o.ns o.name = k

/-- The records of one scope, none if it cannot be listed. -/
def given (answer : ResourceType → Option String → Except Listing.Error (List ClusterObject))
    (convert : ClusterObject → ResourceType → ListingKeys → ρ) (type : ResourceType)
    (scope : Scope) : List ρ :=
  match answer type scope.ns with
  | .ok objects => objects.map (convert · type scope.keys)
  | .error _ => []

omit [Record ρ] in
lemma listed_eq (convert : ClusterObject → ResourceType → ListingKeys → ρ) (j : Job) :
    j.listed answer convert = j.scopes.flatMap (given answer convert j.type) := rfl

variable {convert : ClusterObject → ResourceType → ListingKeys → ρ} {family : Inventory.Family}

lemma lists_of_mem_given (converts : Converts family convert) {scope : Scope}
    (hscope : scope ∈ j.scopes) {r : ρ} (hr : r ∈ given answer convert j.type scope) :
    j.Lists answer scope.ns (Record.key r) := by
  refine ⟨List.mem_map_of_mem hscope, ?_⟩
  rw [given] at hr
  split at hr
  · rename_i objects ok
    obtain ⟨o, ho, rfl⟩ := List.mem_map.mp hr
    exact ⟨objects, ok, o, ho, (converts.key o j.type scope.keys).symm⟩
  · cases hr

lemma exists_lists_of_mem_listed (converts : Converts family convert) {r : ρ}
    (hr : r ∈ j.listed answer convert) : ∃ ns, j.Lists answer ns (Record.key r) := by
  obtain ⟨scope, hscope, given⟩ := List.mem_flatMap.mp hr
  exact ⟨scope.ns, lists_of_mem_given converts hscope given⟩

namespace Alike

lemma symm (h : j.Alike j') : j'.Alike j where
  family := h.family.symm
  type := h.type.symm
  places := h.places.symm
  keys s' hs' s hs ns := by
    have agree := h.keys s hs s' hs' ns.symm
    rw [← h.family]
    cases hf : j.family with
    | claims =>
      rw [hf] at agree
      exact agree.symm
    | composites =>
      rw [hf] at agree
      exact ⟨agree.1.symm, agree.2.symm⟩

lemma lists_iff (h : j.Alike j') {ns : Option String} {k : String} :
    j.Lists answer ns k ↔ j'.Lists answer ns k := by
  rw [Lists, Lists, h.places.mem_iff, h.type]

lemma failures_perm (h : j.Alike j') : (j.failures answer).Perm (j'.failures answer) := by
  have placed : ∀ i : Job, i.failures answer = (i.scopes.map Scope.ns).filterMap fun ns =>
      match answer i.type ns with
      | .ok _ => none
      | .error e => some ⟨i.type.display, ns, e.message⟩ := by
    intro i
    rw [List.filterMap_map]
    rfl
  rw [placed, placed, h.type]
  exact h.places.filterMap _

lemma exists_scope (h : j.Alike j') {s : Scope} (hs : s ∈ j.scopes) :
    ∃ s' ∈ j'.scopes, s.ns = s'.ns := by
  obtain ⟨s', hs', ns⟩ := List.mem_map.mp (h.places.mem_iff.mp (List.mem_map_of_mem hs))
  exact ⟨s', hs', ns.symm⟩

lemma succeeds (h : j.Alike j') (succeeds : j.Succeeds answer) : j'.Succeeds answer := by
  obtain ⟨s, hs, objects, ok⟩ := succeeds
  obtain ⟨s', hs', ns⟩ := h.exists_scope hs
  rw [h.type, ns] at ok
  exact ⟨s', hs', objects, ok⟩

/-- What a scope gives depends on its place only. -/
lemma given_eq (h : j.Alike j') (converts : Converts j.family convert) {s s' : Scope}
    (hs : s ∈ j.scopes) (hs' : s' ∈ j'.scopes) (ns : s.ns = s'.ns) :
    given answer convert j.type s = given answer convert j'.type s' := by
  rw [given, given, ns, h.type]
  cases answer j'.type s'.ns with
  | error e => rfl
  | ok objects =>
    exact List.map_congr_left fun o _ => converts.agree o _ _ _ (h.keys s hs s' hs' ns)

section Once

variable (h : j.Alike j') (converts : Converts j.family convert) {k : String}
  (once : ∀ ns ns', j.Lists answer ns k → j.Lists answer ns' k → ns = ns')
include h converts once

/-- All scopes that give the key give it alike: they are of one place, and so they give what a scope
of the other job does. -/
lemma given_once {s u : Scope} (hs : s ∈ j.scopes) (hu : u ∈ j.scopes) {r q : ρ}
    (last : Table.lastOf k (given answer convert j.type s) = some r)
    (last' : Table.lastOf k (given answer convert j.type u) = some q) : r = q := by
  have place : u.ns = s.ns := by
    obtain ⟨hr, rfl⟩ := Table.mem_of_lastOf last
    obtain ⟨hq, key⟩ := Table.mem_of_lastOf last'
    exact once _ _ (key ▸ lists_of_mem_given converts hu hq) (lists_of_mem_given converts hs hr)
  obtain ⟨s', hs', ns⟩ := h.exists_scope hs
  rw [h.given_eq converts hs hs' ns] at last
  rw [h.given_eq converts hu hs' (place.trans ns), last] at last'
  exact Option.some.inj last'

lemma lastOf_listed_of_some {r : ρ} (last : Table.lastOf k (j'.listed answer convert) = some r) :
    Table.lastOf k (j.listed answer convert) = some r := by
  rw [listed_eq] at last
  obtain ⟨s', hs', last⟩ := Table.exists_of_lastOf_flatMap last
  obtain ⟨s, hs, ns⟩ := h.symm.exists_scope hs'
  rw [← h.given_eq converts hs hs' ns.symm] at last
  rw [listed_eq, Table.lastOf_flatMap_eq_some_iff fun s hs u hu r q =>
    h.given_once converts once hs hu]
  exact ⟨s, hs, last⟩

/-- Alike jobs leave the same under a key that is not listed in two places. -/
lemma lastOf_listed :
    Table.lastOf k (j'.listed answer convert) = Table.lastOf k (j.listed answer convert) := by
  have converts' : Converts j'.family convert := h.family ▸ converts
  have once' : ∀ ns ns', j'.Lists answer ns k → j'.Lists answer ns' k → ns = ns' :=
    fun ns ns' here there => once ns ns' (h.lists_iff.mpr here) (h.lists_iff.mpr there)
  refine Option.ext fun r => ⟨?_, ?_⟩
  · exact h.lastOf_listed_of_some converts once
  · exact h.symm.lastOf_listed_of_some converts' once'

end Once

end Alike

end Job

end Cycle

end ClaimTracker
