import Mathlib.Data.Prod.Basic
import ClaimTracker.Proofs.Cycle.Alike
import ClaimTracker.Proofs.Cycle.Distinct
import ClaimTracker.Proofs.NamespacePlan.Reordering

/-!
# Reordered jobs

The same configurations in another order lead to jobs that are alike, in another order. If no identity
key is listed for two types or in two namespaces, such jobs replace partitions to the same effect. In
namespaces without a slash, which is what parts a key, no key is listed twice for one type.
-/

namespace ClaimTracker

namespace Cycle

/-- Elements in another order, each with the same results in another order, have the same results in
another order. -/
lemma perm_flatMap_of_perm_map {α β γ : Type} {key : α → γ} {f : α → List β} {l l' : List α}
    (perm : (l.map key).Perm (l'.map key))
    (same : ∀ a ∈ l, ∀ b ∈ l', key a = key b → (f a).Perm (f b)) :
    (l.flatMap f).Perm (l'.flatMap f) := by
  induction l generalizing l' with
  | nil =>
    obtain rfl : l' = [] := List.map_eq_nil_iff.mp perm.symm.eq_nil
    exact .refl _
  | cons a l ih =>
    have member : key a ∈ l'.map key := perm.mem_iff.mp List.mem_cons_self
    obtain ⟨b, hb, heq⟩ := List.mem_map.mp member
    obtain ⟨before, after, rfl⟩ := List.append_of_mem hb
    have moved : (before ++ b :: after).Perm (b :: (before ++ after)) := List.perm_middle
    have rest : (l.map key).Perm ((before ++ after).map key) := by
      have := perm.trans (moved.map key)
      rw [List.map_cons, List.map_cons, heq] at this
      exact this.cons_inv
    have others := ih rest fun c hc d hd =>
      same c (List.mem_cons_of_mem a hc) d (moved.mem_iff.mpr (List.mem_cons_of_mem b hd))
    have here := (same a List.mem_cons_self b hb heq.symm).append others
    rw [List.flatMap_cons]
    exact here.trans (moved.flatMap_right f).symm

def Job.slot (j : Job) : Inventory.Family × String := (j.family, j.type.display)

/-- Jobs for the same partitions, each alike, in another order. -/
structure Reordered (jobs jobs' : List Job) : Prop where
  perm : (jobs.map Job.slot).Perm (jobs'.map Job.slot)
  nodup : (jobs.map Job.slot).Nodup
  alike : ∀ j ∈ jobs, ∀ j' ∈ jobs', j.slot = j'.slot → j.Alike j'

section Apart

variable (answer : ResourceType → Option String → Except Listing.Error (List ClusterObject))
  (jobs : List Job)

/-- No identity key is listed for two types of one table. -/
def TypesApart : Prop :=
  ∀ i ∈ jobs, ∀ j ∈ jobs, i.family = j.family → ∀ ns ns' k, i.Lists answer ns k →
    j.Lists answer ns' k → i.type = j.type

/-- No identity key is listed for one type in two namespaces. -/
def PlacesApart : Prop :=
  ∀ j ∈ jobs, ∀ ns ns' k, j.Lists answer ns k → j.Lists answer ns' k → ns = ns'

end Apart

namespace Reordered

variable {jobs jobs' : List Job}
  {answer : ResourceType → Option String → Except Listing.Error (List ClusterObject)}

lemma symm (h : Reordered jobs jobs') : Reordered jobs' jobs where
  perm := h.perm.symm
  nodup := h.perm.nodup_iff.mp h.nodup
  alike j' hj' j hj slot := (h.alike j hj j' hj' slot.symm).symm

lemma exists_alike (h : Reordered jobs jobs') {j : Job} (hj : j ∈ jobs) :
    ∃ j' ∈ jobs', j.Alike j' := by
  obtain ⟨j', hj', slot⟩ := List.mem_map.mp (h.perm.mem_iff.mp (List.mem_map_of_mem hj))
  exact ⟨j', hj', h.alike j hj j' hj' slot.symm⟩

lemma typesApart (h : Reordered jobs jobs') (apart : TypesApart answer jobs) :
    TypesApart answer jobs' := by
  intro i' hi' j' hj' family ns ns' k lists lists'
  obtain ⟨i, hi, alike⟩ := h.symm.exists_alike hi'
  obtain ⟨j, hj, alike'⟩ := h.symm.exists_alike hj'
  rw [alike.type, alike'.type]
  refine apart i hi j hj ?_ ns ns' k (alike.lists_iff.mp lists) (alike'.lists_iff.mp lists')
  rw [← alike.family, ← alike'.family, family]

lemma placesApart (h : Reordered jobs jobs') (apart : PlacesApart answer jobs) :
    PlacesApart answer jobs' := by
  intro j' hj' ns ns' k lists lists'
  obtain ⟨j, hj, alike⟩ := h.symm.exists_alike hj'
  exact apart j hj ns ns' k (alike.lists_iff.mp lists) (alike.lists_iff.mp lists')

lemma failures_perm (h : Reordered jobs jobs') :
    (jobs.flatMap (Job.failures answer)).Perm (jobs'.flatMap (Job.failures answer)) :=
  perm_flatMap_of_perm_map h.perm fun j hj j' hj' slot => (h.alike j hj j' hj' slot).failures_perm

section Calls

variable {σ ρ : Type} [Listing.Source σ] [Record ρ] {s : σ} {family : Inventory.Family}
  {convert : ClusterObject → ResourceType → ListingKeys → ρ}

/-- The calls of jobs are separate if they are for different partitions and list no key for two
types. -/
lemma separate (nodup : (jobs.map Job.slot).Nodup) (steady : Listing.Steady s answer)
    (converts : Converts family convert) (apart : TypesApart answer jobs) :
    Table.Separate ((visits jobs s).filterMap (Visit.call? family convert)) := by
  constructor
  · intro c hc d hd partition
    obtain ⟨i, hi, rfl, -, rfl⟩ := (mem_calls_iff steady).mp hc
    obtain ⟨j, hj, same, -, rfl⟩ := (mem_calls_iff steady).mp hd
    obtain rfl : i = j :=
      List.inj_on_of_nodup_map nodup hi hj (Prod.ext same.symm partition)
    rfl
  · intro c hc d hd r hr q hq key
    obtain ⟨i, hi, rfl, -, rfl⟩ := (mem_calls_iff steady).mp hc
    obtain ⟨j, hj, same, -, rfl⟩ := (mem_calls_iff steady).mp hd
    obtain ⟨ns, lists⟩ := Job.exists_lists_of_mem_listed converts hr
    obtain ⟨ns', lists'⟩ := Job.exists_lists_of_mem_listed converts hq
    rw [← key] at lists'
    exact congrArg ResourceType.display (apart i hi j hj same.symm ns ns' _ lists lists')

lemma matched (h : Reordered jobs jobs') (steady : Listing.Steady s answer)
    (converts : Converts family convert) (apart : PlacesApart answer jobs) :
    Table.Matched ((visits jobs s).filterMap (Visit.call? family convert))
      ((visits jobs' s).filterMap (Visit.call? family convert)) := by
  intro c hc
  obtain ⟨j, hj, rfl, succeeds, rfl⟩ := (mem_calls_iff steady).mp hc
  obtain ⟨j', hj', alike⟩ := h.exists_alike hj
  refine ⟨_, (mem_calls_iff steady).mpr
    ⟨j', hj', alike.family.symm, alike.succeeds succeeds, rfl⟩, ?_, fun k => ?_⟩
  · rw [alike.type]
  · exact alike.lastOf_listed converts fun ns ns' => apart j hj ns ns' k

variable [LawfulRecord ρ]

/-- Reordered jobs lead to the same table, from any table. -/
lemma replaceAll_eq (h : Reordered jobs jobs') (steady : Listing.Steady s answer)
    (converts : Converts family convert) (types : TypesApart answer jobs)
    (places : PlacesApart answer jobs) (t : Table ρ) :
    t.replaceAll ((visits jobs s).filterMap (Visit.call? family convert)) =
      t.replaceAll ((visits jobs' s).filterMap (Visit.call? family convert)) :=
  Table.replaceAll_eq_of_matched (separate h.nodup steady converts types)
    (separate h.symm.nodup steady converts (h.typesApart types))
    (h.matched steady converts places) (h.symm.matched steady converts (h.placesApart places))

end Calls

end Reordered

section Configurations

variable {settings : Settings} {configs configs' : List NamespaceConfig}

lemma slots_plannedJobs (plan : NamespacePlan) :
    (plannedJobs plan).map Job.slot =
      (plan.composites.map (·.1.display)).map (Prod.mk .composites) ++
        (plan.claims.map (·.type.display)).map (Prod.mk .claims) := by
  simp [plannedJobs, Job.slot, Function.comp_def]

lemma nodup_slots (settings : Settings) (configs : List NamespaceConfig) :
    ((plannedJobs (plan settings configs)).map Job.slot).Nodup := by
  rw [slots_plannedJobs]
  refine List.nodup_append.mpr ⟨?_, ?_, ?_⟩
  · exact NamespacePlan.nodup_composites.map (Prod.mk_right_injective _)
  · exact NamespacePlan.nodup_claims.map (Prod.mk_right_injective _)
  · intro a ha b hb heq
    obtain ⟨p, -, rfl⟩ := List.mem_map.mp ha
    obtain ⟨q, -, rfl⟩ := List.mem_map.mp hb
    cases heq

/-- What is planned for reordered configurations is reordered. -/
lemma reordered_namespaceJobs (perm : configs.Perm configs') (unambiguous : Unambiguous configs) :
    Reordered (namespaceJobs settings (some configs)) (namespaceJobs settings (some configs')) := by
  refine ⟨?_, nodup_slots settings configs, ?_⟩
  · show ((plannedJobs _).map Job.slot).Perm ((plannedJobs _).map Job.slot)
    rw [slots_plannedJobs, slots_plannedJobs]
    exact ((NamespacePlan.perm_displays_composites perm).map _).append
      ((NamespacePlan.perm_displays_claims perm).map _)
  · intro j hj j' hj' slot
    rcases List.mem_append.mp hj with composite | claim <;>
      rcases List.mem_append.mp hj' with composite' | claim'
    · obtain ⟨p, hp, rfl⟩ := List.mem_map.mp composite
      obtain ⟨q, hq, rfl⟩ := List.mem_map.mp composite'
      obtain ⟨type, composition, origin⟩ :=
        NamespacePlan.composites_agree perm unambiguous hp hq (congrArg Prod.snd slot)
      refine ⟨rfl, type, .refl _, fun s hs s' hs' _ => ?_⟩
      obtain rfl := List.mem_singleton.mp hs
      obtain rfl := List.mem_singleton.mp hs'
      exact ⟨composition, origin⟩
    · obtain ⟨p, -, rfl⟩ := List.mem_map.mp composite
      obtain ⟨q, -, rfl⟩ := List.mem_map.mp claim'
      cases congrArg Prod.fst slot
    · obtain ⟨p, -, rfl⟩ := List.mem_map.mp claim
      obtain ⟨q, -, rfl⟩ := List.mem_map.mp composite'
      cases congrArg Prod.fst slot
    · obtain ⟨p, hp, rfl⟩ := List.mem_map.mp claim
      obtain ⟨q, hq, rfl⟩ := List.mem_map.mp claim'
      obtain ⟨type, places, keys⟩ :=
        NamespacePlan.claims_agree perm unambiguous hp hq (congrArg Prod.snd slot)
      refine ⟨rfl, type, ?_, fun s hs s' hs' ns => ?_⟩
      · have placed : ∀ p : PlannedClaims,
            (plannedScopes p).map Scope.ns = (p.scopes.map Prod.fst).map some := by
          intro p
          rw [plannedScopes, List.map_map, List.map_map]
          rfl
        rw [placed, placed]
        exact places.map some
      · obtain ⟨u, hu, rfl⟩ := List.mem_map.mp hs
        obtain ⟨u', hu', rfl⟩ := List.mem_map.mp hs'
        exact keys u hu u' hu' (Option.some.inj ns)

/-- What is retired does not depend on the order of the configurations. -/
lemma retiredNow_of_perm (perm : configs.Perm configs') (before : DeclaredPartitions)
    (family : Inventory.Family) :
    retiredNow settings (some configs) before family =
      retiredNow settings (some configs') before family := by
  have now : ∀ p, p ∈ declaredOf (declaredNow settings (some configs)) family ↔
      p ∈ declaredOf (declaredNow settings (some configs')) family := by
    intro p
    rw [mem_declaredNow_iff, mem_declaredNow_iff]
    simp only [Option.getD_some, perm.mem_iff]
  refine List.filter_congr fun p _ => ?_
  rw [Bool.eq_iff_iff]
  simp [now]

end Configurations

section Plain

/-- A namespace as clusters have them: not empty and without a slash. -/
def IsPlain (ns : String) : Prop :=
  ns ≠ "" ∧ '/' ∉ ns.toList

instance : DecidablePred IsPlain :=
  fun ns => inferInstanceAs (Decidable (ns ≠ "" ∧ '/' ∉ ns.toList))

/-- Identity keys of objects in plain namespaces tell the namespace. -/
lemma IsPlain.eq_of_objectKey {ns ns' name name' : String} (h : IsPlain ns) (h' : IsPlain ns')
    (same : objectKey ns name = objectKey ns' name') : ns = ns' := by
  have written : ∀ {ns name : String}, IsPlain ns →
      (objectKey ns name).toList.takeWhile (· != '/') = ns.toList := by
    intro ns name plain
    have letters : ∀ c ∈ ns.toList, (c != '/') = true :=
      fun c hc => bne_iff_ne.mpr fun heq => plain.2 (heq ▸ hc)
    rw [objectKey, if_neg (by simpa using plain.1), String.append_assoc, String.toList_append,
      String.toList_append, List.takeWhile_append_of_pos letters]
    simp
  rw [← String.toList_inj, ← written h, ← written h', same]

/-- In plain namespaces that the source heeds, no identity key is listed twice for one type. -/
lemma placesApart_of_plain {σ : Type} [Listing.Source σ] {s : σ} {settings : Settings}
    {configs : List NamespaceConfig}
    {answer : ResourceType → Option String → Except Listing.Error (List ClusterObject)}
    (steady : Listing.Steady s answer) (heeds : Listing.Heeds s)
    (plain : ∀ c ∈ configs, IsPlain c.ns) :
    PlacesApart answer (namespaceJobs settings (some configs)) := by
  intro j hj ns ns' k lists lists'
  rcases List.mem_append.mp hj with composite | claim
  · obtain ⟨p, -, rfl⟩ := List.mem_map.mp composite
    exact (List.mem_singleton.mp lists.1).trans (List.mem_singleton.mp lists'.1).symm
  · obtain ⟨p, hp, rfl⟩ := List.mem_map.mp claim
    have named : ∀ {ns}, Job.Lists answer ⟨.claims, p.type, plannedScopes p⟩ ns k →
        ∃ n name, ns = some n ∧ IsPlain n ∧ objectKey n name = k := by
      rintro ns ⟨place, objects, ok, o, ho, rfl⟩
      obtain ⟨scope, hscope, rfl⟩ := List.mem_map.mp place
      obtain ⟨u, hu, rfl⟩ := List.mem_map.mp hscope
      obtain ⟨c, hc, own, -⟩ := NamespacePlan.mem_scopes hp hu
      have listed : o.metadata.ns = some u.1 := by
        rw [← steady.result_eq s .refl] at ok
        exact heeds.all ok ho
      refine ⟨u.1, o.name, rfl, own ▸ plain c hc, ?_⟩
      rw [ClusterObject.ns, listed, Option.getD_some]
    obtain ⟨n, name, rfl, hn, key⟩ := named lists
    obtain ⟨n', name', rfl, hn', key'⟩ := named lists'
    exact congrArg some (hn.eq_of_objectKey hn' (key.trans key'.symm))

end Plain

end Cycle

end ClaimTracker
