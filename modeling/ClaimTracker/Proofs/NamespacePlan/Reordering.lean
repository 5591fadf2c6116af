import Mathlib.Data.List.Nodup
import Mathlib.Data.List.Pairwise
import ClaimTracker.Proofs.NamespacePlan.Declarations

/-!
# Plans of reordered configurations

The order of the configurations decides in which order types and namespaces are planned, and from
which configuration the keys are taken where several declare the same. It does not decide what is
planned; and where no two configurations of a namespace declare the same claim type, the keys for
claims are the same as well.
-/

namespace ClaimTracker

/-- The configurations are not of one namespace, or declare no claim type both. -/
def NamespaceConfig.ApartFrom (c d : NamespaceConfig) : Prop :=
  c.ns = d.ns → ∀ t ∈ c.claimTypes, t ∉ d.claimTypes

instance : DecidableRel NamespaceConfig.ApartFrom :=
  fun c d => inferInstanceAs (Decidable (c.ns = d.ns → ∀ t ∈ c.claimTypes, t ∉ d.claimTypes))

instance : Std.Symm NamespaceConfig.ApartFrom where
  symm _ _ apart ns t ht ht' := apart ns.symm t ht' ht

/-- Declared types are equal if they are displayed alike, and of the configurations of a namespace
only one declares a claim type. -/
structure Unambiguous (configs : List NamespaceConfig) : Prop where
  types : ∀ c ∈ configs, ∀ d ∈ configs, ∀ t ∈ c.claimTypes ++ c.compositeTypes,
    ∀ u ∈ d.claimTypes ++ d.compositeTypes, t.display = u.display → t = u
  claims : configs.Pairwise NamespaceConfig.ApartFrom

/-- A namespace has only one configuration that declares a claim type. -/
lemma Unambiguous.eq_of_declares {configs : List NamespaceConfig} (h : Unambiguous configs)
    {c d : NamespaceConfig} (hc : c ∈ configs) (hd : d ∈ configs) (ns : c.ns = d.ns)
    {t : ResourceType} (ht : t ∈ c.claimTypes) (ht' : t ∈ d.claimTypes) : c = d := by
  by_contra other
  exact h.claims.forall hc hd other ns t ht ht'

namespace NamespacePlan

variable {configs configs' : List NamespaceConfig} {keys : RecordKeys}
  {centralClaims centralComposites : List String}

/-- A claim type is planned for the namespaces with a configuration that declares it. -/
lemma mem_namespaces_iff {p : PlannedClaims}
    (h : p ∈ (build configs keys centralClaims centralComposites).claims) {ns : String} :
    ns ∈ p.scopes.map Prod.fst ↔
      ∃ c ∈ configs, c.ns = ns ∧ ∃ t ∈ c.claimTypes, t.display = p.type.display := by
  constructor
  · intro hns
    obtain ⟨scope, hs, rfl⟩ := List.mem_map.mp hns
    obtain ⟨c, hc, own, -, t, ht, display⟩ := mem_scopes h hs
    exact ⟨c, hc, own, t, ht, display⟩
  · rintro ⟨c, hc, rfl, t, ht, display⟩
    obtain ⟨uncentral, -⟩ := mem_claims h
    obtain ⟨d, -, rfl⟩ := List.mem_map.mp h
    have declared : (⟨t, c.ns, c.listingKeys keys⟩ : Declaration) ∈
        unlessCentral centralClaims (declaredClaims configs keys) :=
      mem_unlessCentral.mpr ⟨mem_declaredClaims.mpr ⟨c, hc, t, ht, rfl⟩, display ▸ uncentral⟩
    have own : (⟨t, c.ns, c.listingKeys keys⟩ : Declaration) ∈
        (unlessCentral centralClaims (declaredClaims configs keys)).filter
          fun e => e.type.display == d.type.display :=
      List.mem_filter.mpr ⟨declared, beq_iff_eq.mpr display⟩
    obtain ⟨e, he, heq⟩ : ∃ e ∈ firstOfEach Declaration.ns _, e.ns = c.ns := exists_firstOfEach own
    exact List.mem_map.mpr ⟨(e.ns, e.keys), List.mem_map_of_mem he, heq⟩

lemma nodup_namespaces {p : PlannedClaims}
    (h : p ∈ (build configs keys centralClaims centralComposites).claims) :
    (p.scopes.map Prod.fst).Nodup := by
  obtain ⟨d, -, rfl⟩ := List.mem_map.mp h
  rw [scopesOf, List.map_map]
  exact nodup_firstOfEach _ _

section Perm

variable (perm : configs.Perm configs')
include perm

lemma perm_displays_composites :
    ((build configs keys centralClaims centralComposites).composites.map (·.1.display)).Perm
      ((build configs' keys centralClaims centralComposites).composites.map (·.1.display)) := by
  refine (List.perm_ext_iff_of_nodup nodup_composites nodup_composites).mpr fun p => ?_
  simp only [mem_displays_composites, perm.mem_iff]

lemma perm_displays_claims :
    ((build configs keys centralClaims centralComposites).claims.map (·.type.display)).Perm
      ((build configs' keys centralClaims centralComposites).claims.map (·.type.display)) := by
  refine (List.perm_ext_iff_of_nodup nodup_claims nodup_claims).mpr fun p => ?_
  simp only [mem_displays_claims, perm.mem_iff]

lemma perm_skipped :
    (build configs keys centralClaims centralComposites).skipped.Perm
      (build configs' keys centralClaims centralComposites).skipped :=
  perm.flatMap_right _

/-- The keys for a composite type may be those of another configuration, with the same label for the
composition and the same origin. -/
lemma composites_agree (unambiguous : Unambiguous configs) {p q : ResourceType × ListingKeys}
    (hp : p ∈ (build configs keys centralClaims centralComposites).composites)
    (hq : q ∈ (build configs' keys centralClaims centralComposites).composites)
    (display : p.1.display = q.1.display) :
    p.1 = q.1 ∧ p.2.composition = q.2.composition ∧ p.2.origin = q.2.origin := by
  obtain ⟨-, c, hc, declared, own⟩ := mem_composites hp
  obtain ⟨-, d, hd, declared', own'⟩ := mem_composites hq
  have type : p.1 = q.1 := unambiguous.types c hc d (perm.mem_iff.mpr hd) _
    (List.mem_append_right _ declared) _ (List.mem_append_right _ declared') display
  rw [own, own']
  exact ⟨type, rfl, rfl⟩

/-- A claim type is planned for the same namespaces, with the same keys. -/
lemma claims_agree (unambiguous : Unambiguous configs) {p q : PlannedClaims}
    (hp : p ∈ (build configs keys centralClaims centralComposites).claims)
    (hq : q ∈ (build configs' keys centralClaims centralComposites).claims)
    (display : p.type.display = q.type.display) :
    p.type = q.type ∧ (p.scopes.map Prod.fst).Perm (q.scopes.map Prod.fst) ∧
      ∀ s ∈ p.scopes, ∀ u ∈ q.scopes, s.1 = u.1 → s.2 = u.2 := by
  refine ⟨?_, ?_, fun s hs u hu ns => ?_⟩
  · obtain ⟨-, c, hc, declared⟩ := mem_claims hp
    obtain ⟨-, d, hd, declared'⟩ := mem_claims hq
    exact unambiguous.types c hc d (perm.mem_iff.mpr hd) _ (List.mem_append_left _ declared) _
      (List.mem_append_left _ declared') display
  · refine (List.perm_ext_iff_of_nodup (nodup_namespaces hp) (nodup_namespaces hq)).mpr fun ns => ?_
    simp only [mem_namespaces_iff hp, mem_namespaces_iff hq, display, perm.mem_iff]
  · obtain ⟨c, hc, ownNs, own, t, ht, shown⟩ := mem_scopes hp hs
    obtain ⟨d, hd, ownNs', own', t', ht', shown'⟩ := mem_scopes hq hu
    have member : d ∈ configs := perm.mem_iff.mpr hd
    obtain rfl : t = t' := unambiguous.types c hc d member t (List.mem_append_left _ ht) t'
      (List.mem_append_left _ ht') (shown.trans (display.trans shown'.symm))
    obtain rfl : c = d :=
      unambiguous.eq_of_declares hc member (ownNs.trans (ns.trans ownNs'.symm)) ht ht'
    exact own.symm.trans own'

end Perm

end NamespacePlan

end ClaimTracker
