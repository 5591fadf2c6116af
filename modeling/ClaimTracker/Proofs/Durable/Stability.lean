import Mathlib.Data.List.Nodup
import ClaimTracker.Proofs.Durable.Restoring
import ClaimTracker.Proofs.Inventory.Contents
import ClaimTracker.Proofs.Inventory.Enrichment

/-!
# What a restore depends on

Where no two records of a document have the same key, it does not matter in which order the document
lists them. Whatever keys they have, a second restore finds everything as the first one has left it. What
the document says nothing of stays.
-/

namespace ClaimTracker

section Lists

variable {ρ : Type} [Record ρ]

/-- A list has the records of another in some order, and their keys are all different. -/
structure Reordered (l l' : List ρ) : Prop where
  perm : l.Perm l'
  distinct : (l.map Record.key).Nodup

lemma Reordered.symm {l l' : List ρ} (h : Reordered l l') : Reordered l' l :=
  ⟨h.perm.symm, (h.perm.map _).nodup_iff.mp h.distinct⟩

lemma Reordered.unique {l l' : List ρ} (h : Reordered l l') :
    ∀ r ∈ l, ∀ s ∈ l, Record.key r = Record.key s → r = s :=
  fun _ hr _ hs same => List.inj_on_of_nodup_map h.distinct hr hs same

lemma Reordered.lastOf_eq {l l' : List ρ} (h : Reordered l l') (k : String) :
    Table.lastOf k l = Table.lastOf k l' := by
  refine Option.ext fun r => ?_
  rw [Table.lastOf_eq_some_iff h.unique, Table.lastOf_eq_some_iff h.symm.unique, h.perm.mem_iff]

end Lists

namespace Durable

section Parts

variable {ρ : Type} [Record ρ] {l l' : List ρ}

lemma matched_byPartition (h : Reordered l l') :
    Table.Matched (byPartition l) (byPartition l') := by
  rintro ⟨p, items⟩ hc
  obtain ⟨⟨r, hr, hp⟩, rfl⟩ := mem_byPartition.mp hc
  refine ⟨_, mem_byPartition.mpr ⟨⟨r, h.perm.mem_iff.mp hr, hp⟩, rfl⟩, rfl, fun k => ?_⟩
  have part : Reordered (l.filter fun r => Record.partition r == p)
      (l'.filter fun r => Record.partition r == p) :=
    ⟨h.perm.filter _, h.distinct.sublist (List.filter_sublist.map _)⟩
  exact (part.lastOf_eq k).symm

variable [LawfulRecord ρ]

/-- A table does not depend on the order of records with different keys. -/
lemma replaceAll_byPartition_of_reordered (h : Reordered l l') (t : Table ρ) :
    t.replaceAll (byPartition l) = t.replaceAll (byPartition l') :=
  Table.replaceAll_eq_of_matched (separate_byPartition h.unique)
    (separate_byPartition h.symm.unique) (matched_byPartition h) (matched_byPartition h.symm)

/-- Under a key that is not listed stands what stood there before, unless its partition is listed. -/
lemma getElem?_replaceAll_byPartition_of_unlisted {t : Table ρ} {k : String} {r : ρ}
    (unlisted : ∀ s ∈ l, Record.key s ≠ k) :
    (t.replaceAll (byPartition l))[k]? = some r ↔
      t[k]? = some r ∧ ∀ s ∈ l, Record.partition s ≠ Record.partition r := by
  have none : ∀ c ∈ byPartition l, ∀ s ∈ c.2, Record.key s ≠ k := by
    rintro ⟨p, items⟩ hc s hs
    rw [(mem_byPartition.mp hc).2] at hs
    exact unlisted s (List.mem_filter.mp hs).1
  rw [Table.getElem?_replaceAll_of_unlisted none]
  refine and_congr_right fun _ => ⟨fun apart s hs => ?_, ?_⟩
  · exact apart _ (mem_byPartition.mpr ⟨⟨s, hs, rfl⟩, rfl⟩)
  · rintro apart ⟨p, items⟩ hc
    obtain ⟨⟨s, hs, rfl⟩, -⟩ := mem_byPartition.mp hc
    exact apart s hs

end Parts

section Replay

variable {i : Inventory} {s s' : Snapshot}

lemma replay_of_reordered (claims : Reordered s.claims s'.claims)
    (composites : Reordered s.composites s'.composites) : replay i s = replay i s' := by
  rw [replay_eq, replay_eq, replaceAll_byPartition_of_reordered claims,
    replaceAll_byPartition_of_reordered composites]

/-- A second replay changes nothing, whichever keys records of the snapshot share. -/
lemma replay_replay (i : Inventory) (s : Snapshot) : replay (replay i s) s = replay i s := by
  have bare := Inventory.bare_enrich ⟨i.claims.replaceAll (byPartition s.claims),
    i.composites.replaceAll (byPartition s.composites)⟩
  have again := Inventory.bare_replaceAll bare (byPartition s.claims)
  rw [Table.replaceAll_replaceAll] at again
  rw [replay_eq i, replay_eq, Inventory.enrich_composites, Table.replaceAll_replaceAll]
  exact Inventory.enrich_congr _ again

lemma getElem?_replay_composites {k : String} {x : Composite}
    (unlisted : ∀ y ∈ s.composites, Record.key y ≠ k) :
    (replay i s).composites[k]? = some x ↔
      i.composites[k]? = some x ∧ ∀ y ∈ s.composites, y.partition ≠ x.partition := by
  rw [replay_eq, Inventory.enrich_composites]
  exact getElem?_replaceAll_byPartition_of_unlisted unlisted

lemma getElem?_replay_claims {k : String} {c : Claim}
    (unlisted : ∀ b ∈ s.claims, Record.key b ≠ k) :
    (replay i s).claims[k]? = some c ↔
      ∃ b, i.claims[k]? = some b ∧ (∀ a ∈ s.claims, a.partition ≠ b.partition) ∧
        { b with composition :=
            Inventory.compositionOf (replay i s).composites b.compositeName } = c := by
  rw [replay_eq, Inventory.getElem?_enrich_claims, Option.map_eq_some_iff]
  refine exists_congr fun b => ?_
  rw [getElem?_replaceAll_byPartition_of_unlisted unlisted, and_assoc]
  rfl

end Replay

variable {κ : Type} [Keep κ]

/-- A restore does not depend on the order of records with different keys, nor on the keep that has handed
them out. A second restore of the same document changes nothing. Under a key that the document does not
list stays what stood there, unless the document lists its partition; but claims are enriched. -/
theorem restore_stable {d : Durable κ} {body : Octets} {s : Snapshot} (accepts : d.Accepts body s) :
    let restored := d.restore.2.inventory
    (∀ {κ' : Type} [Keep κ'] (other : Durable κ') (body' : Octets) (s' : Snapshot),
      other.Accepts body' s' → other.inventory = d.inventory → Reordered s.claims s'.claims →
      Reordered s.composites s'.composites → other.restore.2.inventory = restored) ∧
    (d.restore.2.Accepts body s →
      d.restore.2.restore.1 = .ok () ∧ d.restore.2.restore.2.inventory = restored) ∧
    (∀ (k : String) (x : Composite), (∀ y ∈ s.composites, Record.key y ≠ k) →
      (restored.composites[k]? = some x ↔
        d.inventory.composites[k]? = some x ∧ ∀ y ∈ s.composites, y.partition ≠ x.partition)) ∧
    ∀ (k : String) (c : Claim), (∀ b ∈ s.claims, Record.key b ≠ k) →
      (restored.claims[k]? = some c ↔
        ∃ b, d.inventory.claims[k]? = some b ∧ (∀ a ∈ s.claims, a.partition ≠ b.partition) ∧
          { b with composition :=
              Inventory.compositionOf restored.composites b.compositeName } = c) := by
  have replayed : ∀ {κ : Type} [Keep κ] {d : Durable κ} {body : Octets} {s : Snapshot},
      d.Accepts body s → d.restore.1 = .ok () ∧ d.restore.2.inventory = replay d.inventory s := by
    intro κ _ d body s h
    rw [restore_of_accepts h]
    exact ⟨rfl, rfl⟩
  have first : d.restore.2.inventory = replay d.inventory s := (replayed accepts).2
  intro restored
  rw [show restored = replay d.inventory s from first]
  refine ⟨?_, ?_, fun k x => getElem?_replay_composites, fun k c => getElem?_replay_claims⟩
  · intro κ' _ other body' s' h same claims composites
    rw [(replayed h).2, same, replay_of_reordered claims composites]
  · intro again
    obtain ⟨ok, second⟩ := replayed again
    rw [first, replay_replay] at second
    exact ⟨ok, second⟩

/-- An inventory in use, and the document of a snapshot in a slot. -/
def besideSlot (s : Snapshot) : Durable Slot :=
  ⟨(∅ : Inventory).run sampleOperations, { body := some (Snapshot.encode s) },
    (Snapshot.encode s).length, false⟩

lemma accepts_besideSlot (s : Snapshot) : (besideSlot s).Accepts (Snapshot.encode s) s :=
  ⟨rfl, Nat.le_refl _, s.decode_encode⟩

lemma accepts_besideSlot_again (s : Snapshot) :
    (besideSlot s).restore.2.Accepts (Snapshot.encode s) s := by
  rw [restore_of_accepts (accepts_besideSlot s)]
  exact ⟨rfl, Nat.le_refl _, s.decode_encode⟩

def otherClaim : Claim := { referringClaim with partition := "g/v1/gadgets", name := "w2" }

/-- Two claims are restored in two orders. Two claims of one key are restored twice, beside a composite
that the document does not mention. -/
theorem reordered_from_slots :
    let one : Snapshot := ⟨[referringClaim, otherClaim], [referredComposite], earlyMoment⟩
    let other : Snapshot := ⟨[otherClaim, referringClaim], [referredComposite], earlyMoment⟩
    let shared : Snapshot := ⟨[referringClaim, { otherClaim with name := "w1" }], [], earlyMoment⟩
    (besideSlot other).restore.2.inventory = (besideSlot one).restore.2.inventory ∧
      (besideSlot shared).restore.2.restore.2.inventory =
        (besideSlot shared).restore.2.inventory ∧
      (besideSlot shared).restore.2.inventory.composites["x1"]? =
        some { referredComposite with partition := "g/v1/xwidgets" } := by
  intro one other shared
  have claims : Reordered one.claims other.claims := ⟨.swap _ _ _, by decide⟩
  have composites : Reordered one.composites other.composites := ⟨.refl _, by decide⟩
  have stored : (besideSlot shared).inventory.composites["x1"]? =
      some { referredComposite with partition := "g/v1/xwidgets" } := by
    rw [besideSlot]
    rfl
  have reordered := (restore_stable (accepts_besideSlot one)).1 (besideSlot other) _
    other (accepts_besideSlot other) rfl claims composites
  obtain ⟨-, again, kept, -⟩ := restore_stable (accepts_besideSlot shared)
  exact ⟨reordered, (again (accepts_besideSlot_again shared)).2,
    (kept "x1" _ (by simp [shared])).mpr ⟨stored, by simp [shared]⟩⟩

end Durable

end ClaimTracker
