import ClaimTracker.Proofs.Instant.Parser
import ClaimTracker.Proofs.Json.Form
import ClaimTracker.Record.Form

/-!
# Reading back written records

A claim or composite is written with every field whose absence would not say the same, and each
member can be read as the value of its field. So the record is read as it was written, whatever its
texts are.
-/

namespace ClaimTracker

open ClaimTracker.Json (Form)
open ClaimTracker.Json.Reader

lemma Origin.reads_reader (o : Origin) : Reads Origin.reader (Json.text o.name).tokens o :=
  reads_choice (Origin.ofName?_name o)

lemma Json.reads_ofInstant? (t : Option Instant) :
    Reads (optional instant) (Json.ofInstant? t).tokens t := by
  cases t with
  | none => exact reads_optional_null _
  | some t => exact reads_optional_text (reads_instant t.ofText?_text)

lemma Json.isDelimited_ofInstant? (t : Option Instant) : (Json.ofInstant? t).IsDelimited := by
  cases t with
  | none => exact isDelimited_null
  | some t => exact isDelimited_text t.text

namespace Claim

def fields (c : Claim) : (k : ClaimField) → k.Value
  | .gvr => c.partition
  | .group => c.group
  | .kind => c.kind
  | .ns => c.ns
  | .name => c.name
  | .creator => c.creator
  | .team => c.team
  | .composition => c.composition
  | .source => c.origin
  | .ready => c.ready
  | .reason => c.reason
  | .createdAt => c.createdAt
  | .xrRef => c.compositeName

def written (c : Claim) : List (ClaimField × Json) :=
  [(.gvr, .text c.partition), (.group, .text c.group), (.kind, .text c.kind), (.ns, .text c.ns),
      (.name, .text c.name)] ++
    (c.creator.map fun s => (.creator, .text s)).toList ++
    (c.team.map fun s => (.team, .text s)).toList ++
    [(.composition, .text c.composition), (.source, .text c.origin.name), (.ready, .bool c.ready),
      (.reason, .text c.reason), (.createdAt, Json.ofInstant? c.createdAt),
      (.xrRef, .text c.compositeName)]

lemma toJson_eq (c : Claim) : c.toJson = .object (ClaimField.form.membersOf c.written) := by
  obtain ⟨_, _, _, _, _, creator, team, _, _, _, _, _, _⟩ := c
  cases creator <;> cases team <;> rfl

/-- A member that is written only if it is set is read as what it was set to. -/
lemma reads_whenSet {k : ClaimField} {s : Option String} {w : ClaimField × Json}
    (h : w ∈ (s.map fun s => (k, Json.text s)).toList) :
    w.1 = k ∧ Reads (optional text) w.2.tokens s := by
  cases s with
  | none => cases h
  | some s =>
    obtain rfl := List.mem_singleton.mp h
    exact ⟨rfl, reads_optional_text (reads_text s)⟩

lemma reads_written (c : Claim) :
    ∀ w ∈ c.written, Reads (ClaimField.form.read w.1) w.2.tokens (c.fields w.1) := by
  simp only [written, List.forall_mem_append, List.forall_mem_cons]
  refine ⟨⟨⟨⟨reads_text _, reads_text _, reads_text _, reads_text _, reads_text _, by simp⟩,
    ?_⟩, ?_⟩, reads_text _, c.origin.reads_reader, reads_bool _, reads_text _,
    Json.reads_ofInstant? c.createdAt, reads_text _, by simp⟩
  · rintro ⟨k, j⟩ hw
    obtain ⟨rfl, read⟩ := reads_whenSet hw
    exact read
  · rintro ⟨k, j⟩ hw
    obtain ⟨rfl, read⟩ := reads_whenSet hw
    exact read

lemma writes (c : Claim) : ClaimField.form.Writes c.written c.fields where
  nodup := by
    obtain ⟨_, _, _, _, _, creator, team, _, _, _, _, _, _⟩ := c
    cases creator <;> cases team <;> simp [written]
  named w _ := by cases w.1 <;> rfl
  reads := c.reads_written
  missing k hk := by
    obtain ⟨_, _, _, _, _, creator, team, _, _, _, _, _, _⟩ := c
    cases creator <;> cases team <;> cases k <;> simp [written] at hk <;> rfl

/-- A written claim is read. -/
lemma reads_reader (c : Claim) : Reads reader c.toJson.tokens c := by
  rw [toJson_eq]
  exact (Form.reads_record c.writes).map ofFields

lemma isDelimited_whenSet {k : ClaimField} {s : Option String} {w : ClaimField × Json}
    (h : w ∈ (s.map fun s => (k, Json.text s)).toList) : w.2.IsDelimited := by
  obtain ⟨s, -, rfl⟩ := Option.map_eq_some_iff.mp (Option.mem_toList.mp h)
  exact Json.isDelimited_text s

lemma isDelimited_written (c : Claim) : ∀ w ∈ c.written, w.2.IsDelimited := by
  simp only [written, List.forall_mem_append, List.forall_mem_cons]
  exact ⟨⟨⟨⟨Json.isDelimited_text _, Json.isDelimited_text _, Json.isDelimited_text _,
    Json.isDelimited_text _, Json.isDelimited_text _, by simp⟩, fun w => isDelimited_whenSet⟩,
    fun w => isDelimited_whenSet⟩, Json.isDelimited_text _, Json.isDelimited_text _,
    Json.isDelimited_bool _, Json.isDelimited_text _, Json.isDelimited_ofInstant? _,
    Json.isDelimited_text _, by simp⟩

lemma isDelimited_toJson (c : Claim) : c.toJson.IsDelimited := by
  rw [toJson_eq]
  exact Form.isDelimited_object_membersOf c.isDelimited_written

end Claim

namespace Composite

def fields (x : Composite) : (k : CompositeField) → k.Value
  | .gvr => x.partition
  | .group => x.group
  | .kind => x.kind
  | .ns => x.ns
  | .name => x.name
  | .composition => x.composition
  | .source => x.origin
  | .ready => x.ready
  | .reason => x.reason
  | .createdAt => x.createdAt

/-- The fields, all of which are written, and what is written of them. -/
def written (x : Composite) : List (CompositeField × Json) :=
  [(.gvr, .text x.partition), (.group, .text x.group), (.kind, .text x.kind), (.ns, .text x.ns),
    (.name, .text x.name), (.composition, .text x.composition), (.source, .text x.origin.name),
    (.ready, .bool x.ready), (.reason, .text x.reason), (.createdAt, Json.ofInstant? x.createdAt)]

lemma toJson_eq (x : Composite) : x.toJson = .object (CompositeField.form.membersOf x.written) :=
  rfl

lemma writes (x : Composite) : CompositeField.form.Writes x.written x.fields where
  nodup := by simp [written]
  named w _ := by cases w.1 <;> rfl
  reads := by
    simp only [written, List.forall_mem_cons]
    exact ⟨reads_text _, reads_text _, reads_text _, reads_text _, reads_text _, reads_text _,
      x.origin.reads_reader, reads_bool _, reads_text _, Json.reads_ofInstant? x.createdAt, by simp⟩
  missing k hk := by cases k <;> simp [written] at hk

/-- A written composite is read. -/
lemma reads_reader (x : Composite) : Reads reader x.toJson.tokens x := by
  rw [toJson_eq]
  exact (Form.reads_record x.writes).map ofFields

lemma isDelimited_toJson (x : Composite) : x.toJson.IsDelimited := by
  have written : ∀ w ∈ x.written, w.2.IsDelimited := by
    simp only [written, List.forall_mem_cons]
    exact ⟨Json.isDelimited_text _, Json.isDelimited_text _, Json.isDelimited_text _,
      Json.isDelimited_text _, Json.isDelimited_text _, Json.isDelimited_text _,
      Json.isDelimited_text _, Json.isDelimited_bool _, Json.isDelimited_text _,
      Json.isDelimited_ofInstant? _, by simp⟩
  rw [toJson_eq]
  exact Form.isDelimited_object_membersOf written

end Composite

end ClaimTracker
