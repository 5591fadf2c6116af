import ClaimTracker.Proofs.Json.Lexer
import ClaimTracker.Proofs.Record.Form
import ClaimTracker.Snapshot

/-!
# Reading back written snapshots

A snapshot is written with all its fields, and none of them holds a number. So its document is read
as the tokens that it was written from, and these as the snapshot.
-/

namespace ClaimTracker.Snapshot

open ClaimTracker.Json (Form)
open ClaimTracker.Json.Reader

def fields (s : Snapshot) : (k : SnapshotField) → k.Value
  | .claims => s.claims
  | .composites => s.composites
  | .persistedAt => s.persistedAt

/-- The fields, all of which are written, and what is written of them. -/
def written (s : Snapshot) : List (SnapshotField × Json) :=
  [(.claims, .array (s.claims.map Claim.toJson)),
    (.composites, .array (s.composites.map Composite.toJson)),
    (.persistedAt, .text s.persistedAt.text)]

lemma toJson_eq (s : Snapshot) : s.toJson = .object (SnapshotField.form.membersOf s.written) :=
  rfl

lemma writes (s : Snapshot) : SnapshotField.form.Writes s.written s.fields where
  nodup := by simp [written]
  named w _ := by cases w.1 <;> rfl
  reads := by
    simp only [written, List.forall_mem_cons]
    exact ⟨reads_list fun c _ => c.reads_reader, reads_list fun x _ => x.reads_reader,
      reads_instant s.persistedAt.ofText?_text, by simp⟩
  missing k hk := by cases k <;> simp [written] at hk

/-- A written snapshot is read. -/
lemma reads_reader (s : Snapshot) : Reads reader s.toJson.tokens s := by
  rw [toJson_eq]
  exact (Form.reads_record s.writes).map _

lemma isDelimited_written (s : Snapshot) : ∀ w ∈ s.written, w.2.IsDelimited := by
  simp only [written, List.forall_mem_cons]
  refine ⟨Json.isDelimited_array fun j hj => ?_, Json.isDelimited_array fun j hj => ?_,
    Json.isDelimited_text _, by simp⟩
  · obtain ⟨c, -, rfl⟩ := List.mem_map.mp hj
    exact c.isDelimited_toJson
  · obtain ⟨x, -, rfl⟩ := List.mem_map.mp hj
    exact x.isDelimited_toJson

lemma isDelimited_toJson (s : Snapshot) : s.toJson.IsDelimited := by
  rw [toJson_eq]
  exact Form.isDelimited_object_membersOf s.isDelimited_written

/-- The document of a snapshot is read as the snapshot. -/
lemma decode_encode (s : Snapshot) : decode (encode s) = .ok s := by
  have read := s.reads_reader []
  rw [List.append_nil] at read
  rw [decode, encode, Json.lexOctets_encode s.isDelimited_toJson, Json.document, read]
  rfl

lemma encode_injective : Function.Injective encode := by
  intro s s' same
  have read : decode (encode s) = .ok s' := by rw [same, decode_encode]
  rw [decode_encode] at read
  exact Except.ok.inj read

/-- Reads a document and writes what has been read. -/
def reencode (octets : List UInt8) : Except Json.ReadError (List UInt8) :=
  (decode octets).map encode

lemma reencode_encode (s : Snapshot) : reencode (encode s) = .ok (encode s) := by
  rw [reencode, decode_encode]
  rfl

/-- A document that is written anew says the same, and writing it once more does not change it. -/
lemma reencode_stable (octets : List UInt8) :
    (reencode octets).bind decode = decode octets ∧
      (reencode octets).bind reencode = reencode octets := by
  cases read : decode octets with
  | error e =>
    rw [reencode, read]
    exact ⟨rfl, rfl⟩
  | ok s =>
    have again : reencode octets = .ok (encode s) := by
      rw [reencode, read]
      rfl
    rw [again]
    exact ⟨s.decode_encode, s.reencode_encode⟩

lemma reencode_eq_self_iff (octets : List UInt8) :
    reencode octets = .ok octets ↔ ∃ s, encode s = octets := by
  constructor
  · intro unchanged
    cases read : decode octets with
    | error e =>
      rw [reencode, read] at unchanged
      cases unchanged
    | ok s =>
      rw [reencode, read] at unchanged
      exact ⟨s, Except.ok.inj unchanged⟩
  · rintro ⟨s, rfl⟩
    exact s.reencode_encode

/-- Documents and snapshots correspond. Every snapshot is read back from its document, so different
snapshots have different documents; every document that is read has a written form that says the same,
and the documents that are their own written form are those of snapshots. The length of a document is of
no consequence for reading it. -/
theorem codec_round_trip :
    (∀ s, decode (encode s) = .ok s) ∧ Function.Injective encode ∧
      (∀ octets, (reencode octets).bind decode = decode octets ∧
        (reencode octets).bind reencode = reencode octets) ∧
      ∀ octets, reencode octets = .ok octets ↔ ∃ s, encode s = octets :=
  ⟨decode_encode, encode_injective, reencode_stable, reencode_eq_self_iff⟩

end ClaimTracker.Snapshot
