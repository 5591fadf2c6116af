import ClaimTracker.Proofs.Json.Refusal
import ClaimTracker.Proofs.Snapshot

/-!
# Documents that go wrong late

A document may begin with any number of records that can be read and still be none of a snapshot: a
record comes that cannot be read, or the document ends and has not said when it was written. All of it is
refused then, for the first thing that is wrong with it.
-/

namespace ClaimTracker

open ClaimTracker.Json (Form ReadError Token leadingTokens octets)
open ClaimTracker.Json.Reader

namespace Claim

/-- The claim as an object that lacks a field. -/
def without (c : Claim) (k : ClaimField) : Json :=
  .object (ClaimField.form.membersOf (c.written.filter fun w => w.1 ≠ k))

lemma refuses_without (c : Claim) {k : ClaimField} (required : k.default? = none) :
    Refuses reader (c.without k).tokens (.mismatch (some (.missingField k.label))) :=
  (Form.refuses_record_without c.writes required).map ofFields

lemma isDelimited_without (c : Claim) (k : ClaimField) : (c.without k).IsDelimited :=
  Form.isDelimited_object_membersOf fun w hw => c.isDelimited_written w (List.mem_filter.mp hw).1

end Claim

namespace Snapshot

/-- Some of the members of the document of a snapshot, in any order. -/
structure Part (s : Snapshot) (l : List (SnapshotField × Json)) : Prop where
  nodup : (l.map Prod.fst).Nodup
  subset : l ⊆ s.written

/-- The tokens of a document up to a record that stands in a list: members, and in the list other
records. -/
def tokensUpTo {ρ : Type} (part : List (SnapshotField × Json)) (k : SnapshotField)
    (write : ρ → Json) (good : List ρ) (bad : Json) : List Token :=
  .openBrace :: SnapshotField.form.tokensUpTo part k
    (.openBracket :: (leadingTokens (fun r => (write r).tokens) good ++ bad.tokens))

/-- Documents in which all is well up to a record that cannot be read, or up to the end, where the
moment is missing. What they go on with is of no consequence. -/
inductive GoesWrong : List UInt8 → ReadError → Prop
  | claim {s : Snapshot} {part : List (SnapshotField × Json)} (good : List Claim) {bad : Json}
    {e : ReadError} (before : s.Part part) (first : .claims ∉ part.map Prod.fst)
    (refused : Refuses Claim.reader bad.tokens e) (delimited : bad.IsDelimited)
    (rest : List UInt8) :
    GoesWrong (octets (tokensUpTo part .claims Claim.toJson good bad) ++ rest) e
  | composite {s : Snapshot} {part : List (SnapshotField × Json)} (good : List Composite)
    {bad : Json} {e : ReadError} (before : s.Part part) (first : .composites ∉ part.map Prod.fst)
    (refused : Refuses Composite.reader bad.tokens e) (delimited : bad.IsDelimited)
    (rest : List UInt8) :
    GoesWrong (octets (tokensUpTo part .composites Composite.toJson good bad) ++ rest) e
  | undated {s : Snapshot} {part : List (SnapshotField × Json)} (before : s.Part part)
    (missing : .persistedAt ∉ part.map Prod.fst) (rest : List UInt8) :
    GoesWrong (octets (Json.object (SnapshotField.form.membersOf part)).tokens ++ rest)
      (.mismatch (some (.missingField SnapshotField.persistedAt.label)))

variable {s : Snapshot} {part : List (SnapshotField × Json)} {e : ReadError}

lemma Part.readable (h : s.Part part) : SnapshotField.form.Readable part s.fields where
  nodup := h.nodup
  named w hw := s.writes.named w (h.subset hw)
  reads w hw := s.writes.reads w (h.subset hw)

lemma Part.isDelimited (h : s.Part part) : ∀ w ∈ part, w.2.IsDelimited :=
  fun w hw => s.isDelimited_written w (h.subset hw)

/-- A document is refused if the reader refuses the tokens that it begins with. -/
lemma decode_of_refuses {l : List Token} (refused : Refuses SnapshotField.form.record l e)
    (delimited : ∀ t ∈ l, t.isDelimited = true) (rest : List UInt8) :
    decode (octets l ++ rest) = .error e := by
  have read := refused.map
    (fun v => (⟨v .claims, v .composites, v .persistedAt⟩ : Snapshot)) (Json.lexOctets rest)
  rw [decode, Json.lexOctets_octets_append delimited, Json.document, reader, read]
  rfl

section Records

variable {ρ : Type} {k : SnapshotField} {write : ρ → Json} {good : List ρ} {bad : Json}

lemma isDelimited_tokensUpTo (before : s.Part part) (written : ∀ r, (write r).IsDelimited)
    (delimited : bad.IsDelimited) :
    ∀ t ∈ tokensUpTo part k write good bad, t.isDelimited = true := by
  have members : ∀ t ∈ leadingTokens Json.namedTokens (SnapshotField.form.membersOf part),
      t.isDelimited = true := by
    refine Json.isDelimited_leadingTokens fun m hm => Json.isDelimited_namedTokens ?_
    obtain ⟨w, hw, rfl⟩ := List.mem_map.mp hm
    exact before.isDelimited w hw
  have records : ∀ t ∈ leadingTokens (fun r => (write r).tokens) good, t.isDelimited = true :=
    Json.isDelimited_leadingTokens fun r _ => written r
  intro t ht
  simp only [tokensUpTo, Form.tokensUpTo, List.mem_cons, List.mem_append] at ht
  rcases ht with rfl | ht | rfl | rfl | rfl | ht | ht
  · rfl
  · exact members t ht
  · rfl
  · rfl
  · rfl
  · exact records t ht
  · exact delimited t ht

end Records

/-- A document that goes wrong is no document of a snapshot. -/
lemma decode_of_goesWrong {body : List UInt8} (h : GoesWrong body e) : decode body = .error e := by
  cases h with
  | claim good before first refused delimited rest =>
    have list := refuses_list (fun c (_ : c ∈ good) => c.reads_reader) refused
      (Json.exists_tokens_eq _)
    exact decode_of_refuses (Form.refuses_record before.readable first rfl list)
      (isDelimited_tokensUpTo before Claim.isDelimited_toJson delimited) rest
  | composite good before first refused delimited rest =>
    have list := refuses_list (fun x (_ : x ∈ good) => x.reads_reader) refused
      (Json.exists_tokens_eq _)
    exact decode_of_refuses (Form.refuses_record before.readable first rfl list)
      (isDelimited_tokensUpTo before Composite.isDelimited_toJson delimited) rest
  | @undated s part before missing rest =>
    have last : (SnapshotField.form.fields.find? fun j =>
        decide (j ∉ part.map Prod.fst) && (SnapshotField.form.default? j).isNone) =
          some .persistedAt := by
      simp [SnapshotField.form, SnapshotField.all, SnapshotField.default?, missing]
    exact decode_of_refuses (Form.refuses_record_of_missing before.readable last)
      (Form.isDelimited_object_membersOf before.isDelimited) rest

end Snapshot

end ClaimTracker
