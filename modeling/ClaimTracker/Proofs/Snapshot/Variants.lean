import Mathlib.Logic.Relation
import ClaimTracker.Proofs.Json.Changes
import ClaimTracker.Proofs.Json.Spelling
import ClaimTracker.Snapshot

/-!
# Documents that say the same

A snapshot may be written with its members in any order, with other members among them that hold values
of any kind and depth, and with its composites under the older name; so may its records. However it is
spelled, it is read as the same snapshot. What is not read is a document in which a field of the
snapshot or of one of its records occurs twice.
-/

namespace ClaimTracker

open ClaimTracker.Json (Node ReadError ItemChanges HasItem)
open ClaimTracker.Json.Reader

lemma ClaimField.decides : ClaimField.form.Decides := by
  intro k
  cases k with
  | creator | team => exact decides_text.optional
  | source => exact decides_choice _ _
  | ready => exact decides_bool
  | createdAt => exact decides_instant.optional
  | _ => exact decides_text

lemma CompositeField.decides : CompositeField.form.Decides := by
  intro k
  cases k with
  | source => exact decides_choice _ _
  | ready => exact decides_bool
  | createdAt => exact decides_instant.optional
  | _ => exact decides_text

lemma Claim.decides_reader : Decides Claim.reader :=
  ClaimField.decides.record.map _

lemma Composite.decides_reader : Decides Composite.reader :=
  CompositeField.decides.record.map _

lemma SnapshotField.decides : SnapshotField.form.Decides := by
  intro k
  cases k with
  | claims => exact Claim.decides_reader.list
  | composites => exact Composite.decides_reader.list
  | persistedAt => exact decides_instant

namespace Snapshot

lemma decides_reader : Decides reader :=
  SnapshotField.decides.record.map _

/-- One change to a record in the list that a field of a snapshot holds. -/
def RecordChanges : SnapshotField → Node → Node → Prop
  | .claims => ItemChanges (ClaimField.form.Changes fun _ _ _ => False)
  | .composites => ItemChanges (CompositeField.form.Changes fun _ _ _ => False)
  | .persistedAt => fun _ _ => False

/-- One change to a snapshot or to one of its records: of the order of the members, of what else there
is among them, or of the name that a field goes by. -/
def Changes : Node → Node → Prop :=
  SnapshotField.form.Changes RecordChanges

/-- In the list that a field of a snapshot holds there is a record with two members of one field. -/
def RecordRepeats : SnapshotField → Node → Prop
  | .claims => HasItem (ClaimField.form.Repeats fun _ _ => False)
  | .composites => HasItem (CompositeField.form.Repeats fun _ _ => False)
  | .persistedAt => fun _ => False

/-- A snapshot or one of its records has two members of one field. -/
def Repeats : Node → Prop :=
  SnapshotField.form.Repeats RecordRepeats

variable {n n' : Node} {s : Snapshot} {octets octets' : List UInt8}

lemma RecordChanges.alike {k : SnapshotField} (h : RecordChanges k n n') :
    Alike (SnapshotField.form.read k) n n' := by
  cases k with
  | claims => exact Json.Form.alike_list Claim.ofFields ClaimField.decides h
  | composites => exact Json.Form.alike_list Composite.ofFields CompositeField.decides h
  | persistedAt => exact h.elim

lemma Changes.alike (h : Changes n n') : Alike reader n n' :=
  (Json.Form.Changes.alike SnapshotField.decides (fun _ _ _ => RecordChanges.alike) h).map
    SnapshotField.decides.record _

/-- Any number of changes leaves a snapshot what it is. -/
lemma alike_of_changes (h : Relation.ReflTransGen Changes n n') : Alike reader n n' := by
  induction h with
  | refl => exact fun _ => Iff.rfl
  | tail _ change ih => exact fun s => (ih s).trans (change.alike s)

lemma RecordRepeats.unreadable {k : SnapshotField} (h : RecordRepeats k n) (a : k.Value) :
    ¬ Reads (SnapshotField.form.read k) n.tokens a := by
  cases k with
  | claims => exact Json.Form.unreadable_list Claim.ofFields ClaimField.decides h a
  | composites => exact Json.Form.unreadable_list Composite.ofFields CompositeField.decides h a
  | persistedAt => exact h.elim

lemma Repeats.unreadable (h : Repeats n) (s : Snapshot) : ¬ Reads reader n.tokens s := by
  intro whole
  obtain ⟨content, read, -⟩ := (reads_map_iff SnapshotField.decides.record _).mp whole
  exact Json.Form.Repeats.unreadable SnapshotField.decides (fun _ _ => RecordRepeats.unreadable) h
    content read

/-- A document is a snapshot exactly if the value that it spells is read as one. -/
lemma decode_eq_ok_iff (spelled : n.IsSpelled octets) :
    decode octets = .ok s ↔ Reads reader n.tokens s := by
  have whole : decode octets = Json.document reader (n.tokens ++ []) := by
    rw [decode, spelled.lexOctets, List.append_nil]
  rw [whole, Json.document]
  rcases decides_reader n with ⟨t, read⟩ | ⟨e, refused⟩
  · rw [read.bind]
    constructor
    · intro h
      cases h
      exact read
    · intro h
      rw [read.unique h]
  · rw [refused.bind]
    exact ⟨nofun, fun h => absurd refused h.not_refuses⟩

/-- Documents that differ by any number of changes, however they are spelled, are the same snapshot or
both none. A document with two members of one field is none. -/
theorem decode_of_changes :
    (∀ n n', Relation.ReflTransGen Changes n n' → ∀ octets octets', n.IsSpelled octets →
      n'.IsSpelled octets' → ∀ s, decode octets = .ok s ↔ decode octets' = .ok s) ∧
    ∀ n, Repeats n → ∀ octets, n.IsSpelled octets → ∃ e, decode octets = .error e := by
  constructor
  · intro n n' changes octets octets' spelled spelled' s
    rw [decode_eq_ok_iff spelled, decode_eq_ok_iff spelled']
    exact alike_of_changes changes s
  · intro n repeated octets spelled
    cases read : decode octets with
    | ok s => exact absurd ((decode_eq_ok_iff spelled).mp read) (repeated.unreadable s)
    | error e => exact ⟨e, rfl⟩

/-- With a note put in, the newer name in place of the older one and the members in another order, a
document is the same snapshot. With both names it is none. -/
theorem decode_renamed_and_doubled :
    let dated : Node.Member := (some "persistedAt", .text (some "1970-01-01T00:00:00Z"))
    let note : Node.Member := (some "note", .array [.object [(some "claims", .null)]])
    let plain : Node := .object [(some "composites", .array []), dated]
    let varied : Node := .object [dated, note, (some "xrs", .array [])]
    let doubled : Node := .object [(some "composites", .array []), dated, (some "xrs", .array [])]
    ∃ t, Instant.ofText? "1970-01-01T00:00:00Z" = some t ∧
      decode (Json.octets plain.tokens) = .ok ⟨[], [], t⟩ ∧
      decode (Json.octets varied.tokens) = .ok ⟨[], [], t⟩ ∧
      ∃ e, decode (Json.octets doubled.tokens) = .error e := by
  intro dated note plain varied doubled
  have spelled : plain.IsSpelled (Json.octets plain.tokens) := Node.isSpelled_octets (by decide)
  have spelled' : varied.IsSpelled (Json.octets varied.tokens) := Node.isSpelled_octets (by decide)
  have renamed : Changes (.object ([] ++ (some "composites", .array []) :: [dated]))
      (.object ([] ++ (some "xrs", .array []) :: [dated])) :=
    .rename rfl
  have noted : Changes (.object ([(some "xrs", .array [])] ++ [dated]))
      (.object ([(some "xrs", .array [])] ++ note :: [dated])) :=
    .insert rfl
  have reordered : Changes (.object [(some "xrs", .array []), note, dated]) varied :=
    .reorder (List.reverse_perm _).symm
  have changed : Relation.ReflTransGen Changes plain varied :=
    ((Relation.ReflTransGen.single renamed).tail noted).tail reordered
  have repeated : Repeats (.object ([] ++ (some "composites", .array []) :: [dated] ++
      (some "xrs", .array []) :: [])) :=
    .here rfl rfl
  let t : Instant := ((Date.of? 1970 1 1).bind fun date => Instant.of? date 0 0 0 0).get rfl
  have read : decode (Json.octets plain.tokens) = .ok ⟨[], [], t⟩ :=
    (decode_eq_ok_iff spelled).mpr fun rest => rfl
  exact ⟨t, by decide +kernel, read,
    (decode_of_changes.1 plain varied changed _ _ spelled spelled' _).mp read,
    decode_of_changes.2 doubled repeated _ (Node.isSpelled_octets (by decide))⟩

end Snapshot

end ClaimTracker
