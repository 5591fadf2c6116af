import ClaimTracker.Proofs.Json.Size
import ClaimTracker.Snapshot

/-!
# How long the document of a snapshot is

Apart from the moment, which is longer or shorter with its fraction of a second, the document of an empty
snapshot always has the same length. Every record makes it longer by what the record takes, and by a comma
if it is not the first. What a record takes is bounded from below by its member names.
-/

namespace ClaimTracker

open ClaimTracker.Json (memberSize size_array size_object two_le_size_text)

lemma Json.two_le_size_ofInstant? (t : Option Instant) : 2 ≤ (Json.ofInstant? t).size := by
  cases t with
  | none => exact Nat.le_of_lt (by decide : 2 < Json.null.size)
  | some t => exact two_le_size_text t.text

lemma Json.four_le_size_bool (b : Bool) : 4 ≤ (Json.bool b).size := by
  cases b <;> decide

lemma Origin.nine_le_size_name (o : Origin) : 9 ≤ (Json.text o.name).size := by
  cases o <;> decide

def Claim.leastSize : Nat := 143

def Composite.leastSize : Nat := 132

lemma Claim.leastSize_le (c : Claim) : leastSize ≤ c.toJson.size := by
  have labels : (([.gvr, .group, .kind, .ns, .name, .composition, .source, .ready, .reason,
      .createdAt, .xrRef] : List ClaimField).map fun k => (Json.text k.label).size).sum = 89 := by
    decide
  simp only [List.map_cons, List.map_nil, List.sum_cons, List.sum_nil] at labels
  have partition := two_le_size_text c.partition
  have group := two_le_size_text c.group
  have kind := two_le_size_text c.kind
  have ns := two_le_size_text c.ns
  have name := two_le_size_text c.name
  have composition := two_le_size_text c.composition
  have origin := c.origin.nine_le_size_name
  have ready := Json.four_le_size_bool c.ready
  have reason := two_le_size_text c.reason
  have createdAt := Json.two_le_size_ofInstant? c.createdAt
  have compositeName := two_le_size_text c.compositeName
  rw [toJson, size_object, leastSize]
  simp only [List.map_append, List.map_cons, List.map_nil, List.sum_append, List.sum_cons,
    List.sum_nil, List.length_append, List.length_cons, List.length_nil, memberSize]
  omega

lemma Composite.leastSize_le (x : Composite) : leastSize ≤ x.toJson.size := by
  have labels : (CompositeField.all.map fun k => (Json.text k.label).size).sum = 82 := by decide
  simp only [CompositeField.all, List.map_cons, List.map_nil, List.sum_cons, List.sum_nil] at labels
  have partition := two_le_size_text x.partition
  have group := two_le_size_text x.group
  have kind := two_le_size_text x.kind
  have ns := two_le_size_text x.ns
  have name := two_le_size_text x.name
  have composition := two_le_size_text x.composition
  have origin := x.origin.nine_le_size_name
  have ready := Json.four_le_size_bool x.ready
  have reason := two_le_size_text x.reason
  have createdAt := Json.two_le_size_ofInstant? x.createdAt
  rw [toJson, size_object, leastSize]
  simp only [List.map_cons, List.map_nil, List.sum_cons, List.sum_nil, List.length_cons,
    List.length_nil, memberSize]
  omega

namespace Snapshot

/-- The octets of the claims and the commas between them. -/
def claimsSize (s : Snapshot) : Nat :=
  (s.claims.map fun c => c.toJson.size).sum + (s.claims.length - 1)

/-- The octets of the composites and the commas between them. -/
def compositesSize (s : Snapshot) : Nat :=
  (s.composites.map fun x => x.toJson.size).sum + (s.composites.length - 1)

/-- The octets that every document has: braces, brackets, member names, colons and commas. -/
def frameSize : Nat := 44

lemma length_encode (s : Snapshot) :
    s.encode.length =
      s.claimsSize + s.compositesSize + (Json.text s.persistedAt.text).size + frameSize := by
  have claims : (Json.text SnapshotField.claims.label).size = 8 := by decide
  have composites : (Json.text SnapshotField.composites.label).size = 12 := by decide
  have persistedAt : (Json.text SnapshotField.persistedAt.label).size = 13 := by decide
  have claimSizes : (s.claims.map Claim.toJson).map Json.size =
      s.claims.map fun c => c.toJson.size := List.map_map
  have compositeSizes : (s.composites.map Composite.toJson).map Json.size =
      s.composites.map fun x => x.toJson.size := List.map_map
  have whole : s.encode.length = s.toJson.size := rfl
  rw [whole, toJson, size_object, claimsSize, compositesSize, frameSize]
  simp only [List.map_cons, List.map_nil, List.sum_cons, List.sum_nil, List.length_cons,
    List.length_nil, memberSize, size_array, claimSizes, compositeSizes, List.length_map, claims,
    composites, persistedAt]
  omega

lemma length_mul_le_sum {ρ : Type} {size : ρ → Nat} {least : Nat} (h : ∀ r, least ≤ size r)
    (l : List ρ) : l.length * least ≤ (l.map size).sum := by
  induction l with
  | nil => simp
  | cons r l ih =>
    have first := h r
    rw [List.length_cons, List.map_cons, List.sum_cons, Nat.succ_mul]
    omega

lemma length_mul_le_claimsSize (s : Snapshot) :
    s.claims.length * Claim.leastSize ≤ s.claimsSize :=
  Nat.le_add_right_of_le (length_mul_le_sum Claim.leastSize_le s.claims)

lemma length_mul_le_compositesSize (s : Snapshot) :
    s.composites.length * Composite.leastSize ≤ s.compositesSize :=
  Nat.le_add_right_of_le (length_mul_le_sum Composite.leastSize_le s.composites)

end Snapshot

end ClaimTracker
