import Mathlib.Data.List.Forall2
import Mathlib.Tactic.Lemma
import ClaimTracker.ClusterObject
import ClaimTracker.Proofs.Json.Pointer

/-!
# What records tell of an object

An object is free in form but for its metadata, so anything may stand where its conditions or the
name of its composite are looked for. The claim and the composite that it is agree on all that they have
in common, and neither depends on more than the kind, the metadata, the name of the composite and the first
condition of type `Ready`.
-/

namespace ClaimTracker

section Letters

lemma toNat_toLower (c : Char) :
    c.toLower.toNat = if 65 ≤ c.toNat ∧ c.toNat ≤ 90 then c.toNat + 32 else c.toNat := by
  by_cases capital : c.val ≥ 'A'.val ∧ c.val ≤ 'Z'.val
  · have bounds : 65 ≤ c.toNat ∧ c.toNat ≤ 90 := capital
    have lower : c.toLower.val = c.val + 32 := congrArg Char.val (dif_pos capital)
    have sum : (c.val + 32).toNat = (c.toNat + 32) % 4294967296 := UInt32.toNat_add c.val 32
    rw [if_pos bounds, Char.toNat, lower]
    omega
  · have kept : c.toLower = c := dif_neg capital
    rw [kept]
    exact (if_neg capital).symm

lemma toNat_toUpper_of_isLower {d : Char} (small : d.isLower = true) :
    97 ≤ d.toNat ∧ d.toNat ≤ 122 ∧ d.toUpper.toNat = d.toNat - 32 := by
  obtain ⟨least, greatest⟩ := Bool.and_eq_true_iff.mp small
  have bounds : 'a'.val ≤ d.val ∧ d.val ≤ 'z'.val :=
    ⟨of_decide_eq_true least, of_decide_eq_true greatest⟩
  have range : 97 ≤ d.toNat ∧ d.toNat ≤ 122 := bounds
  have upper : d.toUpper = ⟨d.val + ('A'.val - 'a'.val), _⟩ := dif_pos bounds
  have shift : 'A'.val - 'a'.val = 4294967264 := by decide
  have sum : (d.val + 4294967264).toNat = (d.toNat + 4294967264) % 4294967296 :=
    UInt32.toNat_add d.val 4294967264
  refine ⟨range.1, range.2, ?_⟩
  rw [upper]
  change (d.val + ('A'.val - 'a'.val)).toNat = _
  rw [shift]
  omega

/-- A character becomes a small letter if it is this letter or its capital. -/
lemma toLower_eq_iff {d : Char} (small : d.isLower = true) (c : Char) :
    c.toLower = d ↔ c = d ∨ c = d.toUpper := by
  obtain ⟨least, greatest, capital⟩ := toNat_toUpper_of_isLower small
  simp only [← Char.toNat_inj, toNat_toLower]
  split <;> omega

/-- A text is a word in small letters, whatever the case of its own. -/
def IsWord (word s : String) : Prop :=
  List.Forall₂ (fun c d => c = d ∨ c = d.toUpper) s.toList word.toList

lemma map_toLower_eq_iff {word : List Char} (small : word.all Char.isLower = true)
    (l : List Char) :
    l.map Char.toLower = word ↔ List.Forall₂ (fun c d => c = d ∨ c = d.toUpper) l word := by
  induction l generalizing word with
  | nil => cases word <;> simp
  | cons c l ih =>
    cases word with
    | nil => simp
    | cons d word =>
      rw [List.all_cons, Bool.and_eq_true] at small
      have letter := toLower_eq_iff small.1 c
      have rest := ih small.2
      rw [List.map_cons, List.cons.injEq, List.forall₂_cons, letter, rest]

end Letters

namespace ClusterObject

def FirstReady (o : ClusterObject) (c : Json) : Prop :=
  ∃ before after, o.data.pointer? "/status/conditions" = some (.array (before ++ c :: after)) ∧
    c.get? "type" = some (.text "Ready") ∧ ∀ d ∈ before, d.get? "type" ≠ some (.text "Ready")

def Under (entries : List (String × String)) (key value : String) : Prop :=
  key ≠ "" ∧ value ≠ "" ∧ entries.lookup key = some value

lemma isTrue_iff {status : String} : isTrue status = true ↔ IsWord "true" status := by
  have letters : "true".toList = ['t', 'r', 'u', 'e'] := by decide
  rw [isTrue, beq_iff_eq, map_toLower_eq_iff (by decide), IsWord, letters]

/-- On the way to the conditions no item of an array is meant. -/
lemma pointer?_conditions (j : Json) :
    j.pointer? "/status/conditions" = follow j ["status", "conditions"] := by
  have names : ∀ name ∈ ["status", "conditions"], Json.position? name = none := by decide
  exact Json.foldlM_step? names j

lemma textAt_eq_some_iff {j : Json} {name s : String} :
    textAt j [name] = some s ↔ j.get? name = some (.text s) := by
  simp [textAt, follow, Option.bind_eq_some_iff]

lemma readyCondition?_eq_some_iff {o : ClusterObject} {c : Json} :
    o.readyCondition? = some c ↔ o.FirstReady c := by
  have isReady : ∀ d : Json, (textAt d ["type"] == some "Ready") = true ↔
      d.get? "type" = some (.text "Ready") := by
    intro d
    rw [beq_iff_eq, textAt_eq_some_iff]
  rw [readyCondition?, ← pointer?_conditions, FirstReady]
  constructor
  · intro found
    obtain ⟨conditions, array, found⟩ := Option.bind_eq_some_iff.mp found
    obtain ⟨j, pointed, rfl⟩ : ∃ j, o.data.pointer? "/status/conditions" = some j ∧
        j = .array conditions := by
      simpa [Option.bind_eq_some_iff] using array
    obtain ⟨ready, before, after, rfl, earlier⟩ := List.find?_eq_some_iff_append.mp found
    refine ⟨before, after, pointed, (isReady c).mp ready, fun d hd typed => ?_⟩
    have other := earlier d hd
    rw [(isReady d).mpr typed] at other
    cases other
  · rintro ⟨before, after, pointed, ready, earlier⟩
    rw [pointed]
    refine List.find?_eq_some_iff_append.mpr ⟨(isReady c).mpr ready, before, after, rfl, ?_⟩
    intro d hd
    rw [Bool.not_eq_true', Bool.eq_false_iff]
    exact fun typed => earlier d hd ((isReady d).mp typed)

/-- An object is ready if its first condition of type `Ready` says so. -/
lemma ready_iff {o : ClusterObject} :
    o.ready = true ↔ ∃ c status, o.FirstReady c ∧ c.get? "status" = some (.text status) ∧
      IsWord "true" status := by
  simp only [← readyCondition?_eq_some_iff, ← textAt_eq_some_iff, ← isTrue_iff]
  rw [ready]
  cases o.readyCondition? with
  | none => simp
  | some c =>
    cases h : textAt c ["status"] with
    | none => simp [h, isTrue]
    | some status => simp [h]

/-- The reason is that of the first condition of type `Ready`, or empty. -/
lemma reason_eq_iff {o : ClusterObject} {r : String} :
    o.reason = r ↔ (∃ c, o.FirstReady c ∧ c.get? "reason" = some (.text r)) ∨
      r = "" ∧ ¬ ∃ c s, o.FirstReady c ∧ c.get? "reason" = some (.text s) := by
  simp only [← readyCondition?_eq_some_iff, ← textAt_eq_some_iff]
  rw [reason]
  cases o.readyCondition? with
  | none => simp [eq_comm]
  | some c =>
    cases h : textAt c ["reason"] with
    | none => simp [h, eq_comm]
    | some s => simp [h]

lemma annotationFor?_eq_some_iff {o : ClusterObject} {key : Option String} {value : String} :
    o.annotationFor? key = some value ↔
      ∃ k, key = some k ∧ Under o.metadata.annotations k value := by
  cases key with
  | none => simp [annotationFor?]
  | some k =>
    by_cases empty : k = ""
    · simp [annotationFor?, Under, empty]
    · cases found : o.metadata.annotations.lookup k with
      | none => simp [annotationFor?, Under, empty, found]
      | some v =>
        by_cases blank : v = ""
        · simp [annotationFor?, Under, empty, found, blank]
        · have same : v = value → value ≠ "" := fun heq => heq ▸ blank
          simpa [annotationFor?, Under, empty, found, blank] using same

/-- The composition of a composite is the label under the configured key, or empty. -/
lemma composition_eq_iff {o : ClusterObject} {t : ResourceType} {keys : ListingKeys}
    {value : String} (filled : value ≠ "") :
    (o.composite t keys).composition = value ↔
      Under o.metadata.labels keys.composition value := by
  have given : (o.composite t keys).composition =
      if keys.composition.isEmpty then "" else (o.metadata.labels.lookup keys.composition).getD "" :=
    rfl
  rw [given]
  by_cases empty : keys.composition = ""
  · simp [Under, empty, Ne.symm filled]
  · cases found : o.metadata.labels.lookup keys.composition with
    | none => simp [Under, empty, found, Ne.symm filled]
    | some v => simp [Under, empty, found, filled]

structure Agree (c : Claim) (x : Composite) : Prop where
  partition : c.partition = x.partition
  group : c.group = x.group
  kind : c.kind = x.kind
  ns : c.ns = x.ns
  name : c.name = x.name
  key : Record.key c = Record.key x
  origin : c.origin = x.origin
  ready : c.ready = x.ready
  reason : c.reason = x.reason
  createdAt : c.createdAt = x.createdAt

lemma agree (o : ClusterObject) (t : ResourceType) (keys : ListingKeys) :
    Agree (o.claim t keys) (o.composite t keys) := by
  constructor <;> rfl

/-- Two objects have the same kind, the same metadata as far as records tell of it, the same name of
a composite and the same first condition of type `Ready`, if any. -/
structure SameFacts (o o' : ClusterObject) : Prop where
  kind : o.kind = o'.kind
  ns : o.metadata.ns = o'.metadata.ns
  name : o.metadata.name = o'.metadata.name
  annotations : o.metadata.annotations = o'.metadata.annotations
  labels : o.metadata.labels = o'.metadata.labels
  createdAt : o.metadata.createdAt = o'.metadata.createdAt
  compositeName : textAt o.data ["spec", "resourceRef", "name"] =
    textAt o'.data ["spec", "resourceRef", "name"]
  condition : ∀ c, o.FirstReady c ↔ o'.FirstReady c

namespace SameFacts

variable {o o' : ClusterObject}

lemma readyCondition?_eq (h : SameFacts o o') : o.readyCondition? = o'.readyCondition? := by
  refine Option.ext fun c => ?_
  rw [readyCondition?_eq_some_iff, readyCondition?_eq_some_iff, h.condition]

lemma ready_eq (h : SameFacts o o') : o.ready = o'.ready := by
  rw [ready, ready, h.readyCondition?_eq]

lemma reason_eq (h : SameFacts o o') : o.reason = o'.reason := by
  rw [reason, reason, h.readyCondition?_eq]

lemma kindFor_eq (h : SameFacts o o') (t : ResourceType) : o.kindFor t = o'.kindFor t := by
  rw [kindFor, kindFor, h.kind]

lemma annotationFor?_eq (h : SameFacts o o') (key : Option String) :
    o.annotationFor? key = o'.annotationFor? key := by
  rw [annotationFor?, annotationFor?, h.annotations]

lemma claim_eq (h : SameFacts o o') (t : ResourceType) (keys : ListingKeys) :
    o.claim t keys = o'.claim t keys := by
  simp only [claim, ClusterObject.ns, ClusterObject.name, h.ns, h.name, h.createdAt,
    h.compositeName, h.ready_eq, h.reason_eq, h.kindFor_eq, h.annotationFor?_eq]

lemma composite_eq (h : SameFacts o o') (t : ResourceType) (keys : ListingKeys) :
    o.composite t keys = o'.composite t keys := by
  simp only [composite, ClusterObject.ns, ClusterObject.name, h.ns, h.name, h.createdAt, h.labels,
    h.ready_eq, h.reason_eq, h.kindFor_eq]

end SameFacts

/-- Records tell of an object what its kind, its metadata, the name of its composite and its first
condition of type `Ready` are, the claim and the composite alike, and nothing else. -/
theorem records_tell_facts (o : ClusterObject) (t : ResourceType) (keys : ListingKeys) :
    Agree (o.claim t keys) (o.composite t keys) ∧
    ((o.claim t keys).ready = true ↔ ∃ c status, o.FirstReady c ∧
      c.get? "status" = some (.text status) ∧ IsWord "true" status) ∧
    (∀ r, (o.claim t keys).reason = r ↔
      (∃ c, o.FirstReady c ∧ c.get? "reason" = some (.text r)) ∨
        r = "" ∧ ¬ ∃ c s, o.FirstReady c ∧ c.get? "reason" = some (.text s)) ∧
    (∀ v, (o.claim t keys).creator = some v ↔
      ∃ k, keys.creator = some k ∧ Under o.metadata.annotations k v) ∧
    (∀ v, (o.claim t keys).team = some v ↔
      ∃ k, keys.team = some k ∧ Under o.metadata.annotations k v) ∧
    (o.claim t keys).composition = "" ∧
    (∀ v, v ≠ "" → ((o.composite t keys).composition = v ↔
      Under o.metadata.labels keys.composition v)) ∧
    (∀ o', SameFacts o o' →
      o.claim t keys = o'.claim t keys ∧ o.composite t keys = o'.composite t keys) := by
  refine ⟨o.agree t keys, ready_iff, fun r => reason_eq_iff, fun v => annotationFor?_eq_some_iff,
    fun v => annotationFor?_eq_some_iff, rfl, fun v filled => composition_eq_iff filled, ?_⟩
  intro o' same
  exact ⟨same.claim_eq t keys, same.composite_eq t keys⟩

def countingCondition : Json :=
  .object [("type", .text "Ready"), ("status", .text "tRUE"), ("reason", .text "Available")]

/-- An object with metadata that records tell of, and others, and free data. -/
def labelledObject (resourceVersion : String) (data : Json) : ClusterObject where
  kind := none
  metadata :=
    { name := some "x1"
      resourceVersion := some resourceVersion
      labels := [("composition", "prod")] }
  data := data

/-- Conditions of any form before the one that counts, and others after it, do not matter. -/
theorem odd_conditions_told_alike :
    let o := labelledObject "1" (.object [("status", .object [("conditions", .array
      [.null, .object [("type", .array [.text "Ready"])], .object [("type", .text "ready")],
        countingCondition, .object [("type", .text "Ready"), ("status", .text "False")]])])])
    let o' := labelledObject "2" (.object [("spec", .object [("resourceRef", .text "name")]),
      ("status", .object [("conditions", .array [countingCondition]), ("phase", .null)])])
    let t : ResourceType := ⟨"g", "v1", "xwidgets"⟩
    let keys : ListingKeys := ⟨⟨none, none, "composition"⟩, .central⟩
    SameFacts o o' ∧ o.claim t keys = o'.claim t keys ∧
      o.composite t keys = o'.composite t keys ∧
      (o.claim t keys).ready = true ∧ (o.composite t keys).composition = "prod" := by
  intro o o' t keys
  have first : o.FirstReady countingCondition := readyCondition?_eq_some_iff.mp rfl
  have only : o'.FirstReady countingCondition := readyCondition?_eq_some_iff.mp rfl
  have same : SameFacts o o' := by
    refine ⟨rfl, rfl, rfl, rfl, rfl, rfl, rfl, fun c => ?_⟩
    rw [← readyCondition?_eq_some_iff, ← readyCondition?_eq_some_iff]
    exact Iff.rfl
  obtain ⟨-, ready, -, -, -, -, composition, alike⟩ := records_tell_facts o t keys
  obtain ⟨claim, composite⟩ := alike o' same
  refine ⟨same, claim, composite, ready.mpr ⟨_, "tRUE", first, rfl, ?_⟩, ?_⟩
  · exact isTrue_iff.mp (by decide)
  · exact (composition "prod" (by decide)).mpr ⟨by decide, by decide, rfl⟩

end ClusterObject

end ClaimTracker
