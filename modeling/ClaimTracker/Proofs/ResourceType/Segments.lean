import ClaimTracker.Proofs.Text.Blank
import ClaimTracker.ResourceType

/-!
# Which texts name resource types

A text is cut at its first two slashes, and further slashes stay in the third segment. It names a
resource type if there are three segments and none is blank; otherwise the first blank segment is
complained of, or that there are too few. So a text is read by the segments between all its slashes as
long as it has at most two of them. With more it is never refused for its shape.
-/

namespace ClaimTracker.ResourceType

open ClaimTracker.Text (trim)

/-- What a text with these segments stands for: there must be three, and none may be blank. -/
def ofSegments (s : String) : List (List Char) → Except Error ResourceType
  | [group, version, resource] =>
    match [group, version, resource].findIdx? fun segment => (trim segment).isEmpty with
    | some i => .error (.blankSegment s (i + 1))
    | none => .ok ⟨.ofList (trim group), .ofList (trim version), .ofList (trim resource)⟩
  | _ => .error (.tooFewSegments s)

/-- The segments with all after the second joined again. -/
def atMostThree : List (List Char) → List (List Char)
  | group :: version :: resource :: more => [group, version, ['/'].intercalate (resource :: more)]
  | segments => segments

lemma atMostThree_of_length_le {segments : List (List Char)} (few : segments.length ≤ 3) :
    atMostThree segments = segments := by
  match segments with
  | [] | [_] | [_, _] => rfl
  | [group, version, resource] => rw [atMostThree, List.intercalate_singleton]
  | _ :: _ :: _ :: _ :: _ =>
    simp only [List.length_cons] at few
    omega

lemma exists_atMostThree_eq {segments : List (List Char)} (many : 3 ≤ segments.length) :
    ∃ group version resource, atMostThree segments = [group, version, resource] := by
  match segments with
  | [] | [_] | [_, _] =>
    simp only [List.length_cons, List.length_nil] at many
    omega
  | _ :: _ :: _ :: _ => exact ⟨_, _, _, rfl⟩

/-- The cuts are at the first two slashes. -/
lemma segments?_eq_some_iff {s group version resource : List Char} :
    segments? s = some (group, version, resource) ↔
      s = group ++ '/' :: (version ++ '/' :: resource) ∧ '/' ∉ group ∧ '/' ∉ version := by
  constructor
  · intro h
    obtain ⟨⟨front, back⟩, first, h⟩ := Option.bind_eq_some_iff.mp h
    obtain ⟨⟨middle, last⟩, second, h⟩ := Option.bind_eq_some_iff.mp h
    cases h
    obtain ⟨rfl, group_free⟩ := Text.cut_eq_some_iff.mp first
    obtain ⟨rfl, version_free⟩ := Text.cut_eq_some_iff.mp second
    exact ⟨rfl, group_free, version_free⟩
  · rintro ⟨rfl, group_free, version_free⟩
    rw [segments?, Text.cut_append_cons group_free]
    simp only [bind, Option.bind]
    rw [Text.cut_append_cons version_free]
    rfl

/-- They give the segments, all after the second together. -/
lemma segments?_eq (s : List Char) :
    segments? s =
      match atMostThree (s.splitOn '/') with
      | [group, version, resource] => some (group, version, resource)
      | _ => none := by
  have joined : ['/'].intercalate (s.splitOn '/') = s := List.intercalate_splitOn '/'
  have pieces : ∀ p ∈ s.splitOn '/', '/' ∉ p := fun p => Text.notMem_of_mem_splitOn
  revert joined pieces
  match s.splitOn '/' with
  | [] =>
    rintro rfl -
    rfl
  | [group] =>
    intro joined pieces
    rw [List.forall_mem_singleton] at pieces
    rw [← joined, List.intercalate_singleton, segments?, Text.cut_of_notMem pieces]
    rfl
  | [group, version] =>
    intro joined pieces
    obtain ⟨group_free, pieces⟩ := List.forall_mem_cons.mp pieces
    rw [List.forall_mem_singleton] at pieces
    rw [← joined, List.intercalate_cons_cons, List.intercalate_singleton, List.append_assoc,
      List.singleton_append, segments?, Text.cut_append_cons group_free]
    simp only [bind, Option.bind]
    rw [Text.cut_of_notMem pieces]
    rfl
  | group :: version :: resource :: more =>
    intro joined pieces
    obtain ⟨group_free, pieces⟩ := List.forall_mem_cons.mp pieces
    obtain ⟨version_free, -⟩ := List.forall_mem_cons.mp pieces
    have text : s = group ++ '/' :: (version ++ '/' :: ['/'].intercalate (resource :: more)) := by
      rw [← joined, List.intercalate_cons_cons, List.intercalate_cons_cons, List.append_assoc,
        List.singleton_append, List.append_assoc, List.singleton_append]
    exact segments?_eq_some_iff.mpr ⟨text, group_free, version_free⟩

/-- A text is read by its segments, all after the second together. -/
lemma parse_eq_ofSegments (s : String) :
    parse s = ofSegments s (atMostThree (s.toList.splitOn '/')) := by
  rw [parse, segments?_eq]
  match atMostThree (s.toList.splitOn '/') with
  | [] | [_] | [_, _] | _ :: _ :: _ :: _ :: _ => rfl
  | [group, version, resource] =>
    simp only [ofSegments, List.findIdx?_cons, List.findIdx?_nil]
    cases trim group <;> cases trim version <;> cases trim resource <;> rfl

lemma ofSegments_of_length_ne {s : String} {segments : List (List Char)}
    (other : segments.length ≠ 3) : ofSegments s segments = .error (.tooFewSegments s) := by
  match segments with
  | [] | [_] | [_, _] | _ :: _ :: _ :: _ :: _ => rfl
  | [_, _, _] => exact absurd rfl other

lemma ofSegments_three_ne (s : String) (group version resource : List Char) :
    ofSegments s [group, version, resource] ≠ .error (.tooFewSegments s) := by
  rw [ofSegments]
  split <;> simp

/-- A text is read by its segments, all after the second together. They are its segments between all
slashes exactly if the text has at most two slashes. -/
theorem segments_read_iff (s : String) :
    parse s = ofSegments s (atMostThree (s.toList.splitOn '/')) ∧
      (parse s = ofSegments s (s.toList.splitOn '/') ↔ s.toList.count '/' ≤ 2) := by
  refine ⟨parse_eq_ofSegments s, ?_⟩
  have count := Text.length_splitOn '/' s.toList
  constructor
  · intro same
    by_contra many
    have refused : ofSegments s (s.toList.splitOn '/') = .error (.tooFewSegments s) :=
      ofSegments_of_length_ne (by omega)
    have long : 3 ≤ (s.toList.splitOn '/').length := by omega
    obtain ⟨group, version, resource, three⟩ := exists_atMostThree_eq long
    rw [refused, parse_eq_ofSegments, three] at same
    exact ofSegments_three_ne s group version resource same
  · intro few
    rw [parse_eq_ofSegments, atMostThree_of_length_le (by omega)]

/-- A text of four segments names a resource type whose name has a slash. -/
theorem surplus_segment_accepted :
    parse "g/v1/widgets/extra" = .ok ⟨"g", "v1", "widgets/extra"⟩ ∧
      ¬ ∀ s, parse s = ofSegments s (s.toList.splitOn '/') := by
  have accepted : parse "g/v1/widgets/extra" = .ok ⟨"g", "v1", "widgets/extra"⟩ := by
    decide +kernel
  refine ⟨accepted, fun h => ?_⟩
  have refused : ofSegments "g/v1/widgets/extra" ("g/v1/widgets/extra".toList.splitOn '/') =
      .error (.tooFewSegments "g/v1/widgets/extra") := by
    decide +kernel
  have same := h "g/v1/widgets/extra"
  rw [accepted, refused] at same
  cases same

end ClaimTracker.ResourceType
