import Mathlib.Data.List.Basic
import Mathlib.Data.List.Induction
import ClaimTracker.Proofs.ResourceType.Segments

/-!
# Lists of resource types

What a text names is named by its display form too, so resource types that were read and have one
display form are equal. A list that was read is read again from the display forms of its members with
commas between them. It holds what its entries name, each once and in the order in which the entries
first name it, and it is refused for the first entry that names nothing.
-/

namespace ClaimTracker

section Traversal

variable {α β ε : Type} {f : α → Except ε β}

/-- A traversal succeeds exactly if it does so at every element. -/
lemma mapM_eq_ok_iff {l : List α} {r : List β} : l.mapM f = .ok r ↔ l.map f = r.map .ok := by
  induction l generalizing r with
  | nil => cases r <;> simp [pure, Except.pure]
  | cons a l ih =>
    rw [List.mapM_cons]
    cases first : f a with
    | error e => cases r <;> simp [bind, Except.bind, first]
    | ok b =>
      cases others : l.mapM f with
      | error e => cases r <;> simp [bind, Except.bind, first, ← ih, others]
      | ok bs => cases r <;> simp [bind, Except.bind, pure, Except.pure, first, ← ih, others]

/-- A traversal fails with the error of the first element at which it fails. -/
lemma mapM_eq_error_iff {l : List α} {e : ε} :
    l.mapM f = .error e ↔ ∃ before a after, l = before ++ a :: after ∧
      (∀ b ∈ before, ∃ c, f b = .ok c) ∧ f a = .error e := by
  induction l with
  | nil => simp [pure, Except.pure]
  | cons a l ih =>
    rw [List.mapM_cons]
    cases first : f a with
    | error e' =>
      constructor
      · rintro ⟨⟩
        exact ⟨[], a, l, rfl, List.forall_mem_nil _, first⟩
      · rintro ⟨before, b, after, heq, good, bad⟩
        cases before with
        | nil =>
          obtain ⟨rfl, rfl⟩ := List.cons.inj heq
          rw [first] at bad
          cases bad
          rfl
        | cons c before =>
          obtain ⟨rfl, -⟩ := List.cons.inj heq
          obtain ⟨c, hc⟩ := good a List.mem_cons_self
          rw [first] at hc
          cases hc
    | ok c =>
      have later : (do let bs ← l.mapM f; pure (c :: bs) : Except ε (List β)) = .error e ↔
          l.mapM f = .error e := by
        cases l.mapM f <;> simp [bind, Except.bind, pure, Except.pure]
      refine later.trans (ih.trans ?_)
      constructor
      · rintro ⟨before, b, after, rfl, good, bad⟩
        exact ⟨a :: before, b, after, rfl, List.forall_mem_cons.mpr ⟨⟨c, first⟩, good⟩, bad⟩
      · rintro ⟨before, b, after, heq, good, bad⟩
        cases before with
        | nil =>
          obtain ⟨rfl, rfl⟩ := List.cons.inj heq
          rw [first] at bad
          cases bad
        | cons d before =>
          obtain ⟨rfl, rfl⟩ := List.cons.inj heq
          exact ⟨before, b, after, rfl, (List.forall_mem_cons.mp good).2, bad⟩

end Traversal

section FirstOccurrences

variable {α : Type} [DecidableEq α]

lemma eraseDups_append_singleton (l : List α) (a : α) :
    (l ++ [a]).eraseDups = if a ∈ l then l.eraseDups else l.eraseDups ++ [a] := by
  rw [List.eraseDups_append]
  by_cases h : a ∈ l <;> simp [List.removeAll, h, List.eraseDups_cons]

/-- Without its repeated elements a list has its members in the order in which they first occur. -/
lemma pairwise_eraseDups (l : List α) :
    l.eraseDups.Pairwise fun a b => l.idxOf a < l.idxOf b := by
  induction l using List.reverseRecOn with
  | nil => exact List.Pairwise.nil
  | append_singleton l a ih =>
    have kept : ∀ b ∈ l.eraseDups, (l ++ [a]).idxOf b = l.idxOf b :=
      fun b hb => List.idxOf_append_of_mem (List.mem_eraseDups.mp hb)
    have before : l.eraseDups.Pairwise fun b c => (l ++ [a]).idxOf b < (l ++ [a]).idxOf c := by
      refine ih.imp_of_mem fun hb hc h => ?_
      rwa [kept _ hb, kept _ hc]
    rw [eraseDups_append_singleton]
    by_cases repeated : a ∈ l
    · rwa [if_pos repeated]
    · rw [if_neg repeated, List.pairwise_append]
      refine ⟨before, List.pairwise_singleton _ a, fun b hb c hc => ?_⟩
      rw [List.mem_singleton.mp hc, kept b hb, List.idxOf_append_of_notMem repeated]
      exact Nat.lt_add_right _ (List.idxOf_lt_length_of_mem (List.mem_eraseDups.mp hb))

lemma nodup_eraseDups (l : List α) : l.eraseDups.Nodup := by
  refine (pairwise_eraseDups l).imp fun {a b} earlier same => ?_
  rw [same] at earlier
  exact Nat.lt_irrefl _ earlier

lemma eraseDups_ne_nil {l : List α} (h : l ≠ []) : l.eraseDups ≠ [] := by
  obtain ⟨a, ha⟩ := List.exists_mem_of_ne_nil l h
  exact List.ne_nil_of_mem (List.mem_eraseDups.mpr ha)

/-- A list without repeated elements is left as it is. -/
lemma eraseDups_of_nodup {l : List α} (h : l.Nodup) : l.eraseDups = l := by
  induction l using List.reverseRecOn with
  | nil => rfl
  | append_singleton l a ih =>
    obtain ⟨nodup, -, apart⟩ := List.nodup_append.mp h
    have new : a ∉ l := fun hm => apart a hm a (List.mem_singleton_self a) rfl
    rw [eraseDups_append_singleton, if_neg new, ih nodup]

end FirstOccurrences

namespace ResourceType

open ClaimTracker.Text (trim)

/-- A part of a resource type that was read is trimmed and not blank. -/
structure IsPart (l : List Char) : Prop where
  trimmed : trim l = l
  nonempty : l ≠ []

lemma isPart_trim {l : List Char} (h : trim l ≠ []) : IsPart (trim l) :=
  ⟨Text.trim_trim l, h⟩

/-- A resource type that some text names. Only the last part may have slashes. -/
structure IsNamed (t : ResourceType) : Prop where
  group : IsPart t.group.toList
  version : IsPart t.version.toList
  resource : IsPart t.resource.toList
  group_free : '/' ∉ t.group.toList
  version_free : '/' ∉ t.version.toList

variable {s : String} {t u : ResourceType}

lemma parse_eq_ok_iff :
    parse s = .ok t ↔ ∃ group version resource,
      s.toList = group ++ '/' :: (version ++ '/' :: resource) ∧ '/' ∉ group ∧ '/' ∉ version ∧
      (trim group ≠ [] ∧ trim version ≠ [] ∧ trim resource ≠ []) ∧
      t = ⟨.ofList (trim group), .ofList (trim version), .ofList (trim resource)⟩ := by
  rw [parse]
  constructor
  · cases cuts : segments? s.toList with
    | none =>
      intro h
      cases h
    | some parts =>
      obtain ⟨group, version, resource⟩ := parts
      obtain ⟨text, group_free, version_free⟩ := segments?_eq_some_iff.mp cuts
      intro h
      dsimp only at h
      split at h
      · cases h
      · cases h
      · cases h
      · rename_i hg hv hr
        cases h
        exact ⟨group, version, resource, text, group_free, version_free, ⟨hg, hv, hr⟩, rfl⟩
  · rintro ⟨group, version, resource, text, group_free, version_free, ⟨hg, hv, hr⟩, rfl⟩
    rw [segments?_eq_some_iff.mpr ⟨text, group_free, version_free⟩]
    dsimp only
    split
    · contradiction
    · contradiction
    · contradiction
    · rfl

/-- What a text names has parts without blanks around them. -/
lemma isNamed_of_parse (h : parse s = .ok t) : t.IsNamed := by
  obtain ⟨group, version, resource, -, group_free, version_free, ⟨hg, hv, hr⟩, rfl⟩ :=
    parse_eq_ok_iff.mp h
  constructor
  all_goals simp only [String.toList_ofList]
  · exact isPart_trim hg
  · exact isPart_trim hv
  · exact isPart_trim hr
  · exact fun h => group_free (Text.mem_of_mem_trim h)
  · exact fun h => version_free (Text.mem_of_mem_trim h)

lemma toList_display (t : ResourceType) :
    t.display.toList = t.group.toList ++ '/' :: (t.version.toList ++ '/' :: t.resource.toList) := by
  simp [display]

/-- A resource type is read from its display form. -/
lemma IsNamed.parse_display (h : t.IsNamed) : parse t.display = .ok t := by
  refine parse_eq_ok_iff.mpr ⟨_, _, _, t.toList_display, h.group_free, h.version_free, ?_, ?_⟩
  · rw [h.group.trimmed, h.version.trimmed, h.resource.trimmed]
    exact ⟨h.group.nonempty, h.version.nonempty, h.resource.nonempty⟩
  · rw [h.group.trimmed, h.version.trimmed, h.resource.trimmed]
    simp

/-- Resource types that texts name differ in their display forms if they differ at all. -/
lemma IsNamed.eq_of_display (h : t.IsNamed) (h' : u.IsNamed) (same : t.display = u.display) :
    t = u := by
  have read := h.parse_display
  rw [same, h'.parse_display] at read
  exact (Except.ok.inj read).symm

/-- The entries of a comma-separated list: its pieces that are not blank, each of them trimmed. -/
def entries (raw : String) : List String :=
  (((raw.toList.splitOn ',').map trim).filter fun piece => !piece.isEmpty).map String.ofList

/-- The display forms with commas between them. -/
def joined (l : List ResourceType) : String := ",".intercalate (l.map display)

lemma commaList_eq_entries (raw : String) : Text.commaList raw = entries raw :=
  Text.commaList_eq raw

/-- An entry has no comma, and neither has the display form of what it names. -/
lemma comma_notMem_display {raw entry : String} (listed : entry ∈ entries raw)
    (h : parse entry = .ok t) : ',' ∉ t.display.toList := by
  obtain ⟨trimmed, kept, rfl⟩ := List.mem_map.mp listed
  obtain ⟨piece, split, rfl⟩ := List.mem_map.mp (List.mem_filter.mp kept).1
  have free : ',' ∉ trim piece :=
    fun comma => Text.notMem_of_mem_splitOn split (Text.mem_of_mem_trim comma)
  obtain ⟨group, version, resource, text, -, -, -, rfl⟩ := parse_eq_ok_iff.mp h
  rw [String.toList_ofList] at text
  rw [text] at free
  rw [toList_display]
  simp only [String.toList_ofList, List.mem_append, List.mem_cons, not_or] at free ⊢
  obtain ⟨group_free, slash, version_free, -, resource_free⟩ := free
  exact ⟨mt Text.mem_of_mem_trim group_free, slash, mt Text.mem_of_mem_trim version_free, slash,
    mt Text.mem_of_mem_trim resource_free⟩

lemma IsNamed.trim_display (h : t.IsNamed) : trim t.display.toList = t.display.toList := by
  have whole : t.display.toList =
      t.group.toList ++ '/' :: (t.version.toList ++ ['/']) ++ t.resource.toList := by
    rw [toList_display]
    simp
  rw [whole]
  exact Text.trim_append_append h.group.trimmed h.resource.trimmed h.group.nonempty
    h.resource.nonempty

/-- The entries of joined display forms are the display forms. -/
lemma entries_joined {l : List ResourceType} (named : ∀ t ∈ l, t.IsNamed)
    (free : ∀ t ∈ l, ',' ∉ t.display.toList) : entries (joined l) = l.map display := by
  by_cases empty : l = []
  · subst empty
    decide +kernel
  have pieces : (joined l).toList.splitOn ',' = l.map fun t => t.display.toList := by
    have texts : (joined l).toList = [','].intercalate (l.map fun t => t.display.toList) := by
      rw [joined, String.toList_intercalate, List.map_map]
      rfl
    rw [texts]
    refine List.splitOn_intercalate ',' ?_ (by simpa using empty)
    simpa using free
  have trims : (l.map fun t => t.display.toList).map trim = l.map fun t => t.display.toList := by
    rw [List.map_map]
    exact List.map_congr_left fun t ht => (named t ht).trim_display
  have whole : (l.map fun t => t.display.toList).filter (fun piece => !piece.isEmpty) =
      l.map fun t => t.display.toList := by
    refine List.filter_eq_self.mpr fun piece hp => ?_
    obtain ⟨t, -, rfl⟩ := List.mem_map.mp hp
    simp [toList_display]
  rw [entries, pieces, trims, whole, List.map_map]
  exact List.map_congr_left fun t _ => String.ofList_toList

/-- A list holds what its entries name, each once. -/
lemma parseList_eq_ok_iff {raw : String} {l : List ResourceType} :
    parseList raw = .ok l ↔ ∃ parsed, parsed ≠ [] ∧ (entries raw).map parse = parsed.map .ok ∧
      l = parsed.eraseDups := by
  rw [parseList, commaList_eq_entries]
  cases listed : entries raw with
  | nil =>
    constructor
    · nofun
    · rintro ⟨parsed, nonempty, none, -⟩
      exact absurd (List.map_eq_nil_iff.mp none.symm) nonempty
  | cons entry more =>
    dsimp only
    rw [← listed]
    constructor
    · intro h
      cases read : (entries raw).mapM parse with
      | error e =>
        rw [read] at h
        cases h
      | ok parsed =>
        rw [read] at h
        cases h
        have all := mapM_eq_ok_iff.mp read
        refine ⟨parsed, ?_, all, rfl⟩
        rintro rfl
        rw [listed] at all
        cases all
    · rintro ⟨parsed, -, all, rfl⟩
      rw [mapM_eq_ok_iff.mpr all]
      rfl

/-- A list is refused if it has no entry, or for the first of its entries that names nothing. -/
lemma parseList_eq_error_iff {raw : String} {e : Error} :
    parseList raw = .error e ↔ entries raw = [] ∧ e = .emptyList ∨
      ∃ before entry after, entries raw = before ++ entry :: after ∧
        (∀ b ∈ before, ∃ t, parse b = .ok t) ∧ parse entry = .error e := by
  rw [← mapM_eq_error_iff, parseList, commaList_eq_entries]
  cases listed : entries raw with
  | nil =>
    constructor
    · rintro ⟨⟩
      exact Or.inl ⟨rfl, rfl⟩
    · rintro (⟨-, rfl⟩ | none)
      · rfl
      · cases none
  | cons entry more =>
    dsimp only
    cases (entry :: more).mapM parse <;> simp [Except.map]

/-- What was read from a list can be read again from the display forms of its members. -/
lemma parseList_joined {raw : String} {l : List ResourceType} (h : parseList raw = .ok l) :
    parseList (joined l) = .ok l := by
  obtain ⟨parsed, nonempty, read, rfl⟩ := parseList_eq_ok_iff.mp h
  have source : ∀ t ∈ parsed.eraseDups, ∃ entry ∈ entries raw, parse entry = .ok t := by
    intro t ht
    have read_t : Except.ok t ∈ (entries raw).map parse := by
      rw [read]
      exact List.mem_map_of_mem (List.mem_eraseDups.mp ht)
    exact List.mem_map.mp read_t
  have named : ∀ t ∈ parsed.eraseDups, t.IsNamed := fun t ht =>
    let ⟨_, _, ht⟩ := source t ht
    isNamed_of_parse ht
  have free : ∀ t ∈ parsed.eraseDups, ',' ∉ t.display.toList := fun t ht =>
    let ⟨_, listed, ht⟩ := source t ht
    comma_notMem_display listed ht
  refine parseList_eq_ok_iff.mpr ⟨parsed.eraseDups, eraseDups_ne_nil nonempty, ?_, ?_⟩
  · rw [entries_joined named free, List.map_map]
    exact List.map_congr_left fun t ht => (named t ht).parse_display
  · exact (eraseDups_of_nodup (nodup_eraseDups parsed)).symm

/-- A list that was read is not empty, has nothing twice, and is read again from the display forms of its
members with commas between them. It holds what the entries name, in the order in which they first name
it. Resource types that were read have different display forms if they differ. A list is refused if it
has no entry, or for the first of its entries that names nothing. -/
theorem lists_read_back :
    (∀ raw l, parseList raw = .ok l →
      l ≠ [] ∧ l.Nodup ∧ parseList (joined l) = .ok l ∧
        ∃ parsed : List ResourceType, (entries raw).map parse = parsed.map .ok ∧
          (∀ t, t ∈ l ↔ t ∈ parsed) ∧ l.Pairwise fun t u => parsed.idxOf t < parsed.idxOf u) ∧
    (∀ s s' t t', parse s = .ok t → parse s' = .ok t' → t.display = t'.display → t = t') ∧
    ∀ raw e, parseList raw = .error e ↔ entries raw = [] ∧ e = .emptyList ∨
      ∃ before entry after, entries raw = before ++ entry :: after ∧
        (∀ b ∈ before, ∃ t, parse b = .ok t) ∧ parse entry = .error e := by
  refine ⟨fun raw l h => ?_, fun s s' t t' h h' => ?_, fun raw e => parseList_eq_error_iff⟩
  · have again := parseList_joined h
    obtain ⟨parsed, nonempty, read, rfl⟩ := parseList_eq_ok_iff.mp h
    exact ⟨eraseDups_ne_nil nonempty, nodup_eraseDups parsed, again, parsed, read,
      fun t => List.mem_eraseDups, pairwise_eraseDups parsed⟩
  · exact (isNamed_of_parse h).eq_of_display (isNamed_of_parse h')

/-- A list with blanks, a blank entry, an entry that comes twice, and one whose name has a blank and a
slash. -/
theorem repeated_entry_listed_once :
    let raw := " g/v1/b ,, g / v1 /a b/c,g/v1/b"
    let l : List ResourceType := [⟨"g", "v1", "b"⟩, ⟨"g", "v1", "a b/c"⟩]
    parseList raw = .ok l ∧ joined l = "g/v1/b,g/v1/a b/c" ∧ parseList (joined l) = .ok l ∧
      parse "g/v1/b" = .ok ⟨"g", "v1", "b"⟩ ∧
      ∀ s t, parse s = .ok t → t.display = "g/v1/b" → t = ⟨"g", "v1", "b"⟩ := by
  intro raw l
  have read : parseList raw = .ok l := by decide +kernel
  have first : parse "g/v1/b" = .ok ⟨"g", "v1", "b"⟩ := by decide +kernel
  refine ⟨read, by decide +kernel, (lists_read_back.1 raw l read).2.2.1, first, ?_⟩
  intro s t h same
  exact lists_read_back.2.1 s "g/v1/b" t _ h first (same.trans (by decide +kernel))

end ResourceType

end ClaimTracker
