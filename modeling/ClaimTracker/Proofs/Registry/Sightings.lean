import ClaimTracker.Proofs.Registry.Feed

/-!
# What readers see between the writes

A full listing changes what readers see twice: first there has been a full listing, and then the list
is a new one. So there is one moment, between the two writes of the first full listing, at which a reader
is told that there has been a full listing and still sees the list of before. At any other moment from
then on the list has been made after a full listing was followed.
-/

namespace ClaimTracker

/-- A change that readers see, and the events up to the one that makes it. -/
structure RegistryChange where
  followed : List ConfigEvent
  write : RegistryWrite

/-- What readers see, and the events of which the list that they see has been made. -/
structure Sighting where
  view : RegistryView := {}
  followed : List ConfigEvent := []

def Sighting.next (s : Sighting) (c : RegistryChange) : Sighting :=
  match c.write with
  | .sync => { s with view := s.view.write .sync }
  | .publish configs => ⟨s.view.write (.publish configs), c.followed⟩

def ConfigEvent.isFull : ConfigEvent → Bool
  | .restarted _ => true
  | .applied _ | .deleted _ => false

namespace Registry

/-- The changes that an event makes after others have been followed. -/
def changes (defaults : RecordKeys) (followed : List ConfigEvent) (e : ConfigEvent) :
    List RegistryChange :=
  (writes (after defaults (followed ++ [e])).configs e).map (⟨followed ++ [e], ·⟩)

/-- The changes that events make one after the other after others have been followed. -/
def trace (defaults : RecordKeys) (followed : List ConfigEvent) :
    List ConfigEvent → List RegistryChange
  | [] => []
  | e :: rest => changes defaults followed e ++ trace defaults (followed ++ [e]) rest

/-- What readers see after the first `t` changes that a log of events makes. -/
def sighting (defaults : RecordKeys) (log : List ConfigEvent) (t : Nat) : Sighting :=
  ((trace defaults [] log).take t).foldl Sighting.next {}

variable {defaults : RecordKeys} {log more : List ConfigEvent} {e : ConfigEvent} {t : Nat}

lemma trace_append (defaults : RecordKeys) (followed log more : List ConfigEvent) :
    trace defaults followed (log ++ more) =
      trace defaults followed log ++ trace defaults (followed ++ log) more := by
  induction log generalizing followed with
  | nil => simp [trace]
  | cons e log ih => simp [trace, ih]

lemma trace_append_singleton (defaults : RecordKeys) (log : List ConfigEvent) (e : ConfigEvent) :
    trace defaults [] (log ++ [e]) = trace defaults [] log ++ changes defaults log e := by
  rw [trace_append, List.nil_append, trace, trace, List.append_nil]

/-- What comes later does not change what has been seen. -/
lemma sighting_append (h : t ≤ (trace defaults [] log).length) :
    sighting defaults (log ++ more) t = sighting defaults log t := by
  rw [sighting, trace_append, List.take_append_of_le_length h, sighting]

/-- Without full listings every event makes one change. -/
lemma length_trace (h : ∀ e ∈ log, e.isFull = false) (followed : List ConfigEvent) :
    (trace defaults followed log).length = log.length := by
  induction log generalizing followed with
  | nil => rfl
  | cons e log ih =>
    rw [List.forall_mem_cons] at h
    rw [trace, List.length_append, ih h.2]
    cases e with
    | restarted l => cases h.1
    | applied c | deleted c => simp [changes, writes]; omega

/-- After all changes that an event makes readers see what the registry shows. -/
lemma foldl_changes (defaults : RecordKeys) (log : List ConfigEvent) (e : ConfigEvent) :
    (changes defaults log e).foldl Sighting.next ⟨(after defaults log).view, log⟩ =
      ⟨(after defaults (log ++ [e])).view, log ++ [e]⟩ := by
  rw [after_append_singleton]
  cases e with
  | applied c | deleted c | restarted l =>
    simp [changes, writes, Sighting.next, apply, after_append_singleton]

/-- After all changes readers see what the registry shows. -/
lemma sighting_of_le (h : (trace defaults [] log).length ≤ t) :
    sighting defaults log t = ⟨(after defaults log).view, log⟩ := by
  rw [sighting, List.take_of_length_le h]
  clear h
  induction log using List.reverseRecOn with
  | nil => rfl
  | append_singleton log e ih =>
    rw [trace_append_singleton, List.foldl_append, ih]
    exact foldl_changes defaults log e

/-- Between the two changes of a full listing only the flag has changed. -/
lemma sighting_between (defaults : RecordKeys) (log : List ConfigEvent) (h : e.isFull = true) :
    sighting defaults (log ++ [e]) ((trace defaults [] log).length + 1) =
      ⟨{ (after defaults log).view with synced := true }, log⟩ := by
  cases e with
  | restarted l =>
    rw [sighting, trace_append_singleton, List.take_length_add_append, List.foldl_append,
      ← List.take_length (l := trace defaults [] log), ← sighting, sighting_of_le (Nat.le_refl _)]
    rfl
  | applied c | deleted c => cases h

/-- After an event readers see all of it, unless they come between the two changes of a full listing. -/
lemma sighting_of_lt (h : (trace defaults [] log).length < t) :
    sighting defaults (log ++ [e]) t = ⟨(after defaults (log ++ [e])).view, log ++ [e]⟩ ∨
      e.isFull = true ∧ t = (trace defaults [] log).length + 1 := by
  by_cases between : e.isFull = true ∧ t = (trace defaults [] log).length + 1
  · exact Or.inr between
  · refine Or.inl (sighting_of_le ?_)
    rw [trace_append_singleton, List.length_append]
    cases e with
    | restarted l =>
      have later : t ≠ (trace defaults [] log).length + 1 := fun heq => between ⟨rfl, heq⟩
      simp only [changes, writes, List.map_cons, List.map_nil, List.length_cons, List.length_nil]
      omega
    | applied c | deleted c => exact h

/-- The list seen is what a front part of the events has left. -/
lemma front_followed (defaults : RecordKeys) (log : List ConfigEvent) (t : Nat) :
    (sighting defaults log t).followed <+: log ∧ (sighting defaults log t).view.configs =
      (after defaults (sighting defaults log t).followed).view.configs := by
  induction log using List.reverseRecOn with
  | nil =>
    rw [sighting_of_le (Nat.zero_le t)]
    exact ⟨List.prefix_refl [], rfl⟩
  | append_singleton log e ih =>
    by_cases early : t ≤ (trace defaults [] log).length
    · rw [sighting_append early]
      exact ⟨ih.1.trans (List.prefix_append log [e]), ih.2⟩
    · rcases sighting_of_lt (e := e) (Nat.lt_of_not_le early) with all | ⟨full, rfl⟩
      · rw [all]
        exact ⟨List.prefix_refl _, rfl⟩
      · rw [sighting_between defaults log full]
        exact ⟨List.prefix_append log [e], rfl⟩

/-- Once all changes of some events have been made, the list is made of them and perhaps more. -/
lemma prefix_followed (h : (trace defaults [] log).length ≤ t) (more : List ConfigEvent) :
    log <+: (sighting defaults (log ++ more) t).followed := by
  induction more using List.reverseRecOn with
  | nil =>
    have seen : (sighting defaults (log ++ []) t).followed = log := by
      rw [List.append_nil, sighting_of_le h]
    exact seen.symm ▸ List.prefix_refl log
  | append_singleton more e ih =>
    rw [← List.append_assoc]
    by_cases early : t ≤ (trace defaults [] (log ++ more)).length
    · rwa [sighting_append early]
    · rcases sighting_of_lt (e := e) (Nat.lt_of_not_le early) with all | ⟨full, rfl⟩
      · rw [all, List.append_assoc]
        exact List.prefix_append log _
      · rw [sighting_between defaults _ full]
        exact List.prefix_append log more

/-- As long as there has been no full listing, no reader is told that there has been one. -/
lemma synced_eq_false (h : ∀ e ∈ log, e.isFull = false) (t : Nat) :
    (sighting defaults log t).view.synced = false := by
  have never : ∀ l, (∀ e ∈ l, ConfigEvent.isFull e = false) →
      (after defaults l).view.synced = false := by
    intro l h
    refine Bool.eq_false_iff.mpr fun synced => ?_
    obtain ⟨_, hl⟩ := (after_eq defaults l).2.2.2.1.mp synced
    cases h _ hl
  induction log using List.reverseRecOn with
  | nil =>
    rw [sighting_of_le (Nat.zero_le t)]
    rfl
  | append_singleton log e ih =>
    by_cases early : t ≤ (trace defaults [] log).length
    · rw [sighting_append early]
      exact ih fun d hd => h d (List.mem_append_left [e] hd)
    · rcases sighting_of_lt (e := e) (Nat.lt_of_not_le early) with all | ⟨full, -⟩
      · rw [all]
        exact never _ h
      · rw [h e (List.mem_append_right log (List.mem_singleton_self e))] at full
        cases full

/-- The first full listing of a log. -/
lemma exists_first (h : ∃ e ∈ log, e.isFull = true) :
    ∃ before e behind, log = before ++ e :: behind ∧ e.isFull = true ∧
      (∀ d ∈ before, d.isFull = false) ∧ log.findIdx ConfigEvent.isFull = before.length := by
  cases found : log.find? ConfigEvent.isFull with
  | none =>
    obtain ⟨e, he, full⟩ := h
    exact absurd full (List.find?_eq_none.mp found e he)
  | some e =>
    obtain ⟨full, before, behind, rfl, rest⟩ := List.find?_eq_some_iff_append.mp found
    have none : ∀ d ∈ before, d.isFull = false := by
      intro d hd
      simpa using rest d hd
    refine ⟨before, e, behind, rfl, full, none, ?_⟩
    rw [List.findIdx_append, List.findIdx_eq_length.mpr none]
    simp [List.findIdx_cons, full]

lemma exists_full_iff : (∃ e ∈ log, e.isFull = true) ↔ ∃ l, .restarted l ∈ log := by
  constructor
  · rintro ⟨e, he, full⟩
    cases e with
    | restarted l => exact ⟨l, he⟩
    | applied c | deleted c => cases full
  · rintro ⟨l, hl⟩
    exact ⟨_, hl, rfl⟩

section First

variable {before behind : List ConfigEvent}

/-- The events up to the first full listing make one change each, and the listing makes two. -/
lemma length_trace_first (defaults : RecordKeys) (full : e.isFull = true)
    (quiet : ∀ d ∈ before, d.isFull = false) :
    (trace defaults [] (before ++ [e])).length = before.length + 2 := by
  rw [trace_append_singleton, List.length_append, length_trace quiet]
  cases e with
  | restarted l => rfl
  | applied c | deleted c => cases full

/-- Right after the first write of the first full listing readers see the list of before. -/
lemma sighting_first (full : e.isFull = true) (quiet : ∀ d ∈ before, d.isFull = false) :
    sighting defaults (before ++ e :: behind) (before.length + 1) =
      ⟨⟨(after defaults before).view.configs, true⟩, before⟩ := by
  have between := sighting_between defaults before full
  have all := length_trace_first defaults full quiet
  rw [length_trace quiet] at between
  rw [← List.singleton_append, ← List.append_assoc, sighting_append (by omega), between]

/-- Later the list has been made after that listing. -/
lemma mem_followed (full : e.isFull = true) (quiet : ∀ d ∈ before, d.isFull = false)
    (late : before.length + 2 ≤ t) :
    e ∈ (sighting defaults (before ++ e :: behind) t).followed := by
  have all := length_trace_first defaults full quiet
  have covered := prefix_followed (Nat.le_trans (Nat.le_of_eq all) late) behind
  rw [List.append_assoc, List.singleton_append] at covered
  exact covered.subset (List.mem_append_right before (List.mem_singleton_self e))

/-- Earlier no reader is told that there has been a full listing. -/
lemma lt_of_synced (quiet : ∀ d ∈ before, d.isFull = false)
    (synced : (sighting defaults (before ++ e :: behind) t).view.synced = true) :
    before.length < t := by
  refine Nat.lt_of_not_le fun early => ?_
  rw [sighting_append (by rwa [length_trace quiet]), synced_eq_false quiet] at synced
  cases synced

end First

/-- The list that readers see is always what a front part of the events has left, and in the end all of
them. Once a reader has been told that there has been a full listing, the list has been made after one,
except right after the first write of the first full listing: then it is the list of before. -/
theorem full_listing_seen_iff (defaults : RecordKeys) (log : List ConfigEvent) :
    (∀ t, (sighting defaults log t).followed <+: log ∧ (sighting defaults log t).view.configs =
      (after defaults (sighting defaults log t).followed).view.configs) ∧
    (∀ t, (trace defaults [] log).length ≤ t →
      sighting defaults log t = ⟨(after defaults log).view, log⟩) ∧
    (∀ s t, s ≤ t → (sighting defaults log s).view.synced = true →
      ((∃ l, .restarted l ∈ (sighting defaults log t).followed) ↔
        t ≠ log.findIdx ConfigEvent.isFull + 1)) ∧
    ((∃ l, .restarted l ∈ log) →
      sighting defaults log (log.findIdx ConfigEvent.isFull + 1) =
        ⟨⟨(after defaults (log.take (log.findIdx ConfigEvent.isFull))).view.configs, true⟩,
          log.take (log.findIdx ConfigEvent.isFull)⟩) := by
  refine ⟨front_followed defaults log, fun t => sighting_of_le, fun s t hst synced => ?_, ?_⟩
  · by_cases listed : ∃ e ∈ log, e.isFull = true
    · obtain ⟨before, e, behind, rfl, full, quiet, index⟩ := exists_first listed
      have late := lt_of_synced quiet synced
      rw [index, ← exists_full_iff]
      by_cases between : t = before.length + 1
      · -- The list is still that of the events before, none of which is a full listing.
        rw [between, sighting_first full quiet]
        constructor
        · rintro ⟨d, hd, full⟩
          rw [quiet d hd] at full
          cases full
        · exact fun other => absurd rfl other
      · constructor
        · exact fun _ => between
        · exact fun _ => ⟨e, mem_followed full quiet (by omega), full⟩
    · have quiet : ∀ e ∈ log, e.isFull = false := by
        intro e he
        exact Bool.eq_false_iff.mpr fun full => listed ⟨e, he, full⟩
      rw [synced_eq_false quiet] at synced
      cases synced
  · intro listed
    obtain ⟨before, e, behind, rfl, full, quiet, index⟩ := exists_first (exists_full_iff.mpr listed)
    rw [index, sighting_first full quiet, List.take_left]

/-- A reader that waits until there has been a full listing may still see the list of before, which has
nothing of what the listing declares. -/
theorem synced_before_listed :
    let log : List ConfigEvent := [.restarted Feed.sampleListing]
    (sighting Feed.sampleDefaults log 1).view = ⟨[], true⟩ ∧
      Feed.sampleConfig ∈ (sighting Feed.sampleDefaults log 2).view.configs ∧
      ¬ ∀ t, (sighting Feed.sampleDefaults log t).view.synced = true →
        ∃ l, .restarted l ∈ (sighting Feed.sampleDefaults log t).followed := by
  intro log
  have first : sighting Feed.sampleDefaults log 1 = ⟨⟨[], true⟩, []⟩ :=
    sighting_first rfl (List.forall_mem_nil _)
  have last : sighting Feed.sampleDefaults log 2 = ⟨(after Feed.sampleDefaults log).view, log⟩ :=
    sighting_of_le (Nat.le_refl 2)
  have declares : ConfigMap.Declares Feed.sampleDefaults "team-a/types"
      ⟨"team-a", "types", [("XR_GVRS", "g/v1/xwidgets, g/v1/xgadgets")]⟩ Feed.sampleConfig := by
    constructor
    · decide
    · decide +kernel
  have left : ConfigEvent.LeftBy Feed.sampleDefaults log "team-a/types" Feed.sampleConfig :=
    ⟨[], .restarted Feed.sampleListing, [], rfl,
      ⟨Feed.sampleListing.take 2, _, [], rfl, declares, nofun⟩, nofun⟩
  refine ⟨by rw [first], ?_, fun h => ?_⟩
  · rw [last]
    exact (((reflects_after Feed.sampleDefaults log).published _ _).mpr left).1
  · obtain ⟨l, hl⟩ := h 1 (by rw [first])
    rw [first] at hl
    cases hl

end Registry

end ClaimTracker
