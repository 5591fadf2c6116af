import ClaimTracker.Proofs.Registry.Log
import ClaimTracker.Registry.Feed

/-!
# What a feed brings to its registry

No event is lost, none is followed twice, and none overtakes another: what has been followed and what
is waiting are together what has been sent. So a registry behind a feed always shows what a front part
of the events sent has left, and all of them as soon as nothing is waiting.
-/

namespace ClaimTracker.Feed

open ClaimTracker.Registry (Reflects after)

def Step.event? : Step → Option ConfigEvent
  | .send e => some e
  | .deliver | .hangUp => none

def sent (steps : List Step) : List ConfigEvent :=
  steps.filterMap Step.event?

lemma sent_cons (s : Step) (steps : List Step) : sent (s :: steps) = s.event?.toList ++ sent steps := by
  cases s <;> rfl

/-- A feed for a registry that has followed nothing. -/
def fresh (defaults : RecordKeys) (capacity : Nat) : Feed where
  registry := { defaults }
  capacity

/-- Of the events sent the registry has followed some, and the others are waiting. It is closed only
when nothing is waiting and no sender is left. -/
structure Carries (defaults : RecordKeys) (sent followed : List ConfigEvent) (f : Feed) : Prop where
  conserved : sent = followed ++ f.waiting
  registry : f.registry = { after defaults followed with closed := f.registry.closed }
  closed : f.registry.closed = true → f.waiting = [] ∧ f.served = false

lemma carries_fresh (defaults : RecordKeys) (capacity : Nat) :
    Carries defaults [] [] (fresh defaults capacity) where
  conserved := rfl
  registry := rfl
  closed := nofun

section Carries

variable {defaults : RecordKeys} {sent followed : List ConfigEvent} {f g : Feed}

lemma Carries.reflects (h : Carries defaults sent followed f) :
    Reflects defaults followed f.registry := by
  obtain ⟨published, nodup, length, synced⟩ := Registry.reflects_after defaults followed
  rw [h.registry]
  exact ⟨published, nodup, length, synced⟩

/-- Following the oldest event that is waiting. -/
lemma Carries.deliver (h : Carries defaults sent followed f) {e : ConfigEvent}
    {waiting : List ConfigEvent} (oldest : f.waiting = e :: waiting) :
    ∃ g, f.step? .deliver = some g ∧ g.waiting = waiting ∧
      Carries defaults sent (followed ++ [e]) g := by
  have opened : f.registry.closed = false := by
    refine Bool.eq_false_iff.mpr fun closed => ?_
    rw [(h.closed closed).1] at oldest
    cases oldest
  refine ⟨{ f with registry := f.registry.receive e, waiting }, by rw [step?, oldest], rfl, ?_⟩
  constructor
  · rw [h.conserved, oldest, List.append_assoc]
    rfl
  · have kept : f.registry = after defaults followed := by
      rw [h.registry, opened]
      exact congrArg (fun b => { after defaults followed with closed := b })
        (Registry.after_eq defaults followed).2.2.2.2.symm
    have received : f.registry.receive e = after defaults (followed ++ [e]) := by
      rw [Registry.receive, opened, Registry.after_append_singleton, kept]
      rfl
    rw [received]
  · intro closed
    rw [Registry.receive, opened] at closed
    exact absurd closed (by rw [if_neg Bool.false_ne_true, Registry.apply_eq, opened]; nofun)

lemma Carries.step (h : Carries defaults sent followed f) {s : Step} (taken : f.step? s = some g) :
    ∃ more, Carries defaults (sent ++ s.event?.toList) more g := by
  cases s with
  | send e =>
    simp only [step?, Option.ite_none_right_eq_some, Bool.and_eq_true] at taken
    obtain ⟨⟨served, -⟩, heq⟩ := taken
    cases heq
    refine ⟨followed, ?_, h.registry, fun closed => ?_⟩
    · rw [h.conserved, List.append_assoc]
      rfl
    · -- A closed registry has no sender left, so there was nobody to send the event.
      rw [(h.closed closed).2] at served
      cases served
  | deliver =>
    rw [Step.event?, Option.toList_none, List.append_nil]
    cases oldest : f.waiting with
    | cons e waiting =>
      obtain ⟨g', followed', -, carries⟩ := h.deliver oldest
      rw [taken] at followed'
      cases followed'
      exact ⟨_, carries⟩
    | nil =>
      rw [step?, oldest] at taken
      simp only [Option.ite_none_left_eq_some] at taken
      obtain ⟨left, heq⟩ := taken
      cases heq
      refine ⟨followed, by rw [h.conserved, oldest], ?_, fun _ => ⟨rfl, Bool.eq_false_iff.mpr left⟩⟩
      rw [h.registry]
      rfl
  | hangUp =>
    cases taken
    refine ⟨followed, ?_, h.registry, fun closed => ⟨(h.closed closed).1, rfl⟩⟩
    rw [h.conserved]
    exact List.append_nil _

lemma Carries.run (h : Carries defaults sent followed f) {steps : List Step}
    (taken : f.run? steps = some g) :
    ∃ more, Carries defaults (sent ++ Feed.sent steps) more g := by
  induction steps generalizing sent followed f with
  | nil =>
    cases taken
    exact ⟨followed, by rwa [Feed.sent, List.filterMap_nil, List.append_nil]⟩
  | cons s steps ih =>
    rw [run?, List.foldlM_cons] at taken
    obtain ⟨f', first, rest⟩ := Option.bind_eq_some_iff.mp taken
    obtain ⟨more, carries⟩ := h.step first
    obtain ⟨all, carries⟩ := ih carries rest
    refine ⟨all, ?_⟩
    rw [List.append_assoc] at carries
    rwa [sent_cons]

/-- Delivering as often as there are events waiting leaves none. -/
lemma Carries.drain (h : Carries defaults sent followed f) :
    ∃ g, f.run? (List.replicate f.waiting.length .deliver) = some g ∧ g.waiting = [] ∧
      Carries defaults sent sent g := by
  induction hw : f.waiting generalizing followed f with
  | nil =>
    refine ⟨f, rfl, hw, ?_⟩
    have all : sent = followed := by rw [h.conserved, hw, List.append_nil]
    rwa [← all] at h
  | cons e waiting ih =>
    obtain ⟨f', first, rest, carries⟩ := h.deliver hw
    obtain ⟨g, run, empty, carries⟩ := ih carries rest
    refine ⟨g, ?_, empty, carries⟩
    rw [List.length_cons, List.replicate_succ, run?, List.foldlM_cons, first]
    exact run

end Carries

/-- A registry shows under each key what the last event that concerns the key has left, whether it is
given the events directly or by a feed. By a feed it has been given a front part of what has been sent,
and is given the rest by as many deliveries as there are events waiting. -/
theorem registry_reflects_log (defaults : RecordKeys) :
    (∀ log, Reflects defaults log (after defaults log)) ∧
    ∀ capacity steps f, (fresh defaults capacity).run? steps = some f →
      (∃ followed, sent steps = followed ++ f.waiting ∧ Reflects defaults followed f.registry) ∧
      ∃ g, f.run? (List.replicate f.waiting.length .deliver) = some g ∧ g.waiting = [] ∧
        Reflects defaults (sent steps) g.registry := by
  refine ⟨Registry.reflects_after defaults, fun capacity steps f run => ?_⟩
  obtain ⟨followed, carries⟩ := (carries_fresh defaults capacity).run run
  rw [List.nil_append] at carries
  obtain ⟨g, drained, empty, all⟩ := carries.drain
  exact ⟨⟨followed, carries.conserved, carries.reflects⟩, g, drained, empty, all.reflects⟩

/-- Keys that configurations leave out. -/
def sampleDefaults : RecordKeys := ⟨none, some "example.org/team", RecordKeys.defaultComposition⟩

/-- A full listing that has one config map twice, and another whose data declare nothing. -/
def sampleListing : List ConfigMap :=
  [⟨"team-a", "types", [("CLAIM_GVRS", "g/v1/widgets")]⟩, ⟨"team-b", "types", []⟩,
    ⟨"team-a", "types", [("XR_GVRS", "g/v1/xwidgets, g/v1/xgadgets")]⟩]

/-- What the config map that is listed twice declares in the end. -/
def sampleConfig : NamespaceConfig where
  ns := "team-a"
  configMap := "types"
  claimTypes := []
  compositeTypes := [⟨"g", "v1", "xwidgets"⟩, ⟨"g", "v1", "xgadgets"⟩]
  creatorKey := none
  teamKey := some "example.org/team"

/-- The configuration of a listed config map is seen until its data have become invalid and the event
about it has been followed. -/
theorem invalid_update_removes :
    let update : ConfigEvent := .applied ⟨"team-a", "types", [("CLAIM_GVRS", "widgets")]⟩
    let steps : List Step := [.send (.restarted sampleListing), .deliver, .send update, .hangUp]
    ∃ f, (fresh sampleDefaults 1).run? steps = some f ∧ f.waiting = [update] ∧
      sampleConfig ∈ f.registry.view.configs ∧
      ∃ g, f.run? [.deliver] = some g ∧
        ∀ config ∈ g.registry.view.configs, config.key ≠ "team-a/types" := by
  intro update steps
  obtain ⟨f, run⟩ : ∃ f, (fresh sampleDefaults 1).run? steps = some f := ⟨_, rfl⟩
  have waiting : f.waiting = [update] := by
    cases run
    rfl
  obtain ⟨⟨followed, conserved, shown⟩, g, delivered, -, left⟩ :=
    (registry_reflects_log sampleDefaults).2 1 steps f run
  rw [waiting] at conserved delivered
  obtain rfl : [.restarted sampleListing] = followed := List.append_cancel_right conserved
  have declares : ConfigMap.Declares sampleDefaults "team-a/types"
      ⟨"team-a", "types", [("XR_GVRS", "g/v1/xwidgets, g/v1/xgadgets")]⟩ sampleConfig := by
    constructor
    · decide
    · decide +kernel
  have listed : ConfigEvent.LeftBy sampleDefaults [.restarted sampleListing] "team-a/types"
      sampleConfig :=
    ⟨[], .restarted sampleListing, [], rfl,
      ⟨sampleListing.take 2, _, [], rfl, declares, nofun⟩, nofun⟩
  refine ⟨f, run, waiting, ((shown.published _ _).mpr listed).1, g, delivered, ?_⟩
  intro config seen heq
  -- The update is the last event that concerns the key, and declares nothing.
  have refused : ConfigMap.config ⟨"team-a", "types", [("CLAIM_GVRS", "widgets")]⟩ sampleDefaults =
      .error (.badField .claims "team-a" "types" (.tooFewSegments "widgets")) := by
    decide +kernel
  have last : ConfigEvent.LeftBy sampleDefaults [.restarted sampleListing, update] "team-a/types"
      config := (left.published _ config).mp ⟨seen, heq⟩
  rcases lastLeaves_cons.mp last with later | ⟨-, none⟩
  · rcases lastLeaves_cons.mp later with ⟨before, _, _, heq, -⟩ | ⟨⟨-, declared⟩, -⟩
    · simp at heq
    · rw [refused] at declared
      cases declared
  · exact none update (List.mem_singleton_self _) declares.1

end ClaimTracker.Feed
