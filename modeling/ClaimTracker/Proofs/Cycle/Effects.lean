import ClaimTracker.Proofs.Cycle.Jobs
import ClaimTracker.Proofs.Durable.Persist

/-!
# What a cycle does

Carrying out the actions of a cycle changes the inventory by the replacements among them and then by
enrichment, and by nothing else. The failures in the report are those that the actions tell of, in
their order. What was declared is noted whenever there are namespace configurations, also if
listings have failed.
-/

namespace ClaimTracker

lemma Inventory.replaceAll_append (i : Inventory) (first second : List Inventory.Replacement) :
    i.replaceAll (first ++ second) = (i.replaceAll first).replaceAll second :=
  List.foldl_append

namespace Tracker

variable {σ κ : Type}

@[simp] lemma inventory_modify (w : Tracker σ κ) (f : Inventory → Inventory) :
    (w.modify f).inventory = f w.inventory := by
  cases hs : w.store <;> simp [modify, inventory, Store.modify, Store.inventory, hs]

variable [Keep κ]

@[simp] lemma perform_nil (now : Instant) (w : Tracker σ κ) : w.perform now [] = w := rfl

@[simp] lemma perform_cons (now : Instant) (w : Tracker σ κ) (a : Action σ) (l : List (Action σ)) :
    w.perform now (a :: l) = (w.act now a).perform now l := rfl

lemma perform_append (now : Instant) (w : Tracker σ κ) (l m : List (Action σ)) :
    w.perform now (l ++ m) = (w.perform now l).perform now m :=
  List.foldl_append

lemma inventory_act_of_isPolling {a : Action σ} (h : a.isPolling = true) (now : Instant)
    (w : Tracker σ κ) :
    (w.act now a).inventory = w.inventory.replaceAll a.replacement?.toList := by
  cases a with
  | call c => rfl
  | listFailed f => rfl
  | replaceClaims p items => exact inventory_modify w _
  | replaceComposites p items => exact inventory_modify w _
  | configs n => rfl
  | skip p => rfl
  | remember d => rfl
  | retireClaims p => exact inventory_modify w _
  | retireComposites p => exact inventory_modify w _
  | enrich => cases h
  | publish => cases h
  | persist => cases h
  | finish => cases h

lemma inventory_perform_of_isPolling {l : List (Action σ)} (h : ∀ a ∈ l, a.isPolling = true)
    (now : Instant) (w : Tracker σ κ) :
    (w.perform now l).inventory = w.inventory.replaceAll (l.filterMap Action.replacement?) := by
  induction l generalizing w with
  | nil => rfl
  | cons a l ih =>
    rw [perform_cons, ih fun b hb => h b (List.mem_cons_of_mem a hb),
      inventory_act_of_isPolling (h a List.mem_cons_self), ← Inventory.replaceAll_append]
    cases ha : a.replacement? <;> simp [ha]

/-- What single actions append to a list, actions one after the other append in their order. -/
lemma perform_appends {β : Type} {appended? : Action σ → Option β} {now : Instant}
    (shown : Tracker σ κ → List β)
    (step : ∀ w a, shown (w.act now a) = shown w ++ (appended? a).toList) (w : Tracker σ κ)
    (l : List (Action σ)) : shown (w.perform now l) = shown w ++ l.filterMap appended? := by
  induction l generalizing w with
  | nil => exact (List.append_nil _).symm
  | cons a l ih =>
    rw [perform_cons, ih, step, List.append_assoc]
    cases ha : appended? a <;> simp [ha]

lemma failures_act (now : Instant) (w : Tracker σ κ) (a : Action σ) :
    (w.act now a).report.failures = w.report.failures ++ a.failure?.toList := by
  cases a with
  | listFailed f => rfl
  | persist => exact (persist_failures now w).trans (List.append_nil _).symm
  | call c => exact (List.append_nil _).symm
  | replaceClaims p items => exact (List.append_nil _).symm
  | replaceComposites p items => exact (List.append_nil _).symm
  | configs n => exact (List.append_nil _).symm
  | skip p => exact (List.append_nil _).symm
  | remember d => exact (List.append_nil _).symm
  | retireClaims p => exact (List.append_nil _).symm
  | retireComposites p => exact (List.append_nil _).symm
  | enrich => exact (List.append_nil _).symm
  | publish => exact (List.append_nil _).symm
  | finish => exact (List.append_nil _).symm

lemma failures_perform (now : Instant) (w : Tracker σ κ) (l : List (Action σ)) :
    (w.perform now l).report.failures = w.report.failures ++ l.filterMap Action.failure? :=
  perform_appends (fun w : Tracker σ κ => w.report.failures) (failures_act now) w l

lemma declared_act {a : Action σ} (h : ∀ d, a ≠ .remember d) (now : Instant) (w : Tracker σ κ) :
    (w.act now a).declared = w.declared := by
  cases a with
  | remember d => exact absurd rfl (h d)
  | persist => exact persist_declared now w
  | _ => rfl

lemma declared_perform {l : List (Action σ)} (h : ∀ a ∈ l, ∀ d, a ≠ .remember d) (now : Instant)
    (w : Tracker σ κ) : (w.perform now l).declared = w.declared := by
  induction l generalizing w with
  | nil => rfl
  | cons a l ih =>
    rw [perform_cons, ih fun b hb => h b (List.mem_cons_of_mem a hb),
      declared_act (h a List.mem_cons_self)]

end Tracker

open ClaimTracker.Cycle

namespace Cycle

variable {σ : Type}

def closing (clean : Bool) : List (Action σ) :=
  .publish :: (if clean then [.persist] else []) ++ [.finish]

variable [Listing.Source σ]

lemma actions_eq_closing (settings : Settings) (configs : Option (List NamespaceConfig))
    (before : DeclaredPartitions) (s : σ) :
    actions settings configs before s = polling settings configs before s ++ .enrich ::
      closing ((polling settings configs before s).filterMap Action.failure?).isEmpty := by
  have h : (polling settings configs before s).any isFailure =
      !((polling settings configs before s).filterMap Action.failure?).isEmpty := by
    rw [Bool.eq_iff_iff]
    simp [List.any_eq_true, isFailure_eq, Option.isSome_iff_ne_none]
  rw [actions_eq, h]
  cases ((polling settings configs before s).filterMap Action.failure?).isEmpty <;>
    simp [closing]

end Cycle

namespace Tracker

variable {σ κ : Type} [Keep κ]

lemma inventory_closing (clean : Bool) (now : Instant) (w : Tracker σ κ) :
    (w.perform now (closing clean)).inventory = w.inventory := by
  cases clean with
  | false => rfl
  | true => exact persist_inventory now (w.act now .publish)

variable [Listing.Source σ]

/-- A cycle replaces and then enriches. -/
lemma inventory_poll (settings : Settings) (configs : Option (List NamespaceConfig)) (now : Instant)
    (w : Tracker σ κ) :
    (w.poll settings configs now).inventory =
      (w.inventory.replaceAll
        ((polling settings configs w.declared w.source).filterMap Action.replacement?)).enrich := by
  have polled := inventory_perform_of_isPolling (fun a => isPolling_of_mem_polling (x := a)) now
    w.begin (l := polling settings configs w.declared w.source)
  rw [poll, nextActions, actions_eq_closing, perform_append, perform_cons, inventory_closing]
  exact (inventory_modify _ _).trans (congrArg Inventory.enrich polled)

/-- A cycle reports the failures of its listings. -/
lemma failures_poll (settings : Settings) (configs : Option (List NamespaceConfig)) (now : Instant)
    (w : Tracker σ κ) :
    (w.poll settings configs now).report.failures =
      (polling settings configs w.declared w.source).filterMap Action.failure? := by
  have none_closing : ∀ clean,
      (closing clean : List (Action σ)).filterMap Action.failure? = [] := by
    intro clean
    cases clean <;> rfl
  rw [poll, nextActions, actions_eq_closing, failures_perform, List.filterMap_append,
    List.filterMap_cons_none rfl, none_closing, List.append_nil]
  rfl

/-- A cycle notes what is declared now. -/
lemma declared_poll (settings : Settings) (configs : Option (List NamespaceConfig)) (now : Instant)
    (w : Tracker σ κ) :
    (w.poll settings configs now).declared =
      match configs with
      | none => w.declared
      | some configs => Cycle.declared (plan settings configs) := by
  have after : ∀ clean, ∀ a ∈ (.enrich :: closing clean : List (Action σ)),
      ∀ d, a ≠ .remember d := by
    intro clean a ha d hd
    subst hd
    cases clean <;> simp [closing] at ha
  have listed : ∀ a ∈ listing settings configs w.source, ∀ d, a ≠ .remember d := by
    intro a ha d hd
    subst hd
    rcases mem_listing ha with h | ⟨n, h⟩ | ⟨p, h⟩ <;> cases h
  rw [poll, nextActions, begin, actions_eq_closing, perform_append, declared_perform (after _),
    polling, perform_append]
  cases configs with
  | none => exact declared_perform listed now _
  | some configs =>
    have retiring : ∀ a ∈ (retire settings w.declared (Cycle.declared (plan settings configs)) :
        List (Action σ)), ∀ d, a ≠ .remember d := by
      intro a ha d hd
      subst hd
      simp [retire] at ha
    rw [retirement, perform_cons, declared_perform retiring]
    rfl

end Tracker

end ClaimTracker
