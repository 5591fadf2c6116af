import Mathlib.Order.MinMax
import Std.Data.String.ToNat
import ClaimTracker.Proofs.Listing.Requests
import ClaimTracker.Proofs.Listing.Chain

/-!
# Listings by offset

A source may cut fixed objects into pages of one size and give the offset of the next page as its token.
Its pages form a chain, so all objects are listed, once each and in order, by as many requests as there
are pages, of which there is always one. If pages fail, the listing ends with the first of them. A cluster
at rest is such a source.
-/

namespace ClaimTracker.Listing

variable {σ : Type} [Source σ] {type : ResourceType} {ns : Option String}

/-- The number of pages that objects fill. Without objects there is an empty page. -/
def pageCount (objects size : Nat) : Nat :=
  max 1 ((objects + size - 1) / size)

/-- A page of objects, counted from zero, with the token of the offset after it if there are more. -/
def window (objects : List ClusterObject) (size : Nat) (mark : Nat → String) (k : Nat) : Page where
  items := (objects.drop (k * size)).take size
  next := if (k + 1) * size < objects.length then some (mark ((k + 1) * size)) else none

/-- The page, or the error in its place. -/
def windowOr (objects : List ClusterObject) (size : Nat) (mark : Nat → String)
    (fails : Nat → Option Error) (k : Nat) : Except Error Page :=
  match fails k with
  | some e => .error e
  | none => .ok (window objects size mark k)

/-- The token of a page. The first has none. -/
def tokenOf (size : Nat) (mark : Nat → String) : Nat → Option String
  | 0 => none
  | k + 1 => some (mark ((k + 1) * size))

/-- Whatever has been requested before, a source answers requests for a type in a place with objects
by offset, in pages of a size, or with the error of the page. -/
def Offers (type : ResourceType) (ns : Option String) (objects : List ClusterObject) (size : Nat)
    (mark : Nat → String) (fails : Nat → Option Error) (s : σ) : Prop :=
  ∀ t, Leads s t → ∀ k, k < pageCount objects.length size →
    (request ⟨type, ns, tokenOf size mark k, pageSize⟩ t).result =
      windowOr objects size mark fails k

/-- A page lies before another one if objects come after it. -/
lemma succ_lt_pageCount_iff {objects size k : Nat} (positive : 0 < size) :
    k + 1 < pageCount objects size ↔ (k + 1) * size < objects := by
  rw [pageCount, lt_max_iff, Nat.lt_div_iff_mul_lt positive]
  have add : (k + 2) * size = (k + 1) * size + size := Nat.succ_mul (k + 1) size
  omega

/-- The first pages hold the first objects. -/
lemma flatMap_window (objects : List ClusterObject) (size : Nat) (mark : Nat → String) (k : Nat) :
    ((List.range k).map (window objects size mark)).flatMap Page.items =
      objects.take (k * size) := by
  induction k with
  | zero => simp
  | succ k ih =>
    rw [List.range_succ, List.map_append, List.flatMap_append, ih, Nat.succ_mul, List.take_add]
    simp [window]

variable {objects : List ClusterObject} {size : Nat} {mark : Nat → String}
  {fails : Nat → Option Error} {s : σ}

/-- The pages up to the first that fails, or up to the last one, form a chain. -/
lemma Offers.chain (h : Offers type ns objects size mark fails s) (positive : 0 < size) {m : Nat}
    (within : m < pageCount objects.length size) (passes : ∀ k < m, fails k = none)
    (ends : ∀ page, windowOr objects size mark fails m = .ok page → page.next = none) :
    Chain type ns none s ((List.range m).map (window objects size mark))
      (windowOr objects size mark fails m) := by
  -- From any page on, whatever has led to it; the induction is on the number of pages left.
  have onward : ∀ left k t, k + left = m → Leads s t →
      Chain type ns (tokenOf size mark k) t ((List.range' k left).map (window objects size mark))
        (windowOr objects size mark fails m) := by
    intro left
    induction left with
    | zero =>
      rintro k t rfl leads
      exact .last (h t leads k within) ends
    | succ left ih =>
      intro k t reached leads
      have page : (request ⟨type, ns, tokenOf size mark k, pageSize⟩ t).result =
          .ok (window objects size mark k) := by
        rw [h t leads k (by omega), windowOr, passes k (by omega)]
      have more : (k + 1) * size < objects.length := by
        apply (succ_lt_pageCount_iff positive).mp
        omega
      exact .next page (if_pos more)
        (ih (k + 1) _ (by omega) (leads.trans (leads_request _ t)))
  rw [List.range_eq_range']
  exact onward m 0 s (Nat.zero_add m) .refl

/-- A chain of pages up to one that fails is listed up to this one. -/
lemma Offers.failing (h : Offers type ns objects size mark fails s) (positive : 0 < size) {m : Nat}
    (within : m < pageCount objects.length size) (passes : ∀ k < m, fails k = none) {e : Error}
    (failed : fails m = some e) :
    Chain type ns none s ((List.range m).map (window objects size mark)) (.error e) := by
  have error : windowOr objects size mark fails m = .error e := by
    rw [windowOr, failed]
  have chain := h.chain positive within passes (by simp [error])
  rwa [error] at chain

/-- Where no page fails, the last one leads nowhere, and the pages together hold all objects. -/
lemma Offers.sound (h : Offers type ns objects size mark fails s) (positive : 0 < size)
    (passes : ∀ k < pageCount objects.length size, fails k = none) :
    ∃ m, m + 1 = pageCount objects.length size ∧ objects.length ≤ (m + 1) * size ∧
      Chain type ns none s ((List.range m).map (window objects size mark))
        (.ok (window objects size mark m)) := by
  obtain ⟨m, last⟩ : ∃ m, m + 1 = pageCount objects.length size :=
    ⟨pageCount objects.length size - 1, Nat.sub_add_cancel (le_max_left _ _)⟩
  have covered : ¬ (m + 1) * size < objects.length := by
    rw [← succ_lt_pageCount_iff positive]
    omega
  have ok : windowOr objects size mark fails m = .ok (window objects size mark m) := by
    rw [windowOr, passes m (by omega)]
  have chain := h.chain positive (show m < _ by omega) (fun k hk => passes k (by omega)) (by
    intro page answered
    rw [ok] at answered
    cases answered
    exact if_neg covered)
  rw [ok] at chain
  exact ⟨m, last, Nat.le_of_not_lt covered, chain⟩

/-- A listing that meets the first pages of objects asks for them and for what ends them. -/
lemma Chain.spans_windows {m : Nat} {last : Except Error Page}
    (chain : Chain type ns none s ((List.range m).map (window objects size mark)) last)
    (bounded : m < Source.pageBound s) :
    (all type ns s).Spans type ns none ((List.range m).map (window objects size mark)) last ∧
      (all type ns s).calls.length = m + 1 := by
  have spans : (all type ns s).Spans type ns none _ last := chain.spans_follow (by
    rwa [List.length_map, List.length_range])
  refine ⟨spans, ?_⟩
  rw [spans.length_calls, List.length_map, List.length_range]

omit [Source σ] in
/-- A listing that spans the pages of all objects has all objects. -/
lemma Outcome.Spans.result_window {o : Outcome σ} {m : Nat}
    (h : o.Spans type ns none ((List.range m).map (window objects size mark))
      (.ok (window objects size mark m)))
    (covered : objects.length ≤ (m + 1) * size) : o.result = .ok objects := by
  have joined := flatMap_window objects size mark (m + 1)
  rw [List.range_succ, List.map_append, List.flatMap_append, List.take_of_length_le covered] at joined
  rw [h.result, Except.map]
  exact congrArg Except.ok (by simpa using joined)

end ClaimTracker.Listing

namespace ClaimTracker.Cluster

open Listing (Offers pageCount windowOr window)

/-- A cluster offers the objects that it has selected, and fails where it has a fault. -/
lemma offers (c : Cluster) (positive : 0 < c.pageSize) (type : ResourceType) (ns : Option String) :
    Offers type ns (c.select type ns) c.pageSize toString
      (fun k => (c.fault? type ns k).map fun f => ⟨f.message⟩) c := by
  intro d leads k _
  obtain rfl := eq_of_leads leads
  have position : start (Listing.tokenOf d.pageSize toString k) = k * d.pageSize := by
    cases k with
    | zero => rw [Nat.zero_mul]; rfl
    | succ k =>
      change ((toString ((k + 1) * d.pageSize)).toNat?).getD 0 = _
      rw [Nat.toString_eq_repr, Nat.toNat?_repr]
      rfl
  have number : d.pageNumber (k * d.pageSize) = k := Nat.mul_div_cancel k positive
  change d.page _ = _
  rw [Cluster.page, position, number, windowOr]
  cases d.fault? type ns k with
  | some f => rfl
  | none =>
    simp only [Option.map_none, slice, window, Nat.succ_mul]

lemma length_select_le (c : Cluster) (type : ResourceType) (ns : Option String) :
    (c.select type ns).length ≤ (c.objects.flatMap Prod.snd).length := by
  have stored : ((c.objects.lookup type.display).getD []).length ≤
      (c.objects.flatMap Prod.snd).length := by
    cases found : c.objects.lookup type.display with
    | none => exact Nat.zero_le _
    | some objects =>
      obtain ⟨before, after, heq, -⟩ := List.lookup_eq_some_iff.mp found
      rw [heq, List.flatMap_append, List.flatMap_cons, List.length_append, List.length_append]
      simp only [Option.getD_some]
      omega
  cases ns with
  | none => exact stored
  | some ns => exact (List.length_filter_le _ _).trans stored

/-- The bound that a cluster names lets every listing come to its last page. -/
lemma pageCount_le_pageBound (c : Cluster) (positive : 0 < c.pageSize) (type : ResourceType)
    (ns : Option String) :
    pageCount (c.select type ns).length c.pageSize ≤ Listing.Source.pageBound c := by
  have selected := c.length_select_le type ns
  have pages : ((c.select type ns).length + c.pageSize - 1) / c.pageSize ≤
      (c.select type ns).length := by
    rw [Nat.div_le_iff_le_mul_add_pred positive]
    have most := Nat.le_mul_of_pos_left (c.select type ns).length positive
    omega
  change max 1 _ ≤ (c.objects.flatMap Prod.snd).length + 1
  omega

end ClaimTracker.Cluster

namespace ClaimTracker.Listing

variable {σ : Type} [Source σ]

/-- Where the tokens of its pages lead to an end, a listing asks for every page once and in order, and
has the items of all pages, or the error of the one that fails. Objects by offset are so listed by one
request for each page. -/
theorem listed_whole_or_failed (type : ResourceType) (ns : Option String) (s : σ) :
    (∀ pages last, Chain type ns none s pages last →
      (∀ bound, pages.length < bound →
        (follow type ns bound none s).Spans type ns none pages last) ∧
      (pages.length < Source.pageBound s → (all type ns s).Spans type ns none pages last)) ∧
    (∀ objects size mark fails, 0 < size → Offers type ns objects size mark fails s →
      pageCount objects.length size ≤ Source.pageBound s →
      ((∀ k < pageCount objects.length size, fails k = none) →
        (all type ns s).calls.length = pageCount objects.length size ∧
          (all type ns s).result = .ok objects) ∧
      (∀ m e, m < pageCount objects.length size → (∀ k < m, fails k = none) → fails m = some e →
        (all type ns s).calls.length = m + 1 ∧ (all type ns s).result = .error e)) := by
  constructor
  · intro pages last chain
    exact ⟨fun bound enough => chain.spans_follow enough, fun enough => chain.spans_follow enough⟩
  · intro objects size mark fails positive offers bounded
    constructor
    · intro sound
      obtain ⟨m, last, covered, chain⟩ := offers.sound positive sound
      obtain ⟨spans, calls⟩ := chain.spans_windows (by omega)
      exact ⟨calls.trans last, spans.result_window covered⟩
    · intro m e within passes failed
      have chain := offers.failing positive within passes failed
      obtain ⟨spans, calls⟩ := chain.spans_windows (within.trans_le bounded)
      exact ⟨calls, spans.result⟩

/-- Three objects in pages of two. -/
def pairedCluster (faults : List Cluster.Fault) : Cluster where
  pageSize := 2
  objects := [("g/v1/widgets", ["a", "b", "c"].map fun name => ⟨none, { name := some name }, .object []⟩)]
  faults := faults

/-- Two pages bring all three objects. Where the second page fails, the first is of no use. -/
theorem three_objects_in_two_pages :
    let type : ResourceType := ⟨"g", "v1", "widgets"⟩
    let fault : Cluster.Fault := ⟨"g/v1/widgets", none, some 1, "unavailable"⟩
    let c := pairedCluster [fault]
    let objects := c.select type none
    (Offers type none objects 2 toString (fun _ => none) (pairedCluster []) ∧
      (all type none (pairedCluster [])).calls.length = 2 ∧
      (all type none (pairedCluster [])).result = .ok objects) ∧
    Chain type none none c [window objects 2 toString 0] (.error ⟨"unavailable"⟩) ∧
      (all type none c).calls.map Call.request =
        [⟨type, none, none, 500⟩, ⟨type, none, some "2", 500⟩] ∧
      (all type none c).result = .error ⟨"unavailable"⟩ := by
  intro type fault c objects
  have sound : Offers type none objects 2 toString (fun _ => none) (pairedCluster []) :=
    (pairedCluster []).offers Nat.two_pos type none
  have pages : pageCount objects.length 2 = 2 := by decide
  have chain : Chain type none none c [window objects 2 toString 0] (.error ⟨"unavailable"⟩) :=
    (c.offers Nat.two_pos type none).failing Nat.two_pos (show 1 < _ by decide) (by decide) rfl
  have bounded := (pairedCluster []).pageCount_le_pageBound Nat.two_pos type none
  have whole := ((listed_whole_or_failed type none (pairedCluster [])).2 objects 2 toString _
    Nat.two_pos sound bounded).1 (fun _ _ => rfl)
  rw [pages] at whole
  have failed := ((listed_whole_or_failed type none c).1 _ _ chain).2 (by decide)
  exact ⟨⟨sound, whole⟩, chain, failed.requests, failed.result⟩

end ClaimTracker.Listing
