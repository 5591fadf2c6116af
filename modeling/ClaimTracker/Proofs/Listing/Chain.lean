import ClaimTracker.Api.Lister
import ClaimTracker.Proofs.Listing.Requests

/-!
# Chains of pages

Only the tokens of its pages tell how long a listing is. Where they lead to an end, every bound beyond
the length of the chain gives the same listing: each page is asked for once and in order, and the listing
has the items of all pages, or the error of the one that fails and nothing else. The bound that a lister
takes from its server is always such a one, as every page uses up an answer.
-/

namespace ClaimTracker.Listing

variable {σ : Type} [Source σ] {type : ResourceType} {ns : Option String}

lemma request_result (r : Request) (s : σ) : (request r s).result = (Source.page r s).1 := rfl

lemma request_source (r : Request) (s : σ) : (request r s).source = (Source.page r s).2 := rfl

/-- The pages that a source gives one after the other, each asked for with the token of the one
before and leading to the next, and what ends them: a page that leads to no other, or an error. -/
inductive Chain (type : ResourceType) (ns : Option String) :
    Option String → σ → List Page → Except Error Page → Prop
  | last {token : Option String} {s : σ} {result : Except Error Page}
      (answered : (request ⟨type, ns, token, pageSize⟩ s).result = result)
      (ends : ∀ page, result = .ok page → page.next = none) :
      Chain type ns token s [] result
  | next {token : Option String} {s : σ} {page : Page} {following : String} {pages : List Page}
      {result : Except Error Page}
      (answered : (request ⟨type, ns, token, pageSize⟩ s).result = .ok page)
      (leads : page.next = some following)
      (rest : Chain type ns (some following) (request ⟨type, ns, token, pageSize⟩ s).source pages
        result) :
      Chain type ns token s (page :: pages) result

/-- The requests for pages and the one after them: after the first, each has the token of the page
before. -/
def chainRequests (type : ResourceType) (ns token : Option String) (pages : List Page) :
    List Request :=
  (token :: pages.map Page.next).map fun token => ⟨type, ns, token, pageSize⟩

/-- A listing has asked for pages and for what ends them, in this order, and joins them all. -/
structure Outcome.Spans (o : Outcome σ) (type : ResourceType) (ns token : Option String)
    (pages : List Page) (last : Except Error Page) : Prop where
  requests : o.calls.map Call.request = chainRequests type ns token pages
  answers : o.calls.map Call.result = pages.map .ok ++ [last]
  result : o.result = last.map fun page => pages.flatMap Page.items ++ page.items

namespace Outcome.Spans

omit [Source σ]

variable {o : Outcome σ} {token : Option String} {pages : List Page} {last : Except Error Page}

/-- The requests are as many as the pages, the last one included. -/
lemma length_calls (h : o.Spans type ns token pages last) : o.calls.length = pages.length + 1 := by
  have same := congrArg List.length h.answers
  simpa using same

/-- Before what a listing spans comes one page more. -/
lemma cons (h : o.Spans type ns token pages last) {first : Option String} {call : Call σ}
    {page : Page} (asked : call.request = ⟨type, ns, first, pageSize⟩)
    (answered : call.result = .ok page) (leads : page.next = token) :
    Outcome.Spans ⟨call :: o.calls, o.result.map (page.items ++ ·), o.source⟩ type ns first
      (page :: pages) last := by
  constructor
  · rw [List.map_cons, h.requests, asked, ← leads]
    rfl
  · rw [List.map_cons, h.answers, answered]
    rfl
  · rw [h.result]
    cases last with
    | error e => rfl
    | ok page' => simp [Except.map]

end Outcome.Spans

/-- A listing spans the chain that it meets, if its bound lets it. -/
lemma Chain.spans_follow {token : Option String} {s : σ} {pages : List Page}
    {last : Except Error Page} (chain : Chain type ns token s pages last) {bound : Nat}
    (enough : pages.length < bound) :
    (follow type ns bound token s).Spans type ns token pages last := by
  induction chain generalizing bound with
  | @last token s result answered ends =>
    obtain ⟨bound, rfl⟩ := Nat.exists_eq_succ_of_ne_zero (Nat.ne_zero_of_lt enough)
    rw [follow]
    cases result with
    | error e =>
      simp only [answered]
      exact ⟨rfl, by rw [← answered]; rfl, rfl⟩
    | ok page =>
      simp only [answered, ends page rfl]
      exact ⟨rfl, by rw [← answered]; rfl, rfl⟩
  | @next token s page following pages result answered leads rest ih =>
    obtain ⟨bound, rfl⟩ := Nat.exists_eq_succ_of_ne_zero (Nat.ne_zero_of_lt enough)
    have spans := ih (Nat.lt_of_succ_lt_succ enough)
    rw [follow]
    simp only [answered, leads]
    exact spans.cons rfl answered leads

end ClaimTracker.Listing

namespace ClaimTracker.Api

/-- Every answer of a server uses up some of its patience. -/
class LawfulServer (σ : Type) [Server σ] : Prop where
  patience_lt : ∀ (r : Request) (s : σ), (Server.send r s).1 ≠ none →
    Server.patience (Server.send r s).2 < Server.patience s

instance : LawfulServer Nowhere := ⟨fun _ _ answered => absurd rfl answered⟩

instance : LawfulServer Script where
  patience_lt r s answered := by
    change s.answers.head? ≠ none at answered
    change s.answers.tail.length < s.answers.length
    cases h : s.answers with
    | nil => exact absurd (congrArg List.head? h) answered
    | cons a l => exact Nat.lt_succ_self _

namespace Lister

variable {σ : Type} [Server σ] [LawfulServer σ]

/-- A page is read from an answer. -/
lemma patience_lt_of_page {r : Listing.Request} {l : Lister σ} {page : Listing.Page}
    (h : (Listing.request r l).result = .ok page) :
    Server.patience (Listing.request r l).source.server < Server.patience l.server := by
  rw [Listing.request_result] at h
  rw [Listing.request_source]
  simp only [Listing.Source.page, Lister.page] at h ⊢
  cases address : Request.ofAddress? (addressOf r) with
  | none => simp [address] at h
  | some asked =>
    simp only [address] at h ⊢
    refine LawfulServer.patience_lt asked l.server fun silent => ?_
    rw [silent] at h
    cases h

/-- The bound that a lister names lets it follow every chain to its end. -/
lemma length_lt_pageBound {type : ResourceType} {ns token : Option String} {l : Lister σ}
    {pages : List Listing.Page} {last : Except Listing.Error Listing.Page}
    (chain : Listing.Chain type ns token l pages last) :
    pages.length < Listing.Source.pageBound l := by
  induction chain with
  | last answered ends => exact Nat.succ_pos _
  | next answered leads rest ih =>
    have less := patience_lt_of_page answered
    change _ < Server.patience _ + 1 at ih ⊢
    rw [List.length_cons]
    omega

/-- A lister follows every chain of pages to its end. -/
lemma spans_all {type : ResourceType} {ns : Option String} {l : Lister σ}
    {pages : List Listing.Page} {last : Except Listing.Error Listing.Page}
    (chain : Listing.Chain type ns none l pages last) :
    (Listing.all type ns l).Spans type ns none pages last :=
  chain.spans_follow (length_lt_pageBound chain)

end Lister

end ClaimTracker.Api
