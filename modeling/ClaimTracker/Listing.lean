import ClaimTracker.ClusterObject

/-!
# Listings

Objects of a resource type are listed page by page: a request asks for the first page or hands back
the token of the page before, and a page without a token is the last. `Listing.all` follows the tokens
to the end and joins the pages; the first page that fails ends the listing with its error.
-/

namespace ClaimTracker.Listing

def pageSize : Nat := 500

structure Request where
  type : ResourceType
  /-- The namespace to list; without one the whole cluster is listed. -/
  ns : Option String
  /-- The token of the page before. -/
  token : Option String
  limit : Nat
deriving DecidableEq, Repr

structure Page where
  items : List ClusterObject
  /-- The token of the next page; the last page has none. -/
  next : Option String

structure Error where
  message : String
deriving DecidableEq, Repr

/-- Where pages come from. A source may change with every request. -/
class Source (σ : Type) where
  page : Request → σ → Except Error Page × σ
  /-- How long a request takes, in milliseconds. -/
  duration : Request → σ → Nat
  /-- A number that the pages of no listing exceed. -/
  pageBound : σ → Nat

structure Call (σ : Type) where
  request : Request
  duration : Nat
  result : Except Error Page
  source : σ

structure Outcome (σ : Type) where
  calls : List (Call σ)
  result : Except Error (List ClusterObject)
  source : σ

/-- The error of a listing that has more pages than its source says it can have. -/
def endless : Error := ⟨"listing does not end"⟩

variable {σ : Type} [Source σ]

/-- Makes one request. -/
def request (r : Request) (s : σ) : Call σ :=
  let (result, source) := Source.page r s
  { request := r, duration := Source.duration r s, result, source }

/-- Lists at most `bound` pages from the one that a token leads to. -/
def follow (type : ResourceType) (ns : Option String) :
    (bound : Nat) → (token : Option String) → σ → Outcome σ
  | 0, _, s => ⟨[], .error endless, s⟩
  | bound + 1, token, s =>
    let call := request ⟨type, ns, token, pageSize⟩ s
    match call.result with
    | .error e => ⟨[call], .error e, call.source⟩
    | .ok page =>
      match page.next with
      | none => ⟨[call], .ok page.items, call.source⟩
      | some token =>
        let rest := follow type ns bound (some token) call.source
        ⟨call :: rest.calls, rest.result.map (page.items ++ ·), rest.source⟩

/-- Lists all objects of a type, in a namespace or everywhere. -/
def all (type : ResourceType) (ns : Option String) (s : σ) : Outcome σ :=
  follow type ns (Source.pageBound s) none s

end ClaimTracker.Listing
