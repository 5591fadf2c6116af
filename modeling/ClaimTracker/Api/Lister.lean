import ClaimTracker.Api.ObjectList
import ClaimTracker.Listing

/-!
# Listing over a server

Pages of objects are requested from a server. Whatever goes wrong, the error tells what was being
listed and where.
-/

namespace ClaimTracker.Api

/-- Lists objects by requests to a server. -/
structure Lister (σ : Type) where
  server : σ

namespace Lister

def query (r : Listing.Request) : List (String × String) :=
  ("limit", toString r.limit) :: (r.token.map fun token => ("continue", token)).toList

def addressOf (r : Listing.Request) : String :=
  address (listPath r.type r.ns) (query r)

def failure (r : Listing.Request) : Listing.Error :=
  ⟨"listing " ++ r.type.display ++ " in " ++ r.ns.getD "all namespaces"⟩

def readPage (r : Listing.Request) (answer : Option Response) :
    Except Listing.Error Listing.Page :=
  match answer.bind (ObjectList.ofResponse? ClusterObject.reader) with
  | some l => .ok ⟨l.items, l.position.next⟩
  | none => .error (failure r)

variable {σ : Type} [Server σ]

def page (r : Listing.Request) (l : Lister σ) : Except Listing.Error Listing.Page × Lister σ :=
  match Request.ofAddress? (addressOf r) with
  | none => (.error (failure r), l)
  | some request =>
    let (answer, server) := Server.send request l.server
    (readPage r answer, ⟨server⟩)

instance : Listing.Source (Lister σ) where
  page := page
  duration _ _ := 0
  pageBound l := Server.patience l.server + 1

end Lister

end ClaimTracker.Api
