import ClaimTracker.ResourceType
import ClaimTracker.Text.Percent

/-!
# Requests to the cluster

The tracker only reads: a request names a path and a query. Both are written as one address, in which
a question mark begins the query and a number sign ends everything; an address with characters that
have no place in it cannot be requested.
-/

namespace ClaimTracker.Api

structure Request where
  path : String
  query : List (String × String)
deriving DecidableEq, Repr

structure Response where
  status : Nat
  body : String
deriving DecidableEq, Repr

def Response.isFailure (r : Response) : Bool :=
  400 ≤ r.status && r.status < 600

/-- The length in octets of the longest address. -/
def maxLength : Nat := 65534

def isPathChar (c : Char) : Bool :=
  let n := c.toNat
  n == 0x21 || (0x24 ≤ n && n ≤ 0x3B) || n == 0x3D || (0x40 ≤ n && n ≤ 0x5F) ||
    (0x61 ≤ n && n ≤ 0x7E) || n == 0x22 || 0x80 ≤ n

def isQueryChar (c : Char) : Bool :=
  let n := c.toNat
  n == 0x21 || (0x24 ≤ n && n ≤ 0x3B) || n == 0x3D || (0x3F ≤ n && n ≤ 0x7E) || 0x80 ≤ n

def address (path : String) (query : List (String × String)) : String :=
  path ++ "?" ++ String.ofList (query.flatMap fun pair => '&' :: Text.Percent.encodePair pair)

def queryPairs (l : List Char) : List (String × String) :=
  ((Text.fields '&' l).filter (!·.isEmpty)).map Text.Percent.decodePair

def Request.ofAddress? (address : String) : Option Request :=
  let l := address.toList.takeWhile (· != '#')
  let path := l.takeWhile (· != '?')
  let query := (l.drop path.length).drop 1
  if address.utf8ByteSize ≤ maxLength ∧ path.all isPathChar ∧ query.all isQueryChar then
    some ⟨String.ofList path, queryPairs query⟩
  else none

/-- The path under which a resource type is listed, in a namespace or everywhere. -/
def listPath (t : ResourceType) (ns : Option String) : String :=
  (if t.group.isEmpty then "/api/" else "/apis/") ++ t.apiVersion ++ "/" ++
    (match ns with
      | some ns => "namespaces/" ++ ns ++ "/"
      | none => "") ++
    t.resource

/-- A server that answers requests, or does not. -/
class Server (σ : Type) where
  send : Request → σ → Option Response × σ
  /-- A number of requests after which no answers come. -/
  patience : σ → Nat

structure Nowhere where
deriving DecidableEq, Repr

instance : Server Nowhere where
  send _ s := (none, s)
  patience _ := 0

/-- A server that gives prepared answers one after the other and remembers the requests. -/
structure Script where
  answers : List Response
  requests : List Request := []
deriving DecidableEq, Repr

instance : Server Script where
  send r s := (s.answers.head?, ⟨s.answers.tail, s.requests ++ [r]⟩)
  patience s := s.answers.length

end ClaimTracker.Api
