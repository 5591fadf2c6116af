import ClaimTracker.Listing

/-!
# A cluster at rest

A cluster that serves fixed objects in pages by offset: the token of a page is the position of its
first object. Requests can be made to fail, for one type, one namespace or one page, and to take time.
-/

namespace ClaimTracker

/-- Which requests for a type fail, and how. -/
structure Cluster.Fault where
  partition : String
  /-- The namespace whose requests fail; without one all do. -/
  ns : Option String
  /-- The page, counted from zero, whose requests fail; without one all do. -/
  page : Option Nat
  message : String
deriving DecidableEq, Repr

/-- A cluster that serves fixed objects. Types are told apart by their display form. -/
structure Cluster where
  pageSize : Nat
  objects : List (String × List ClusterObject) := []
  faults : List Cluster.Fault := []
  /-- Milliseconds that requests for a type take. -/
  delays : List (String × Nat) := []

namespace Cluster

def assign {α : Type} (l : List (String × α)) (key : String) (a : α) : List (String × α) :=
  (key, a) :: l.filter (·.1 != key)

def set (c : Cluster) (type : ResourceType) (objects : List ClusterObject) : Cluster :=
  { c with objects := assign c.objects type.display objects }

def slow (c : Cluster) (type : ResourceType) (milliseconds : Nat) : Cluster :=
  { c with delays := assign c.delays type.display milliseconds }

/-- The cluster without faults of a type, namespace and page. -/
def mend (c : Cluster) (partition : String) (ns : Option String) (page : Option Nat) : Cluster :=
  { c with faults := c.faults.filter fun f =>
      !(f.partition == partition && f.ns == ns && f.page == page) }

/-- The cluster with a fault, in place of the one for the same requests. -/
def spoil (c : Cluster) (f : Fault) : Cluster :=
  let c := c.mend f.partition f.ns f.page
  { c with faults := f :: c.faults }

def select (c : Cluster) (type : ResourceType) (ns : Option String) : List ClusterObject :=
  let objects := (c.objects.lookup type.display).getD []
  match ns with
  | none => objects
  | some ns => objects.filter fun o => o.metadata.ns == some ns

def start (token : Option String) : Nat :=
  (token.bind String.toNat?).getD 0

def pageNumber (c : Cluster) (start : Nat) : Nat :=
  start / c.pageSize

/-- The fault that meets a request. Faults of all namespaces come before those of one, and faults of
all pages before those of one. -/
def fault? (c : Cluster) (type : ResourceType) (ns : Option String) (page : Nat) : Option Fault :=
  let named (ns : Option String) (page : Option Nat) :=
    c.faults.find? fun f => f.partition == type.display && f.ns == ns && f.page == page
  let within (ns : Option String) := (named ns none).or (named ns (some page))
  (within none).or (ns.bind fun ns => within (some ns))

/-- The objects from a position on that fill a page, and the position after them if objects remain. -/
def slice (c : Cluster) (objects : List ClusterObject) (start : Nat) : Listing.Page where
  items := (objects.drop start).take c.pageSize
  next := if start + c.pageSize < objects.length then some (toString (start + c.pageSize)) else none

def page (c : Cluster) (r : Listing.Request) : Except Listing.Error Listing.Page :=
  let start := start r.token
  match c.fault? r.type r.ns (c.pageNumber start) with
  | some f => .error ⟨f.message⟩
  | none => .ok (c.slice (c.select r.type r.ns) start)

instance : Listing.Source Cluster where
  page r c := (c.page r, c)
  duration r c := (c.delays.lookup r.type.display).getD 0
  pageBound c := (c.objects.flatMap Prod.snd).length + 1

end Cluster

end ClaimTracker
