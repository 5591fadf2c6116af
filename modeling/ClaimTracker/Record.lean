import ClaimTracker.Instant
import ClaimTracker.Settings

/-!
# Inventory records

A claim is an object of a namespace that asks for a composite; a composite is an object of the whole
cluster that fulfils claims. Both are known by their identity key, and both carry the display form of
the resource type whose listing produced them: their partition.
-/

namespace ClaimTracker

/-- The identity of an object: its name, after its namespace and a slash if it has one. -/
def objectKey (ns name : String) : String :=
  if ns.isEmpty then name else ns ++ "/" ++ name

@[ext] structure Claim where
  partition : String
  group : String
  kind : String
  ns : String
  name : String
  creator : Option String
  team : Option String
  /-- The composition of the composite that the claim refers to, filled in by enrichment. -/
  composition : String
  origin : Origin
  ready : Bool
  reason : String
  createdAt : Option Instant
  /-- The name of the composite that the claim refers to. -/
  compositeName : String
deriving DecidableEq, Repr

@[ext] structure Composite where
  partition : String
  group : String
  kind : String
  /-- Usually empty, and of no consequence. -/
  ns : String
  name : String
  composition : String
  origin : Origin
  ready : Bool
  reason : String
  createdAt : Option Instant
deriving DecidableEq, Repr

/-- What the inventory needs to know of its records. -/
class Record (ρ : Type) where
  ns : ρ → String
  name : ρ → String
  partition : ρ → String
  assign : String → ρ → ρ

instance : Record Claim where
  ns := Claim.ns
  name := Claim.name
  partition := Claim.partition
  assign p c := { c with partition := p }

instance : Record Composite where
  ns := Composite.ns
  name := Composite.name
  partition := Composite.partition
  assign p x := { x with partition := p }

namespace Record

variable {ρ : Type} [Record ρ]

def key (r : ρ) : String :=
  objectKey (ns r) (name r)

/-- Records are listed by namespace, and by name within it. -/
def listedBefore (r s : ρ) : Bool :=
  ((compare (ns r) (ns s)).then (compare (name r) (name s))).isLE

end Record

end ClaimTracker
