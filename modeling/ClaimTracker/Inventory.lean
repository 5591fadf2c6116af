import Std.Data.ExtTreeMap
import ClaimTracker.Record

/-!
# The inventory

A table holds records by identity key, each tagged with its partition. Replacing a partition is one
step: its old records go and the new ones come, taking over the keys of other partitions where they
meet. The inventory has one table of claims and one of composites; enrichment copies the composition
of each composite to the claims that refer to it.
-/

namespace ClaimTracker

/-- Records by identity key. -/
abbrev Table (ρ : Type) := Std.ExtTreeMap String ρ

namespace Table

variable {ρ : Type} [Record ρ]

/-- The table with a record under its key, assigned to a partition. -/
def put (partition : String) (t : Table ρ) (r : ρ) : Table ρ :=
  t.insert (Record.key r) (Record.assign partition r)

def evict (t : Table ρ) (partition : String) : Table ρ :=
  t.filter fun _ r => Record.partition r != partition

/-- The table in which a partition consists of the given records, of equal keys the last. -/
def replace (t : Table ρ) (partition : String) (items : List ρ) : Table ρ :=
  items.foldl (put partition) (t.evict partition)

def records (t : Table ρ) : List ρ :=
  (t.toList.map Prod.snd).mergeSort Record.listedBefore

theorem getElem?_put (t : Table ρ) (partition : String) (r : ρ) (k : String) :
    (t.put partition r)[k]? =
      if Record.key r = k then some (Record.assign partition r) else t[k]? := by
  rw [put, Std.ExtTreeMap.getElem?_insert]
  simp [Std.LawfulEqCmp.compare_eq_iff_eq]

theorem getElem?_evict (t : Table ρ) (partition k : String) :
    (t.evict partition)[k]? = t[k]?.filter fun r => Record.partition r != partition := by
  rw [evict, Std.ExtTreeMap.getElem?_filter]
  cases t[k]? <;> simp

theorem getElem?_foldl_put (t : Table ρ) (partition : String) (items : List ρ) (k : String) :
    (items.foldl (put partition) t)[k]? =
      ((items.reverse.find? fun r => Record.key r == k).map (Record.assign partition)).or t[k]? := by
  induction items generalizing t with
  | nil => simp
  | cons r items ih =>
    rw [List.foldl_cons, ih, getElem?_put]
    cases hf : items.reverse.find? fun r => Record.key r == k with
    | some s => simp [List.find?_append, hf]
    | none => by_cases h : Record.key r = k <;> simp [List.find?_append, hf, h]

/-- Under each key stands the last new record of that key, or else the old record if it is of
another partition. -/
theorem getElem?_replace (t : Table ρ) (partition : String) (items : List ρ) (k : String) :
    (t.replace partition items)[k]? =
      ((items.reverse.find? fun r => Record.key r == k).map (Record.assign partition)).or
        (t[k]?.filter fun r => Record.partition r != partition) := by
  rw [replace, getElem?_foldl_put, getElem?_evict]

end Table

structure Inventory where
  claims : Table Claim
  composites : Table Composite

namespace Inventory

def empty : Inventory := ⟨∅, ∅⟩

instance : EmptyCollection Inventory := ⟨empty⟩

def replaceClaims (i : Inventory) (partition : String) (items : List Claim) : Inventory :=
  { i with claims := i.claims.replace partition items }

def replaceComposites (i : Inventory) (partition : String) (items : List Composite) : Inventory :=
  { i with composites := i.composites.replace partition items }

/-- The composition of the composite stored under a key. Composites are looked up by name, which is
their key as long as they have no namespace. -/
def compositionOf (composites : Table Composite) (name : String) : String :=
  if name.isEmpty then "" else (composites[name]?.map Composite.composition).getD ""

/-- Gives each claim the composition of the composite that it refers to. -/
def enrich (i : Inventory) : Inventory :=
  { i with claims := i.claims.map fun _ c =>
      { c with composition := compositionOf i.composites c.compositeName } }

def claimList (i : Inventory) : List Claim := i.claims.records

def compositeList (i : Inventory) : List Composite := i.composites.records

def claimCount (i : Inventory) : Nat := i.claims.size

def compositeCount (i : Inventory) : Nat := i.composites.size

end Inventory

end ClaimTracker
