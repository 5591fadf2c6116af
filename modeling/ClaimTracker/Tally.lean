import Std.Data.ExtTreeMap
import ClaimTracker.Record

/-!
# Tallies

Records are counted by their labels: how many there are of each, and how many of those are ready. A
creator or team that is not set counts as the empty text.
-/

namespace ClaimTracker

/-- A number of records, and how many of them are ready. -/
@[ext] structure Tally where
  total : Nat
  ready : Nat
deriving DecidableEq, Repr

namespace Tally

def zero : Tally := ⟨0, 0⟩

def add (t : Tally) (ready : Bool) : Tally :=
  ⟨t.total + 1, if ready then t.ready + 1 else t.ready⟩

end Tally

/-- What claims are counted by. -/
@[ext] structure ClaimLabels where
  group : String
  kind : String
  ns : String
  composition : String
  creator : String
  team : String
deriving DecidableEq, Repr

namespace ClaimLabels

/-- The labels in the order in which they are compared. -/
def values (l : ClaimLabels) : List String :=
  [l.group, l.kind, l.ns, l.composition, l.creator, l.team]

instance : Ord ClaimLabels := ⟨compareOn values⟩

instance : Std.TransOrd ClaimLabels :=
  inferInstanceAs (Std.TransCmp (compareOn values))

instance : Std.LawfulEqOrd ClaimLabels where
  eq_of_compare {l m} h := by
    have : values l = values m := 
      Std.LawfulEqCmp.eq_of_compare (show compare (values l) (values m) = .eq from h)
    ext <;> simp_all [values]

def of (c : Claim) : ClaimLabels :=
  ⟨c.group, c.kind, c.ns, c.composition, c.creator.getD "", c.team.getD ""⟩

end ClaimLabels

/-- What composites are counted by. -/
@[ext] structure CompositeLabels where
  group : String
  kind : String
  ns : String
  composition : String
deriving DecidableEq, Repr

namespace CompositeLabels

/-- The labels in the order in which they are compared. -/
def values (l : CompositeLabels) : List String :=
  [l.group, l.kind, l.ns, l.composition]

instance : Ord CompositeLabels := ⟨compareOn values⟩

instance : Std.TransOrd CompositeLabels :=
  inferInstanceAs (Std.TransCmp (compareOn values))

instance : Std.LawfulEqOrd CompositeLabels where
  eq_of_compare {l m} h := by
    have : values l = values m := 
      Std.LawfulEqCmp.eq_of_compare (show compare (values l) (values m) = .eq from h)
    ext <;> simp_all [values]

def of (x : Composite) : CompositeLabels :=
  ⟨x.group, x.kind, x.ns, x.composition⟩

end CompositeLabels

namespace Tally

abbrev Sheet (κ : Type) [Ord κ] := Std.ExtTreeMap κ Tally

def count {κ : Type} [Ord κ] [Std.TransOrd κ] (sheet : Sheet κ) (labels : κ) (ready : Bool) :
    Sheet κ :=
  sheet.alter labels fun t => some ((t.getD zero).add ready)

def ofClaims (l : List Claim) : Sheet ClaimLabels :=
  l.foldl (fun sheet c => count sheet (.of c) c.ready) ∅

def ofComposites (l : List Composite) : Sheet CompositeLabels :=
  l.foldl (fun sheet x => count sheet (.of x) x.ready) ∅

theorem getElem?_count {κ : Type} [Ord κ] [Std.TransOrd κ] [Std.LawfulEqOrd κ] [DecidableEq κ]
    (sheet : Sheet κ) (labels k : κ) (ready : Bool) :
    (count sheet labels ready)[k]? =
      if labels = k then some ((sheet[k]?.getD zero).add ready) else sheet[k]? := by
  rw [count, Std.ExtTreeMap.getElem?_alter]
  by_cases h : labels = k
  · subst h; simp
  · simp [h, Std.LawfulEqCmp.compare_eq_iff_eq]

end Tally

end ClaimTracker
