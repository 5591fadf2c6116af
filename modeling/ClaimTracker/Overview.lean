import ClaimTracker.Age
import ClaimTracker.Inventory
import ClaimTracker.Record.Form

/-!
# The overview of an inventory

An inventory is shown as two tables in plain text, or as one document. Cells of a table are filled up
with blanks to the width of their column, counted in characters; the origin and the age are not.
-/

namespace ClaimTracker.Overview

def cell (s : String) (width : Nat) : String :=
  s ++ String.ofList (List.replicate (width - s.length) ' ')

/-- A line of a table: cells with their widths, and a last cell. -/
def line (cells : List (String × Nat)) (last : String) : String :=
  " ".intercalate (cells.map (fun (s, width) => cell s width) ++ [last]) ++ "\n"

/-- A text, or a dash for the empty one. -/
def orDash (s : String) : String :=
  if s.isEmpty then "-" else s

def age (now : Instant) (createdAt : Option Instant) : String :=
  Age.shown (createdAt.map now.secondsSince)

def claimLine (now : Instant) (c : Claim) : String :=
  line
    [(c.kind, 20), (Record.key c, 32), (orDash c.composition, 24), (c.creator.getD "-", 16),
      (toString c.ready, 6), (c.origin.name, 0)]
    (age now c.createdAt)

def compositeLine (now : Instant) (x : Composite) : String :=
  line
    [(x.kind, 24), (Record.key x, 32), (orDash x.composition, 24), (toString x.ready, 6),
      (x.origin.name, 0)]
    (age now x.createdAt)

def claimTable (now : Instant) (claims : List Claim) : String :=
  "CLAIMS (" ++ toString claims.length ++ ")\n" ++
    line
      [("KIND", 20), ("NAMESPACE/NAME", 32), ("COMPOSITION", 24), ("CREATOR", 16), ("READY", 6),
        ("SOURCE", 10)]
      "AGE" ++
    String.join (claims.map (claimLine now))

def compositeTable (now : Instant) (composites : List Composite) : String :=
  "COMPOSITES (" ++ toString composites.length ++ ")\n" ++
    line [("KIND", 24), ("NAME", 32), ("COMPOSITION", 24), ("READY", 6), ("SOURCE", 10)] "AGE" ++
    String.join (composites.map (compositeLine now))

def tables (now : Instant) (claims : List Claim) (composites : List Composite) : String :=
  claimTable now claims ++ "\n" ++ compositeTable now composites

def document (now : Instant) (claims : List Claim) (composites : List Composite) : String :=
  (Json.object
    [("claims", .array (claims.map Claim.toJson)),
      ("composites", .array (composites.map Composite.toJson)),
      ("generatedAt", .text now.text)]).indented ++ "\n"

end ClaimTracker.Overview
