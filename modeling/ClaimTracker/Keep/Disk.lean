import Std.Data.ExtTreeMap
import ClaimTracker.Keep
import ClaimTracker.Text.Blank

/-!
# Database files

Files live in a working directory that has no directories below it. A path is followed step by step as
it is written: empty steps and single dots say nothing, a double dot takes back the step before it or
goes up. A file may be there without a database in it.
-/

namespace ClaimTracker

/-- A database in a file. -/
structure DatabaseFile where
  row : Option Octets
  /-- Whether changes go to a log beside the file first. -/
  logged : Bool
deriving DecidableEq, Repr

/-- The files and what is in them. A file is named by its steps up from the directory and its name. -/
abbrev Disk := Std.ExtTreeMap (List Octets) (Option DatabaseFile)

namespace Disk

def slash : UInt8 := 0x2F

def here : Octets := [0x2E]

def up : Octets := [0x2E, 0x2E]

/-- The length of the longest name of a file. -/
def maxName : Nat := 255

def steps (path : List Octets) : List Octets :=
  (path.foldl (fun taken step =>
    if step = [] ∨ step = here then taken
    else if step = up then
      match taken with
      | [] => [up]
      | last :: rest => if last = up then up :: taken else rest
    else step :: taken) []).reverse

/-- The file that a path leads to, unless it leads to a directory or through one that does not
exist. Absolute paths lead nowhere, and so does a path with a name that is too long. -/
def file? (path : Octets) : Option (List Octets) :=
  let written := Text.fields slash path
  if path.head? = some slash ∨ written.any (maxName < ·.length) then none
  else
    let l := steps written
    match l.getLast? with
    | none => none
    | some name => if name ≠ up ∧ l.dropLast.all (· == up) then some l else none

end Disk

end ClaimTracker
