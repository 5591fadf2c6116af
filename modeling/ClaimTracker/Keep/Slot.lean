import ClaimTracker.Keep

/-!
# A slot in memory

The plainest keep. Its reads and its writes can be made to fail, and it knows no limit.
-/

namespace ClaimTracker

/-- A document in memory. -/
structure Slot where
  body : Option Octets := none
  failsToGet : Bool := false
  failsToPut : Bool := false
  puts : Nat := 0
deriving DecidableEq, Repr

instance : Keep Slot where
  location _ := "mem://snapshot.json"
  held s := s.body
  get _ s := (if s.failsToGet then .error (.failed "access denied") else .ok s.body, s)
  put body s :=
    if s.failsToPut then (.error (.failed "disk full"), s)
    else (.ok (), { s with body := some body, puts := s.puts + 1 })

end ClaimTracker
