import ClaimTracker.Text.Digits

/-!
# Double precision

A double has 53 significant bits, so beyond `exactBound` only some integers are doubles. `nearest`
rounds to the nearest of them; the result may exceed the range of doubles, which ends below
`overflow`.
-/

namespace ClaimTracker

namespace Double

/-- The integers below this one are doubles. -/
def exactBound : Nat := 9007199254740992

/-- No double is this large. -/
def overflow : Nat := Nat.pow 2 1024

/-- The nearest number of 53 significant bits; a tie goes to the even one. -/
def nearest (n : Nat) : Nat :=
  if n < exactBound then n
  else
    let unit := Nat.pow 2 (n.log2 - 52)
    let low := n / unit * unit
    let rest := n - low
    if 2 * rest < unit ∨ 2 * rest = unit ∧ n / unit % 2 = 0 then low else low + unit

theorem nearest_of_lt {n : Nat} (h : n < exactBound) : nearest n = n := by
  simp [nearest, h]

/-- The word that a double becomes which was made of a word. -/
def toWord (n : Nat) : Nat :=
  min (nearest n) maxWord

example : toWord 9007199254740993 = 9007199254740992 := by decide +kernel

example : toWord maxWord = maxWord := by decide +kernel

end Double

end ClaimTracker
