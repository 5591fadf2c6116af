import Mathlib.Tactic.Lemma
import ClaimTracker.Json.Basic
import ClaimTracker.Text.Blank
import ClaimTracker.Text.Digits

/-!
# Pointers into a value

A pointer is a path of steps with a slash before each: a step leads to the member of that name in an
object and to the item at that position in an array. Steps that name no position go through objects only,
so such a pointer finds what is found member by member.
-/

namespace ClaimTracker.Json

/-- The position that a step names, without a sign and without zeros in front. -/
def position? (step : String) : Option Nat :=
  if step.toList.head? = some '+' ∨ step.toList.head? = some '0' ∧ step ≠ "0" then none
  else Text.Decimal.word? step

/-- The member or the item that a step leads to. -/
def step? (j : Json) (step : String) : Option Json :=
  match j with
  | .object members => member? members step
  | .array items => (position? step).bind fun n => items[n]?
  | _ => none

/-- The step as it is meant: a slash is written as a tilde and a one, a tilde with a zero. -/
def unescape : List Char → List Char
  | '~' :: '1' :: l => '/' :: unescape l
  | '~' :: '0' :: l => '~' :: unescape l
  | c :: l => c :: unescape l
  | [] => []

/-- The value that a pointer leads to. The empty pointer leads nowhere else. -/
def pointer? (j : Json) (pointer : String) : Option Json :=
  match Text.fields '/' pointer.toList with
  | [] :: steps => (steps.map fun step => String.ofList (unescape step)).foldlM step? j
  | _ => none

lemma step?_eq_get? {name : String} (h : position? name = none) (j : Json) :
    j.step? name = j.get? name := by
  cases j with
  | array items => simp [step?, get?, h]
  | _ => rfl

/-- Steps that name no position are names of members. -/
lemma foldlM_step? {path : List String} (h : ∀ name ∈ path, position? name = none) (j : Json) :
    path.foldlM step? j = path.foldlM get? j := by
  induction path generalizing j with
  | nil => rfl
  | cons name path ih =>
    rw [List.foldlM_cons, List.foldlM_cons, step?_eq_get? (h name List.mem_cons_self)]
    exact congrArg _ (funext (ih fun other ho => h other (List.mem_cons_of_mem _ ho)))

@[simp] lemma text?_eq_some_iff {j : Json} {s : String} : j.text? = some s ↔ j = .text s := by
  cases j <;> simp [text?]

@[simp] lemma array?_eq_some_iff {j : Json} {items : List Json} :
    j.array? = some items ↔ j = .array items := by
  cases j <;> simp [array?]

end ClaimTracker.Json
