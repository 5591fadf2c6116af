/-!
# Blank characters and trimmed text

A character is blank when it has the Unicode property `White_Space`. Trimming removes blanks from
both ends; `fields` splits a text, or any list, at a separator without trimming.
-/

namespace ClaimTracker.Text

/-- The property `White_Space`. Zero-width characters and the information separators lack it. -/
def isBlank (c : Char) : Bool :=
  let n := c.toNat
  (0x9 ≤ n && n ≤ 0xD) || n == 0x20 || n == 0x85 || n == 0xA0 || n == 0x1680 ||
    (0x2000 ≤ n && n ≤ 0x200A) || n == 0x2028 || n == 0x2029 || n == 0x202F || n == 0x205F ||
    n == 0x3000

def trimStart (l : List Char) : List Char :=
  l.dropWhile isBlank

def trim (l : List Char) : List Char :=
  (trimStart (trimStart l).reverse).reverse

def trimmed (s : String) : String :=
  String.ofList (trim s.toList)

/-- A trimmed text, or nothing when it is blank throughout. -/
def nonBlank? (s : String) : Option String :=
  let t := trimmed s
  if t.isEmpty then none else some t

/-- The pieces between the separators, one more than there are separators. -/
def fields {α : Type} [DecidableEq α] (separator : α) : List α → List (List α)
  | [] => [[]]
  | a :: l =>
    if a = separator then [] :: fields separator l
    else
      match fields separator l with
      | [] => [[a]]
      | piece :: pieces => (a :: piece) :: pieces

/-- What stands before the first separator and what follows it, or nothing when there is none. -/
def cut (separator : Char) : List Char → Option (List Char × List Char)
  | [] => none
  | c :: l =>
    if c = separator then some ([], l)
    else (cut separator l).map fun (front, back) => (c :: front, back)

/-- The entries of a comma-separated list: trimmed, blank ones left out. -/
def commaList (s : String) : List String :=
  (fields ',' s.toList).filterMap fun piece => nonBlank? (String.ofList piece)

end ClaimTracker.Text
