import ClaimTracker.Double
import ClaimTracker.Text.Digits
import ClaimTracker.Text.Utf8

/-!
# Tokens of JSON

A document is read as a list of tokens. A text token knows its content only if it has one: a text
may be well formed and yet hold octets or surrogates that are no characters, which matters only to
who wants the content. Where the document breaks, the list ends in a token that tells how; the end of
the list is the end of the document.
-/

namespace ClaimTracker.Json

/-- How a document breaks: by something that cannot stand there, or by ending early. -/
inductive Fault where
  | malformed
  | truncated
deriving DecidableEq, Repr

structure Number where
  negative : Bool
  whole : List Char
  /-- The digits after the point. -/
  fraction : Option (List Char)
  /-- The written exponent: whether it is negative, and its digits. -/
  exponent : Option (Bool × List Char)
deriving DecidableEq, Repr

/-- A lexical element of a document. -/
inductive Token where
  | openBrace
  | closeBrace
  | openBracket
  | closeBracket
  | colon
  | comma
  | null
  | bool (b : Bool)
  | number (n : Number)
  | text (content : Option String)
  /-- A text that does not end well: the fault met by who wants its content, and by who skips it. -/
  | brokenText (wanted skipped : Fault)
  /-- A number that does not end well. -/
  | brokenNumber (atEnd : Bool)
  /-- The beginning of `null`, `true` or `false` without its end. -/
  | brokenWord (atEnd : Bool)
  /-- Something that starts no token. -/
  | stray
deriving DecidableEq, Repr

namespace Number

/-- Appends digits to a number as long as 64 bits hold it; the count of digits left over comes
second. -/
def absorb (n : Nat) : List Char → Nat × Nat
  | [] => (n, 0)
  | c :: l =>
    let next := 10 * n + Text.Decimal.digitValue c
    if next ≤ maxWord then absorb next l else (n, (c :: l).length)

/-- The significant digits as a 64-bit number, and the power of ten that it is multiplied by. -/
def scaled (n : Number) : Nat × Int :=
  let (whole, more) := absorb 0 n.whole
  let (digits, power) : Nat × Int :=
    match n.fraction with
    | none => (whole, more)
    | some fraction =>
      let (digits, left) := absorb whole fraction
      (digits, more - (fraction.length - left))
  match n.exponent with
  | none => (digits, power)
  | some (negative, e) =>
    (digits, if negative then power - Text.Decimal.value e else power + Text.Decimal.value e)

/-- Whether the magnitude is within the range of a double. It is computed from the scaled digits in
double precision. -/
def inRange (n : Number) : Bool :=
  let (digits, power) := n.scaled
  if digits = 0 ∨ power < 0 then true
  else if 308 < power then false
  else
    Double.nearest (Double.nearest digits * Double.nearest (Nat.pow 10 power.toNat)) < Double.overflow

/-- The integer that the number is written as. A negative zero counts as a fraction. -/
def int? (n : Number) : Option Int :=
  match n.fraction, n.exponent with
  | none, none =>
    let value := Text.Decimal.value n.whole
    if n.negative then if value = 0 then none else some (-value) else some value
  | _, _ => none

def write (n : Number) : List Char :=
  (if n.negative then ['-'] else []) ++ n.whole ++
    (match n.fraction with
      | none => []
      | some digits => '.' :: digits) ++
    (match n.exponent with
      | none => []
      | some (negative, digits) => 'e' :: (if negative then ['-'] else []) ++ digits)

def ofInt (n : Int) : Number where
  negative := n < 0
  whole := Text.Decimal.write n.natAbs
  fraction := none
  exponent := none

end Number

/-- How a character is written inside a text: quotes, backslashes and controls are escaped. -/
def writeChar (c : Char) : List Char :=
  if c = '"' then ['\\', '"']
  else if c = '\\' then ['\\', '\\']
  else if c = '\x08' then ['\\', 'b']
  else if c = '\x0c' then ['\\', 'f']
  else if c = '\n' then ['\\', 'n']
  else if c = '\r' then ['\\', 'r']
  else if c = '\t' then ['\\', 't']
  else if c.toNat < 0x20 then
    ['\\', 'u', '0', '0', Text.Hexadecimal.digit (c.toNat / 16), Text.Hexadecimal.digit c.toNat]
  else [c]

def writeText (s : String) : List Char :=
  '"' :: s.toList.flatMap writeChar ++ ['"']

namespace Token

/-- The characters of a token. Tokens that no value is made of have none. -/
def write : Token → List Char
  | .openBrace => ['\x7b']
  | .closeBrace => ['\x7d']
  | .openBracket => ['[']
  | .closeBracket => [']']
  | .colon => [':']
  | .comma => [',']
  | .null => ['n', 'u', 'l', 'l']
  | .bool true => ['t', 'r', 'u', 'e']
  | .bool false => ['f', 'a', 'l', 's', 'e']
  | .number n => n.write
  | .text (some s) => writeText s
  | _ => []

/-- The fault met by who skips a value and finds this token in its place, or nothing if the token
is or starts a value. -/
def skipFault? : Token → Option Fault
  | .null | .bool _ | .number _ | .text _ | .openBrace | .openBracket => none
  | .brokenText _ skipped => some skipped
  | .brokenWord true => some .truncated
  | _ => some .malformed

/-- The fault met by who reads a value and finds this token in its place, or nothing if the token
is or starts a value that can be read. -/
def readFault? : Token → Option Fault
  | .null | .bool _ | .text (some _) | .openBrace | .openBracket => none
  | .number n => if n.inRange then none else some .malformed
  | .brokenText wanted _ => some wanted
  | .brokenNumber true | .brokenWord true => some .truncated
  | _ => some .malformed

end Token

end ClaimTracker.Json
