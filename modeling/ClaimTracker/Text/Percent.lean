import ClaimTracker.Text.Digits
import ClaimTracker.Text.Utf8

/-!
# Percent encoding

Characters that may not stand in an address are written as their octets, each as a percent sign and
two hexadecimal digits. In a query a blank is written as a plus sign, and pairs of a name and a value
are joined by ampersands.
-/

namespace ClaimTracker.Text.Percent

/-- An octet as a percent sign and two upper-case hexadecimal digits. -/
def encodeOctet (b : UInt8) : List Char :=
  ['%', Hexadecimal.upperDigit (b.toNat / 16), Hexadecimal.upperDigit b.toNat]

/-- A character: itself if it may stand, and else its octets. -/
def encodeChar (mayStand : Char → Bool) (c : Char) : List Char :=
  if mayStand c then [c] else (Utf8.encodeChar c).flatMap encodeOctet

/-- Reads encoded octets. A percent sign without two digits stands for itself. -/
def decode : List Char → List UInt8
  | '%' :: a :: b :: l =>
    match Hexadecimal.value? [a, b] with
    | some n => n.toUInt8 :: decode l
    | none => 0x25 :: decode (a :: b :: l)
  | c :: l => Utf8.encodeChar c ++ decode l
  | [] => []

def standsInQuery (c : Char) : Bool :=
  c.isAlphanum || c == '*' || c == '-' || c == '.' || c == '_'

def encodePart (s : String) : List Char :=
  s.toList.flatMap fun c => if c = ' ' then ['+'] else encodeChar standsInQuery c

def shown : Utf8.Glyph → Char
  | .char c => c
  | .stray _ => '\uFFFD'

/-- The text shown for octets. -/
def shownText (l : List UInt8) : String :=
  String.ofList ((Utf8.decode l).map shown)

def decodePart (l : List Char) : String :=
  shownText (decode (l.map fun c => if c = '+' then ' ' else c))

def encodePair (pair : String × String) : List Char :=
  encodePart pair.1 ++ '=' :: encodePart pair.2

/-- Reads a pair of a query. What has no equals sign is a name. -/
def decodePair (l : List Char) : String × String :=
  (decodePart (l.takeWhile (· != '=')), decodePart ((l.dropWhile (· != '=')).drop 1))

end ClaimTracker.Text.Percent
