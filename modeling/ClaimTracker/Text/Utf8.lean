/-!
# UTF-8

`encode` writes characters as octets. `decode` reads octets back as glyphs: an octet sequence that
is the encoding of a character yields that character, and every octet that starts no such sequence
stands for itself. So decoding never fails, and text survives a round trip.
-/

namespace ClaimTracker.Text.Utf8

def encodeChar (c : Char) : List UInt8 :=
  let n := c.toNat
  if n < 0x80 then [n.toUInt8]
  else if n < 0x800 then [(0xC0 + n / 64).toUInt8, (0x80 + n % 64).toUInt8]
  else if n < 0x10000 then
    [(0xE0 + n / 4096).toUInt8, (0x80 + n / 64 % 64).toUInt8, (0x80 + n % 64).toUInt8]
  else
    [(0xF0 + n / 262144).toUInt8, (0x80 + n / 4096 % 64).toUInt8, (0x80 + n / 64 % 64).toUInt8,
      (0x80 + n % 64).toUInt8]

def encode (l : List Char) : List UInt8 :=
  l.flatMap encodeChar

/-- A decoded element: a character, or an octet that is part of none. -/
inductive Glyph where
  | char (c : Char)
  | stray (octet : UInt8)
deriving DecidableEq, Repr

def Glyph.size : Glyph → Nat
  | .char c => (encodeChar c).length
  | .stray _ => 1

/-- The six low bits of a continuation octet. -/
def tail (b : UInt8) : Nat :=
  b.toNat % 64

/-- The code point that the octets in front would stand for, going by the first of them. -/
def candidate : List UInt8 → Nat
  | [] => 0
  | a :: l =>
    let n := a.toNat
    match l with
    | b :: c :: d :: _ =>
      if n < 0x80 then n
      else if n < 0xE0 then n % 32 * 64 + tail b
      else if n < 0xF0 then (n % 16 * 64 + tail b) * 64 + tail c
      else ((n % 8 * 64 + tail b) * 64 + tail c) * 64 + tail d
    | b :: c :: _ =>
      if n < 0x80 then n
      else if n < 0xE0 then n % 32 * 64 + tail b
      else (n % 16 * 64 + tail b) * 64 + tail c
    | b :: _ =>
      if n < 0x80 then n else n % 32 * 64 + tail b
    | [] => n

/-- The character whose encoding stands in front, if there is one. -/
def front? (l : List UInt8) : Option Char :=
  let c := Char.ofNat (candidate l)
  if (encodeChar c).isPrefixOf l then some c else none

/-- Reads octets as characters, as far as they are. -/
def decode (l : List UInt8) : List Glyph :=
  match l with
  | [] => []
  | b :: r =>
    match front? (b :: r) with
    | some c => .char c :: decode (r.drop ((encodeChar c).length - 1))
    | none => .stray b :: decode r
termination_by l.length
decreasing_by all_goals simp; try omega

/-- The text that the octets encode, if they encode one. -/
def text? (l : List UInt8) : Option (List Char) :=
  (decode l).mapM fun
    | .char c => some c
    | .stray _ => none

def ofString (s : String) : List UInt8 :=
  encode s.toList

end ClaimTracker.Text.Utf8
