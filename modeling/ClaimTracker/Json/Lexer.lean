import ClaimTracker.Json.Token

/-!
# From octets to tokens

`lex` splits a decoded document into tokens. Blanks between tokens are spaces, tabs, line feeds
and carriage returns. The first place that fits no token ends the list with a token that says so.
-/

namespace ClaimTracker.Json

open ClaimTracker.Text.Utf8

namespace Lexer

def isSpace : Glyph → Bool
  | .char c => c == ' ' || c == '\n' || c == '\t' || c == '\r'
  | .stray _ => false

/-- Reads four hexadecimal digits. Fewer than four octets are a truncated document. -/
def hex4 : List Glyph → Except Fault Nat
  | .char a :: .char b :: .char c :: .char d :: l =>
    match Text.Hexadecimal.value? [a, b, c, d] with
    | some n => .ok n
    | none => short (.char a :: .char b :: .char c :: .char d :: l)
  | l => short l
where
  short (l : List Glyph) : Except Fault Nat :=
    if (l.take 4).foldl (fun n g => n + g.size) 0 < 4 then .error .truncated else .error .malformed

/-- What a backslash inside a text introduces, and how many elements after the backslash it takes. -/
inductive Escape where
  | char (c : Char) (length : Nat)
  /-- Half of a surrogate pair: no character, but harmless to who skips the text. -/
  | lone (length : Nat)
  | broken (fault : Fault)
deriving DecidableEq, Repr

def isLead (n : Nat) : Bool := 0xD800 ≤ n && n ≤ 0xDBFF

def isTrail (n : Nat) : Bool := 0xDC00 ≤ n && n ≤ 0xDFFF

/-- Reads the second half of a surrogate pair, where the first has just been read. -/
def secondHalf (lead : Nat) (l : List Glyph) : Escape :=
  match l with
  | [] | [.char '\\'] => .broken .truncated
  | .char '\\' :: .char 'u' :: r =>
    match hex4 r with
    | .error fault => .broken fault
    | .ok n =>
      if isTrail n then
        .char (Char.ofNat ((lead - 0xD800) * 0x400 + (n - 0xDC00) + 0x10000)) 11
      else .lone 5
  | _ => .lone 5

/-- Reads what follows a backslash. -/
def escape : List Glyph → Escape
  | [] => .broken .truncated
  | .char '"' :: _ => .char '"' 1
  | .char '\\' :: _ => .char '\\' 1
  | .char '/' :: _ => .char '/' 1
  | .char 'b' :: _ => .char '\x08' 1
  | .char 'f' :: _ => .char '\x0c' 1
  | .char 'n' :: _ => .char '\n' 1
  | .char 'r' :: _ => .char '\r' 1
  | .char 't' :: _ => .char '\t' 1
  | .char 'u' :: l =>
    match hex4 l with
    | .error fault => .broken fault
    | .ok n =>
      if isTrail n then .lone 5
      else if isLead n then secondHalf n (l.drop 4)
      else .char (Char.ofNat n) 5
  | _ => .broken .malformed

/-- A text as read so far from its end: closed, with its content if it has one and the elements
after it, or broken, with the faults met by who wants the content and who skips it. -/
inductive Scan where
  | closed (content : Option (List Char)) (rest : List Glyph)
  | broken (wanted skipped : Fault)
deriving DecidableEq, Repr

namespace Scan

/-- The text with a character in front. -/
def push (c : Char) : Scan → Scan
  | .closed content rest => .closed (content.map (c :: ·)) rest
  | .broken wanted skipped => .broken wanted skipped

/-- The text with an octet in front that is no character; that is noticed at the closing quote. -/
def spoil : Scan → Scan
  | .closed _ rest => .closed none rest
  | .broken wanted skipped => .broken wanted skipped

/-- The text with half a surrogate pair in front; that is noticed at once. -/
def reject : Scan → Scan
  | .closed _ rest => .closed none rest
  | .broken _ skipped => .broken .malformed skipped

end Scan

/-- Reads a text whose opening quote has been read. -/
def scanText (l : List Glyph) : Scan :=
  match l with
  | [] => .broken .truncated .truncated
  | .stray _ :: r => (scanText r).spoil
  | .char c :: r =>
    if c = '"' then .closed (some []) r
    else if c = '\\' then
      match escape r with
      | .char c length => (scanText (r.drop length)).push c
      | .lone length => (scanText (r.drop length)).reject
      | .broken fault => .broken fault fault
    else if c.toNat < 0x20 then .broken .malformed .malformed
    else (scanText r).push c
termination_by l.length
decreasing_by all_goals simp; try omega

def digits : List Glyph → List Char × List Glyph
  | .char c :: l =>
    if c.isDigit then
      let (ds, rest) := digits l
      (c :: ds, rest)
    else ([], .char c :: l)
  | l => ([], l)

def badNumber (l : List Glyph) : Except Token (Number × List Glyph) :=
  .error (.brokenNumber l.isEmpty)

/-- Reads an exponent, where there is one, and completes the number. -/
def exponent (n : Number) (l : List Glyph) : Except Token (Number × List Glyph) :=
  let signed (negative : Bool) (l : List Glyph) :=
    match digits l with
    | ([], rest) => badNumber rest
    | (ds, rest) => .ok ({ n with exponent := some (negative, ds) }, rest)
  match l with
  | .char c :: l =>
    if c = 'e' ∨ c = 'E' then
      match l with
      | .char '+' :: l => signed false l
      | .char '-' :: l => signed true l
      | l => signed false l
    else .ok (n, .char c :: l)
  | l => .ok (n, l)

/-- Reads a fraction and an exponent, where there are some. -/
def fraction (n : Number) (l : List Glyph) : Except Token (Number × List Glyph) :=
  match l with
  | .char '.' :: l =>
    match digits l with
    | ([], rest) => badNumber rest
    | (ds, rest) => exponent { n with fraction := some ds } rest
  | l => exponent n l

/-- Reads a number after its sign. A zero stands alone before the point. -/
def unsigned (negative : Bool) (l : List Glyph) : Except Token (Number × List Glyph) :=
  match digits l with
  | ([], rest) => badNumber rest
  | (['0'], rest) => fraction ⟨negative, ['0'], none, none⟩ rest
  | (d :: ds, rest) =>
    if d = '0' then badNumber [.char d] else fraction ⟨negative, d :: ds, none, none⟩ rest

def word (token : Token) : List Char → List Glyph → Except Token (Token × List Glyph)
  | [], l => .ok (token, l)
  | _ :: _, [] => .error (.brokenWord true)
  | c :: cs, g :: l => if g = .char c then word token cs l else .error (.brokenWord false)

/-- The token that a mark stands for. -/
def mark? (c : Char) : Option Token :=
  if c = '\x7b' then some .openBrace
  else if c = '\x7d' then some .closeBrace
  else if c = '[' then some .openBracket
  else if c = ']' then some .closeBracket
  else if c = ':' then some .colon
  else if c = ',' then some .comma
  else none

/-- The token of the word that a letter begins, and the letters that follow. -/
def word? (c : Char) : Option (Token × List Char) :=
  if c = 'n' then some (.null, ['u', 'l', 'l'])
  else if c = 't' then some (.bool true, ['r', 'u', 'e'])
  else if c = 'f' then some (.bool false, ['a', 'l', 's', 'e'])
  else none

def textToken (l : List Glyph) : Except Token (Token × List Glyph) :=
  match scanText l with
  | .closed content rest => .ok (.text (content.map String.ofList), rest)
  | .broken wanted skipped => .error (.brokenText wanted skipped)

def numberToken (negative : Bool) (l : List Glyph) : Except Token (Token × List Glyph) :=
  (unsigned negative l).map fun (n, rest) => (.number n, rest)

/-- Reads the token in front, or the token that says why there is none. -/
def next (g : Glyph) (l : List Glyph) : Except Token (Token × List Glyph) :=
  match g with
  | .stray _ => .error .stray
  | .char c =>
    match mark? c, word? c with
    | some token, _ => .ok (token, l)
    | none, some (token, letters) => word token letters l
    | none, none =>
      if c = '"' then textToken l
      else if c = '-' then numberToken true l
      else if c.isDigit then numberToken false (.char c :: l)
      else .error .stray

theorem length_digits (l : List Glyph) :
    (digits l).1.length + (digits l).2.length = l.length := by
  induction l with
  | nil => simp [digits]
  | cons g l ih =>
    cases g with
    | stray b => simp [digits]
    | char c => simp only [digits]; split <;> simp; omega

theorem length_rest_scanText {l rest : List Glyph} {content : Option (List Char)}
    (h : scanText l = .closed content rest) : rest.length ≤ l.length := by
  fun_induction scanText l generalizing content with
  | case1 => cases h
  | case2 b r ih =>
    cases hs : scanText r with
    | broken wanted skipped => rw [hs] at h; cases h
    | closed content' rest' =>
      rw [hs] at h
      cases h
      have := ih hs
      simp; omega
  | case3 r => cases h; simp
  | case4 r c length he hq ih =>
    cases hs : scanText (r.drop length) with
    | broken wanted skipped => rw [hs] at h; cases h
    | closed content' rest' =>
      rw [hs] at h
      cases h
      have := ih hs
      simp at this ⊢; omega
  | case5 r length he hq ih =>
    cases hs : scanText (r.drop length) with
    | broken wanted skipped => rw [hs] at h; cases h
    | closed content' rest' =>
      rw [hs] at h
      cases h
      have := ih hs
      simp at this ⊢; omega
  | case6 => cases h
  | case7 => cases h
  | case8 c r hq hb hc ih =>
    cases hs : scanText r with
    | broken wanted skipped => rw [hs] at h; cases h
    | closed content' rest' =>
      rw [hs] at h
      cases h
      have := ih hs
      simp; omega

theorem length_rest_exponent {n m : Number} {l rest : List Glyph}
    (h : exponent n l = .ok (m, rest)) : rest.length ≤ l.length := by
  have signed : ∀ {negative : Bool} {l' : List Glyph},
      (match digits l' with
        | ([], rest) => badNumber rest
        | (ds, rest) => .ok ({ n with exponent := some (negative, ds) }, rest)) =
        Except.ok (m, rest) → rest.length ≤ l'.length := by
    intro negative l' h
    have hd := length_digits l'
    split at h
    · cases h
    · next heq => rw [heq] at hd; cases h; simp at hd; omega
  simp only [exponent] at h
  split at h
  · split at h
    · split at h
      all_goals
        have := signed h
        simp at this ⊢; omega
    · cases h; simp
  · cases h; simp

theorem length_rest_fraction {n m : Number} {l rest : List Glyph}
    (h : fraction n l = .ok (m, rest)) : rest.length ≤ l.length := by
  simp only [fraction] at h
  split at h
  · next l' =>
    have hd := length_digits l'
    split at h
    · cases h
    · next heq =>
      rw [heq] at hd
      have := length_rest_exponent h
      simp at hd ⊢; omega
  · exact length_rest_exponent h

/-- A number takes at least one digit. -/
theorem length_rest_unsigned {negative : Bool} {m : Number} {l rest : List Glyph}
    (h : unsigned negative l = .ok (m, rest)) : rest.length < l.length := by
  have hd := length_digits l
  simp only [unsigned] at h
  split at h
  · cases h
  · next heq =>
    rw [heq] at hd
    have := length_rest_fraction h
    simp at hd; omega
  · next heq =>
    rw [heq] at hd
    split at h
    · cases h
    · have := length_rest_fraction h
      simp at hd; omega

theorem length_rest_word {token t : Token} {cs : List Char} {l rest : List Glyph}
    (h : word token cs l = .ok (t, rest)) : rest.length ≤ l.length := by
  induction cs generalizing l with
  | nil => cases h; exact Nat.le_refl _
  | cons c cs ih =>
    cases l with
    | nil => cases h
    | cons g l =>
      simp only [word] at h
      split at h
      · have := ih h; simp; omega
      · cases h

theorem length_rest_numberToken {negative : Bool} {token : Token} {l rest : List Glyph}
    (h : numberToken negative l = .ok (token, rest)) : rest.length < l.length := by
  cases hu : unsigned negative l with
  | error t => rw [numberToken, hu] at h; cases h
  | ok r => rw [numberToken, hu] at h; cases h; exact length_rest_unsigned hu

theorem length_rest_textToken {token : Token} {l rest : List Glyph}
    (h : textToken l = .ok (token, rest)) : rest.length ≤ l.length := by
  cases hs : scanText l with
  | closed content r => rw [textToken, hs] at h; cases h; exact length_rest_scanText hs
  | broken wanted skipped => rw [textToken, hs] at h; cases h

/-- A token takes at least the element it starts with. -/
theorem length_rest_next {g : Glyph} {l rest : List Glyph} {token : Token}
    (h : next g l = .ok (token, rest)) : rest.length ≤ l.length := by
  cases g with
  | stray b => cases h
  | char c =>
    rw [next] at h
    generalize mark? c = m, word? c = w at h
    match m, w with
    | some t, _ => cases h; exact Nat.le_refl _
    | none, some (t, letters) => exact length_rest_word h
    | none, none =>
      by_cases hq : c = '"'
      · rw [if_pos hq] at h; exact length_rest_textToken h
      rw [if_neg hq] at h
      by_cases hm : c = '-'
      · rw [if_pos hm] at h; exact Nat.le_of_lt (length_rest_numberToken h)
      rw [if_neg hm] at h
      by_cases hd : c.isDigit = true
      · rw [if_pos hd] at h; exact Nat.le_of_lt_succ (length_rest_numberToken h)
      · rw [if_neg hd] at h; cases h

end Lexer

def lex (l : List Glyph) : List Token :=
  match l with
  | [] => []
  | g :: r =>
    if Lexer.isSpace g then lex r
    else
      match next : Lexer.next g r with
      | .error token => [token]
      | .ok (token, rest) =>
        have := Lexer.length_rest_next next
        token :: lex rest
termination_by l.length

def lexOctets (l : List UInt8) : List Token :=
  lex (decode l)

def lexText (s : String) : List Token :=
  lex (s.toList.map .char)

end ClaimTracker.Json
