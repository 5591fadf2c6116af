import Mathlib.Tactic.SplitIfs
import ClaimTracker.Proofs.Json.Lexer
import ClaimTracker.Proofs.Json.Node

/-!
# How documents may be spelled

Between the tokens of a document there may be blanks. An exponent may have either letter, and a sign. A
character of a text may stand for itself or be escaped in one of several ways, and an escape may name
half a surrogate pair, which leaves the text without a content. However a document is spelled, it is
read as its tokens.
-/

namespace ClaimTracker.Json

open Lexer
open ClaimTracker.Text.Utf8

namespace Spelling

section Numbers

structure Digits (l : List Char) : Prop where
  ne_nil : l ≠ []
  digits : ∀ c ∈ l, c.isDigit = true

/-- The digits before the point. A zero stands alone. -/
structure Whole (l : List Char) : Prop extends Digits l where
  zero : ∀ r, l = '0' :: r → r = []

/-- The digits after the point, if there is one. -/
inductive Fraction : Option (List Char) → List Char → Prop
  | absent : Fraction none []
  | present {l : List Char} (h : Digits l) : Fraction (some l) ('.' :: l)

/-- The sign of an exponent; whether it is negative. -/
inductive Sign : Bool → List Char → Prop
  | none : Sign false []
  | plus : Sign false ['+']
  | minus : Sign true ['-']

inductive Exponent : Option (Bool × List Char) → List Char → Prop
  | absent : Exponent none []
  | present {negative : Bool} {sign l : List Char} {letter : Char} (e : letter = 'e' ∨ letter = 'E')
    (signed : Sign negative sign) (h : Digits l) :
    Exponent (some (negative, l)) (letter :: (sign ++ l))

inductive Numeral : Number → List Char → Prop
  | mk {whole fraction exponent : List Char} {f : Option (List Char)}
    {e : Option (Bool × List Char)} (negative : Bool) (h : Whole whole) (hf : Fraction f fraction)
    (he : Exponent e exponent) :
    Numeral ⟨negative, whole, f, e⟩
      ((if negative then ['-'] else []) ++ (whole ++ (fraction ++ exponent)))

/-- No number goes on with this. -/
def EndsNumber (l : List Char) : Prop :=
  ∀ c ∈ l.head?, c.isDigit = false ∧ c ≠ '.' ∧ c ≠ 'e' ∧ c ≠ 'E'

/-- All digits in front are read. -/
lemma digits_glyphs {ds l : List Char} (h : ∀ c ∈ ds, c.isDigit = true)
    (ends : ∀ c ∈ l.head?, c.isDigit = false) :
    Lexer.digits (glyphs (ds ++ l)) = (ds, glyphs l) := by
  induction ds with
  | nil =>
    cases l with
    | nil => rfl
    | cons c l => simp [Lexer.digits, ends c rfl]
  | cons c ds ih =>
    obtain ⟨hc, others⟩ := List.forall_mem_cons.mp h
    rw [List.cons_append, glyphs_cons, Lexer.digits, if_pos hc, ih others]

variable {l : List Char} {e : Option (Bool × List Char)} {f : Option (List Char)}
  {spelled whole : List Char} {negative : Bool}

lemma exponent_glyphs (h : Exponent e spelled) (ends : EndsNumber l) (negative : Bool)
    (whole : List Char) (f : Option (List Char)) :
    Lexer.exponent ⟨negative, whole, f, none⟩ (glyphs (spelled ++ l)) =
      .ok (⟨negative, whole, f, e⟩, glyphs l) := by
  rcases h with _ | ⟨e, signed, ⟨ne, digits⟩⟩
  · cases l with
    | nil => rfl
    | cons c l =>
      obtain ⟨-, -, small, large⟩ := ends c rfl
      simp [Lexer.exponent, small, large]
  · rename_i sign ds letter
    cases ds with
    | nil => exact absurd rfl ne
    | cons d ds =>
      have read : Lexer.digits (.char d :: glyphs (ds ++ l)) = (d :: ds, glyphs l) :=
        digits_glyphs digits fun c hc => (ends c hc).1
      have digit := digits d List.mem_cons_self
      have not_plus : d ≠ '+' := by
        rintro rfl
        cases digit
      have not_minus : d ≠ '-' := by
        rintro rfl
        cases digit
      cases signed <;> simp [Lexer.exponent, e, not_plus, not_minus, -glyphs_append, read]

/-- What may follow the digits before the point does not begin with a digit. -/
lemma head_exponent (h : Exponent e spelled) (ends : EndsNumber l) :
    ∀ c ∈ (spelled ++ l).head?, c.isDigit = false ∧ c ≠ '.' := by
  rcases h with _ | ⟨e, -, -⟩
  · exact fun c hc => ⟨(ends c hc).1, (ends c hc).2.1⟩
  · rintro c hc
    obtain rfl := Option.some.inj hc
    rcases e with rfl | rfl <;> decide

lemma fraction_glyphs {exponent : List Char} (hf : Fraction f spelled) (he : Exponent e exponent)
    (ends : EndsNumber l) (negative : Bool) (whole : List Char) :
    Lexer.fraction ⟨negative, whole, none, none⟩ (glyphs (spelled ++ (exponent ++ l))) =
      .ok (⟨negative, whole, f, e⟩, glyphs l) := by
  have head := head_exponent he ends
  have read := exponent_glyphs he ends negative whole
  rcases hf with _ | ⟨ne, digits⟩
  · rw [List.nil_append]
    cases follows : exponent ++ l with
    | nil => rw [← read none, follows]; rfl
    | cons c r =>
      rw [follows] at head
      rw [← read none, follows]
      simp [Lexer.fraction, (head c rfl).2]
  · rename_i ds
    have point : Lexer.digits (glyphs (ds ++ (exponent ++ l))) = (ds, glyphs (exponent ++ l)) :=
      digits_glyphs digits fun c hc => (head c hc).1
    cases ds with
    | nil => exact absurd rfl ne
    | cons d ds =>
      rw [List.cons_append, glyphs_cons, Lexer.fraction, point]
      exact read _

/-- Neither does a fraction. -/
lemma head_fraction {exponent : List Char} (hf : Fraction f spelled) (he : Exponent e exponent)
    (ends : EndsNumber l) : ∀ c ∈ (spelled ++ (exponent ++ l)).head?, c.isDigit = false := by
  rcases hf with _ | _
  · exact fun c hc => (head_exponent he ends c hc).1
  · intro c hc
    obtain rfl := Option.some.inj hc
    decide

lemma unsigned_glyphs {fraction exponent : List Char} (hw : Whole whole) (hf : Fraction f fraction)
    (he : Exponent e exponent) (ends : EndsNumber l) (negative : Bool) :
    Lexer.unsigned negative (glyphs (whole ++ (fraction ++ (exponent ++ l)))) =
      .ok (⟨negative, whole, f, e⟩, glyphs l) := by
  have front : Lexer.digits (glyphs (whole ++ (fraction ++ (exponent ++ l)))) =
      (whole, glyphs (fraction ++ (exponent ++ l))) :=
    digits_glyphs hw.digits (head_fraction hf he ends)
  have read := fraction_glyphs hf he ends negative whole
  cases whole with
  | nil => exact absurd rfl hw.ne_nil
  | cons d ds =>
    by_cases zero : d = '0'
    · subst zero
      obtain rfl := hw.zero ds rfl
      rw [Lexer.unsigned, front]
      exact read
    · rw [Lexer.unsigned, front]
      split
      · rename_i heq
        cases heq
      · rename_i heq
        cases heq
        exact absurd rfl zero
      · rename_i heq
        cases heq
        rw [if_neg zero]
        exact read

lemma ne_of_isDigit {c d : Char} (h : c.isDigit = true) (hd : d.isDigit = false) : c ≠ d := by
  rintro rfl
  rw [h] at hd
  cases hd

/-- A digit where a token may begin begins a number. -/
lemma next_digit {c : Char} (h : c.isDigit = true) (r : List Glyph) :
    Lexer.next (.char c) r = numberToken false (.char c :: r) := by
  simp [Lexer.next, mark?, word?, ne_of_isDigit h, h]

/-- The first character of a number and those after it are read as the number. -/
lemma Numeral.next {n : Number} (h : Numeral n spelled) (ends : EndsNumber l) :
    ∃ c r, spelled = c :: r ∧ isSpace (.char c) = false ∧
      Lexer.next (.char c) (glyphs (r ++ l)) = .ok (.number n, glyphs l) := by
  obtain ⟨negative, hw, hf, he⟩ := h
  rename_i whole fraction exponent f e
  have read := unsigned_glyphs hw hf he ends negative
  cases negative with
  | true =>
    refine ⟨'-', whole ++ (fraction ++ exponent), rfl, rfl, ?_⟩
    have minus : Lexer.next (.char '-') (glyphs (whole ++ (fraction ++ exponent) ++ l)) =
      numberToken true (glyphs (whole ++ (fraction ++ exponent) ++ l)) := rfl
    rw [minus, numberToken, List.append_assoc, List.append_assoc, read]
    rfl
  | false =>
    cases whole with
    | nil => exact absurd rfl hw.ne_nil
    | cons d ds =>
      have digit := hw.digits d List.mem_cons_self
      refine ⟨d, ds ++ (fraction ++ exponent), rfl, by simp [isSpace, ne_of_isDigit digit], ?_⟩
      rw [List.cons_append, glyphs_cons] at read
      rw [next_digit digit, numberToken, List.append_assoc, List.append_assoc, read]
      rfl

end Numbers

section Texts

inductive Letter : Char → Char → Prop
  | quote : Letter '"' '"'
  | backslash : Letter '\\' '\\'
  | slash : Letter '/' '/'
  | backspace : Letter 'b' '\x08'
  | feed : Letter 'f' '\x0c'
  | line : Letter 'n' '\n'
  | carriage : Letter 'r' '\r'
  | tab : Letter 't' '\t'

inductive Code : Nat → List Char → Prop
  | mk {n : Nat} {a b c d : Char} (h : Text.Hexadecimal.value? [a, b, c, d] = some n) :
    Code n ['\\', 'u', a, b, c, d]

def paired (lead trail : Nat) : Char :=
  Char.ofNat ((lead - 0xD800) * 0x400 + (trail - 0xDC00) + 0x10000)

/-- What stands between the quotes of a text, and the content of the text. Half a surrogate pair
leaves it without. -/
inductive Content : Option (List Char) → List Char → Prop
  | nil : Content (some []) []
  | plain {c : Char} {content : Option (List Char)} {l : List Char} (not_quote : c ≠ '"')
    (not_backslash : c ≠ '\\') (not_control : 0x20 ≤ c.toNat) (h : Content content l) :
    Content (content.map (c :: ·)) (c :: l)
  | letter {letter c : Char} {content : Option (List Char)} {l : List Char} (escapes : Letter letter c)
    (h : Content content l) : Content (content.map (c :: ·)) ('\\' :: letter :: l)
  | code {n : Nat} {code : List Char} {content : Option (List Char)} {l : List Char}
    (escapes : Code n code) (not_lead : isLead n = false) (not_trail : isTrail n = false)
    (h : Content content l) : Content (content.map (Char.ofNat n :: ·)) (code ++ l)
  | pair {m n : Nat} {lead trail : List Char} {content : Option (List Char)} {l : List Char}
    (first : Code m lead) (hm : isLead m = true) (second : Code n trail) (hn : isTrail n = true)
    (h : Content content l) : Content (content.map (paired m n :: ·)) (lead ++ (trail ++ l))
  | trail {n : Nat} {trail : List Char} {content : Option (List Char)} {l : List Char}
    (escapes : Code n trail) (hn : isTrail n = true) (h : Content content l) :
    Content none (trail ++ l)
  | lead {m : Nat} {lead : List Char} {content : Option (List Char)} {l : List Char}
    (escapes : Code m lead) (hm : isLead m = true)
    (alone : ∀ n trail r, Code n trail → isTrail n = true → l ≠ trail ++ r)
    (h : Content content l) : Content none (lead ++ l)

variable {content : Option (List Char)} {l : List Char} {n : Nat} {code : List Char}

lemma isTrail_of_isLead (h : isLead n = true) : isTrail n = false := by
  simp only [isLead, Bool.and_eq_true, decide_eq_true_eq] at h
  simp only [isTrail, Bool.and_eq_false_iff, decide_eq_false_iff_not]
  omega

lemma escape_code {a b c d : Char} (h : Text.Hexadecimal.value? [a, b, c, d] = some n)
    (l : List Glyph) : escape (.char 'u' :: .char a :: .char b :: .char c :: .char d :: l) =
      if isTrail n then .lone 5 else if isLead n then secondHalf n l else .char (Char.ofNat n) 5 := by
  simp [escape, hex4, h]

lemma secondHalf_code {a b c d : Char} (h : Text.Hexadecimal.value? [a, b, c, d] = some n) (m : Nat)
    (l : List Glyph) :
    secondHalf m (.char '\\' :: .char 'u' :: .char a :: .char b :: .char c :: .char d :: l) =
      if isTrail n then .char (paired m n) 11 else .lone 5 := by
  simp [secondHalf, hex4, h, paired]

/-- A first half without a second one stands alone. -/
lemma Content.secondHalf (h : Content content l)
    (alone : ∀ n trail r, Code n trail → isTrail n = true → l ≠ trail ++ r) (m : Nat)
    (rest : List Glyph) : Lexer.secondHalf m (glyphs l ++ .char '"' :: rest) = .lone 5 := by
  cases h with
  | nil => rfl
  | plain _ not_backslash => simp [Lexer.secondHalf, not_backslash]
  | letter escapes => cases escapes <;> rfl
  | code escapes _ not_trail =>
    obtain ⟨h⟩ := escapes
    simp [secondHalf_code h, not_trail]
  | pair first hm =>
    obtain ⟨h⟩ := first
    simp [secondHalf_code h, isTrail_of_isLead hm]
  | trail escapes hn => exact absurd rfl (alone _ _ _ escapes hn)
  | lead escapes hm =>
    obtain ⟨h⟩ := escapes
    simp [secondHalf_code h, isTrail_of_isLead hm]

lemma scanText_lone {k : Nat} {l : List Glyph} (h : escape l = .lone k) :
    scanText (.char '\\' :: l) = (scanText (l.drop k)).reject := by
  rw [scanText.eq_def]
  simp [h]

/-- A text is read up to its closing quote. -/
lemma Content.scanText (h : Content content l) (rest : List Glyph) :
    Lexer.scanText (glyphs l ++ .char '"' :: rest) = .closed content rest := by
  induction h with
  | nil =>
    rw [glyphs_nil, List.nil_append, scanText.eq_def]
    simp
  | plain not_quote not_backslash not_control _ ih =>
    rw [glyphs_cons, List.cons_append, scanText.eq_def]
    simp [not_quote, not_backslash, Nat.not_lt.mpr not_control, ih, Scan.push]
  | letter escapes _ ih =>
    rw [glyphs_cons, glyphs_cons, List.cons_append, List.cons_append, scanText_escape (n := 1)]
    · exact congrArg _ ih
    · cases escapes <;> rfl
  | code escapes not_lead not_trail _ ih =>
    obtain ⟨h⟩ := escapes
    refine (scanText_escape (n := 5) ?_).trans (congrArg _ ih)
    simp [escape_code h, not_lead, not_trail]
  | pair first hm second hn _ ih =>
    obtain ⟨h⟩ := first
    obtain ⟨h'⟩ := second
    refine (scanText_escape (n := 11) ?_).trans (congrArg _ ih)
    simp [escape_code h, secondHalf_code h', hm, hn, isTrail_of_isLead hm]
  | trail escapes hn _ ih =>
    obtain ⟨h⟩ := escapes
    refine (scanText_lone (k := 5) ?_).trans (congrArg _ ih)
    simp [escape_code h, hn]
  | lead escapes hm alone h' ih =>
    obtain ⟨h⟩ := escapes
    rw [List.cons_append, glyphs_cons, List.cons_append, scanText_lone (k := 5)]
    · exact congrArg _ ih
    · simp [escape_code h, hm, isTrail_of_isLead hm, h'.secondHalf alone]

/-- A written character is a spelling of it. -/
lemma Content.writeChar (c : Char) (h : Content content l) :
    Content (content.map (c :: ·)) (writeChar c ++ l) := by
  unfold Json.writeChar
  split_ifs with quote backslash backspace feed line carriage tab control
  · subst quote
    exact .letter .quote h
  · subst backslash
    exact .letter .backslash h
  · subst backspace
    exact .letter .backspace h
  · subst feed
    exact .letter .feed h
  · subst line
    exact .letter .line h
  · subst carriage
    exact .letter .carriage h
  · subst tab
    exact .letter .tab h
  · have code := h.code ⟨value?_control control⟩ (isLead_control control) (isTrail_control control)
    rwa [Char.ofNat_toNat] at code
  · exact .plain quote backslash (Nat.not_lt.mp control) h

lemma content_flatMap_writeChar (l : List Char) : Content (some l) (l.flatMap Json.writeChar) := by
  induction l with
  | nil => exact .nil
  | cons c l ih => exact ih.writeChar c

end Texts

section Documents

/-- The characters that may stand between tokens. -/
def IsBlank (c : Char) : Prop :=
  c = ' ' ∨ c = '\n' ∨ c = '\t' ∨ c = '\r'

def IsFixed : Token → Prop
  | .openBrace | .closeBrace | .openBracket | .closeBracket | .colon | .comma | .null | .bool _ => True
  | _ => False

inductive Word : Token → List Char → Prop
  | fixed {t : Token} (h : IsFixed t) : Word t t.write
  | text {content : Option (List Char)} {l : List Char} (h : Content content l) :
    Word (.text (content.map String.ofList)) ('"' :: (l ++ ['"']))
  | number {n : Number} {l : List Char} (h : Numeral n l) : Word (.number n) l

/-- The spellings of a document: those of its tokens, with blanks anywhere between them. A number ends
where it cannot go on. -/
inductive Spells : List Token → List Char → Prop
  | nil : Spells [] []
  | blank {c : Char} {ts : List Token} {l : List Char} (h : IsBlank c) (others : Spells ts l) :
    Spells ts (c :: l)
  | token {t : Token} {ts : List Token} {w l : List Char} (h : Word t w)
    (ends : ∀ n, t = .number n → EndsNumber l) (others : Spells ts l) : Spells (t :: ts) (w ++ l)

variable {t : Token} {ts : List Token} {w l : List Char}

/-- The first character of a token and those after it are read as the token. -/
lemma Word.next (h : Word t w) (ends : ∀ n, t = .number n → EndsNumber l) :
    ∃ c r, w = c :: r ∧ isSpace (.char c) = false ∧
      Lexer.next (.char c) (glyphs (r ++ l)) = .ok (t, glyphs l) := by
  cases h with
  | fixed h =>
    have delimited : t.isDelimited = true := by cases t <;> first | rfl | cases h
    obtain ⟨c, r, hw, space, next⟩ := exists_next delimited
    exact ⟨c, r, hw, space, by rw [glyphs_append, next]⟩
  | @text content r h =>
    refine ⟨'"', r ++ ['"'], rfl, rfl, ?_⟩
    have scan := h.scanText (glyphs l)
    change textToken (glyphs (r ++ ['"'] ++ l)) = _
    rw [textToken, List.append_assoc, glyphs_append, List.singleton_append, glyphs_cons, scan]
  | number h => exact h.next (ends _ rfl)

lemma isSpace_of_isBlank {c : Char} (h : IsBlank c) : isSpace (.char c) = true := by
  rcases h with rfl | rfl | rfl | rfl <;> rfl

/-- A document is read as its tokens, however it is spelled. -/
lemma Spells.lex (h : Spells ts l) : lex (glyphs l) = ts := by
  induction h with
  | nil => rw [glyphs_nil, Json.lex]
  | blank blank _ ih =>
    have space : isSpace (.char _) = true := isSpace_of_isBlank blank
    rw [glyphs_cons, lex.eq_def]
    simp only [space, if_true, ih]
  | token word ends _ ih =>
    obtain ⟨c, r, rfl, space, next⟩ := word.next ends
    rw [List.cons_append, glyphs_cons, lex_cons_of_next space next, ih]

/-- Tokens written one after the other are a spelling of them. -/
lemma spells_flatMap_write (h : ∀ t ∈ ts, t.isDelimited = true) :
    Spells ts (ts.flatMap Token.write) := by
  induction ts with
  | nil => exact .nil
  | cons t ts ih =>
    obtain ⟨delimited, others⟩ := List.forall_mem_cons.mp h
    have ends : ∀ n, t = .number n → EndsNumber (ts.flatMap Token.write) := by
      rintro n rfl
      cases delimited
    refine .token ?_ ends (ih others)
    cases t with
    | text content =>
      obtain ⟨s, rfl⟩ := Option.isSome_iff_exists.mp delimited
      have spelled := Word.text (content_flatMap_writeChar s.toList)
      simpa [Token.write, writeText] using spelled
    | _ => first | exact .fixed trivial | cases delimited

end Documents

end Spelling

def Node.IsSpelled (n : Node) (octets : List UInt8) : Prop :=
  ∃ l, Spelling.Spells n.tokens l ∧ octets = encode l

/-- The octets that delimited tokens are written as spell their value. -/
lemma Node.isSpelled_octets {n : Node} (h : ∀ t ∈ n.tokens, t.isDelimited = true) :
    n.IsSpelled (octets n.tokens) :=
  ⟨_, Spelling.spells_flatMap_write h, rfl⟩

lemma Node.IsSpelled.lexOctets {n : Node} {octets : List UInt8} (h : n.IsSpelled octets) :
    lexOctets octets = n.tokens := by
  obtain ⟨l, spells, rfl⟩ := h
  rw [Json.lexOctets, decode_encode]
  exact spells.lex

end ClaimTracker.Json
