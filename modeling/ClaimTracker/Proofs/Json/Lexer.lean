import ClaimTracker.Json.Lexer
import ClaimTracker.Proofs.Json.Tokens
import ClaimTracker.Proofs.Text.Utf8

/-!
# Reading back written tokens

The characters of marks, words and texts are read as the tokens they were written for, whatever
follows them. So the document of a value that is made of such tokens is read as the tokens of the
value.
-/

namespace ClaimTracker.Json

open ClaimTracker.Text.Utf8

namespace Lexer

def glyphs (l : List Char) : List Glyph := l.map .char

@[simp] lemma glyphs_nil : glyphs [] = [] := rfl

@[simp] lemma glyphs_cons (c : Char) (l : List Char) : glyphs (c :: l) = .char c :: glyphs l := rfl

@[simp] lemma glyphs_append (l m : List Char) : glyphs (l ++ m) = glyphs l ++ glyphs m :=
  List.map_append

/-- The digits that a control is written with are those of its number. -/
lemma value?_control {c : Char} (h : c.toNat < 0x20) :
    Text.Hexadecimal.value? ['0', '0', Text.Hexadecimal.digit (c.toNat / 16),
      Text.Hexadecimal.digit c.toNat] = some c.toNat := by
  have zero : Text.Hexadecimal.digitValue? '0' = some 0 := by decide
  simp only [Text.Hexadecimal.value?, List.foldlM_cons, List.foldlM_nil, zero, Option.map_some,
    Option.bind_eq_bind, Option.bind_some, Text.Hexadecimal.digitValue?_digit, Option.pure_def,
    Option.some.injEq]
  omega

lemma isTrail_control {n : Nat} (h : n < 0x20) : isTrail n = false := by
  simp [isTrail]
  omega

lemma isLead_control {n : Nat} (h : n < 0x20) : isLead n = false := by
  simp [isLead]
  omega

/-- The escape of a control is read as the control. -/
lemma escape_control {c : Char} (h : c.toNat < 0x20) (l : List Glyph) :
    escape (.char 'u' :: .char '0' :: .char '0' ::
      .char (Text.Hexadecimal.digit (c.toNat / 16)) ::
        .char (Text.Hexadecimal.digit c.toNat) :: l) = .char c 5 := by
  simp [escape, hex4, value?_control h, isTrail_control h, isLead_control h]

/-- A backslash and what it introduces are read together. -/
lemma scanText_escape {c : Char} {n : Nat} {l : List Glyph} (h : escape l = .char c n) :
    scanText (.char '\\' :: l) = (scanText (l.drop n)).push c := by
  rw [scanText.eq_def]
  simp [h]

lemma scanText_letter {c letter : Char} (h : ∀ l, escape (.char letter :: l) = .char c 1)
    (l : List Glyph) : scanText (glyphs ['\\', letter] ++ l) = (scanText l).push c :=
  scanText_escape (h l)

/-- A written character is read as the character in front of what follows. -/
lemma scanText_writeChar (c : Char) (l : List Glyph) :
    scanText (glyphs (writeChar c) ++ l) = (scanText l).push c := by
  unfold writeChar
  by_cases quote : c = '"'
  · rw [if_pos quote, quote]
    exact scanText_letter (fun _ => rfl) l
  rw [if_neg quote]
  by_cases backslash : c = '\\'
  · rw [if_pos backslash, backslash]
    exact scanText_letter (fun _ => rfl) l
  rw [if_neg backslash]
  by_cases backspace : c = '\x08'
  · rw [if_pos backspace, backspace]
    exact scanText_letter (fun _ => rfl) l
  rw [if_neg backspace]
  by_cases feed : c = '\x0c'
  · rw [if_pos feed, feed]
    exact scanText_letter (fun _ => rfl) l
  rw [if_neg feed]
  by_cases line : c = '\n'
  · rw [if_pos line, line]
    exact scanText_letter (fun _ => rfl) l
  rw [if_neg line]
  by_cases carriage : c = '\r'
  · rw [if_pos carriage, carriage]
    exact scanText_letter (fun _ => rfl) l
  rw [if_neg carriage]
  by_cases tab : c = '\t'
  · rw [if_pos tab, tab]
    exact scanText_letter (fun _ => rfl) l
  rw [if_neg tab]
  by_cases control : c.toNat < 0x20
  · rw [if_pos control]
    exact scanText_escape (escape_control control l)
  · rw [if_neg control, glyphs_cons, glyphs_nil, List.singleton_append, scanText.eq_def]
    simp [quote, backslash, control]

/-- A written text is read up to its closing quote. -/
lemma scanText_written (l : List Char) (rest : List Glyph) :
    scanText (glyphs (l.flatMap writeChar) ++ .char '"' :: rest) = .closed (some l) rest := by
  induction l with
  | nil =>
    rw [List.flatMap_nil, glyphs_nil, List.nil_append, scanText.eq_def]
    simp
  | cons c l ih =>
    rw [List.flatMap_cons, glyphs_append, List.append_assoc, scanText_writeChar, ih]
    rfl

/-- A word is read letter by letter. -/
lemma word_glyphs (token : Token) (l : List Char) (rest : List Glyph) :
    word token l (glyphs l ++ rest) = .ok (token, rest) := by
  induction l with
  | nil => rfl
  | cons c l ih =>
    rw [glyphs_cons, List.cons_append, word, if_pos rfl]
    exact ih

/-- The first character of a written token and those after it are read as the token. -/
lemma exists_next {t : Token} (h : t.isDelimited = true) : ∃ c l, t.write = c :: l ∧
    isSpace (.char c) = false ∧ ∀ rest, next (.char c) (glyphs l ++ rest) = .ok (t, rest) := by
  cases t with
  | openBrace => exact ⟨_, _, rfl, rfl, fun _ => rfl⟩
  | closeBrace => exact ⟨_, _, rfl, rfl, fun _ => rfl⟩
  | openBracket => exact ⟨_, _, rfl, rfl, fun _ => rfl⟩
  | closeBracket => exact ⟨_, _, rfl, rfl, fun _ => rfl⟩
  | colon => exact ⟨_, _, rfl, rfl, fun _ => rfl⟩
  | comma => exact ⟨_, _, rfl, rfl, fun _ => rfl⟩
  | null => exact ⟨_, _, rfl, rfl, fun rest => word_glyphs _ _ rest⟩
  | bool b => cases b <;> exact ⟨_, _, rfl, rfl, fun rest => word_glyphs _ _ rest⟩
  | text content =>
    cases content with
    | none => cases h
    | some s =>
      refine ⟨'"', s.toList.flatMap writeChar ++ ['"'], rfl, rfl, fun rest => ?_⟩
      have scan := scanText_written s.toList rest
      rw [glyphs_append, List.append_assoc]
      change textToken (glyphs (s.toList.flatMap writeChar) ++ .char '"' :: rest) = _
      rw [textToken, scan]
      simp
  | number n => cases h
  | brokenText wanted skipped => cases h
  | brokenNumber atEnd => cases h
  | brokenWord atEnd => cases h
  | stray => cases h

end Lexer

open Lexer

/-- A token in front is read, and then what is left. -/
lemma lex_cons_of_next {g : Glyph} {r rest : List Glyph} {t : Token} (space : isSpace g = false)
    (next : Lexer.next g r = .ok (t, rest)) : lex (g :: r) = t :: lex rest := by
  rw [lex.eq_def]
  simp only [space, Bool.false_eq_true, if_false]
  split
  · rename_i token heq
    rw [next] at heq
    cases heq
  · rename_i token rest' heq
    rw [next] at heq
    cases heq
    rfl

lemma lex_write_append {t : Token} (h : t.isDelimited = true) (rest : List Glyph) :
    lex (glyphs t.write ++ rest) = t :: lex rest := by
  obtain ⟨c, l, hw, space, next⟩ := exists_next h
  rw [hw, glyphs_cons, List.cons_append]
  exact lex_cons_of_next space (next rest)

/-- Tokens that are written one after the other are read as they are, whatever follows them. -/
lemma lex_flatMap_write_append {l : List Token} (h : ∀ t ∈ l, t.isDelimited = true)
    (rest : List Glyph) : lex (glyphs (l.flatMap Token.write) ++ rest) = l ++ lex rest := by
  induction l with
  | nil => rfl
  | cons t l ih =>
    rw [List.flatMap_cons, glyphs_append, List.append_assoc, lex_write_append (h t List.mem_cons_self),
      ih fun u hu => h u (List.mem_cons_of_mem t hu), List.cons_append]

/-- Tokens at the front of a document are read as they are, whatever octets follow. -/
lemma lexOctets_octets_append {l : List Token} (h : ∀ t ∈ l, t.isDelimited = true)
    (rest : List UInt8) : lexOctets (octets l ++ rest) = l ++ lexOctets rest := by
  rw [lexOctets, octets, decode_encode_append]
  exact lex_flatMap_write_append h _

/-- The document of a value without numbers is read as its tokens. -/
theorem lexOctets_encode {j : Json} (h : j.IsDelimited) :
    lexOctets (encode j.write) = j.tokens := by
  have nothing : lexOctets [] = [] := by rw [lexOctets, decode, lex]
  have whole := lexOctets_octets_append h []
  rwa [List.append_nil, nothing, List.append_nil] at whole

end ClaimTracker.Json
