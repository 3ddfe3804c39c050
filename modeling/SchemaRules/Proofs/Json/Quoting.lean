import Mathlib.Data.List.Forall2
import SchemaRules.Json.Printer
import SchemaRules.Json.Reader

/-!
# Reading a string

What a reader takes off the front of a text is said without the bounds on what is left. Blanks may
stand there, and are passed over.

A string may write each of its characters as it is or with an escape, and is read as what they
stand for. A printed string is one of its spellings: those characters that a string cannot hold as
they are, are escaped.

* `Yields`: a result is a value, with what is left after it.
* `word_yields`, `colon_yields`: a word is read, and a colon between blanks.
* `Letter`, `Literal`: how a character and a string may be written.
* `text_literal`: a string is read, with any text after it.
* `literal_quote`: a printed string is written in one of these ways.
-/

namespace SchemaRules.Json

/-! ## The front of a text -/

section

variable {α : Type} {n : Nat}

/-- A reading succeeds with a value and leaves a text. -/
def Yields (result : Except Failure (Step α n)) (a : α) (rest : List Char) : Prop :=
  ∃ short, result = .ok ⟨a, rest, short⟩

namespace Yields

variable {result : Except Failure (Step α n)} {a : α} {rest : List Char}

theorem of_ok {st : Step α n} (hvalue : st.value = a) (hrest : st.rest = rest) :
    Yields (.ok st) a rest := by
  obtain ⟨value, left, short⟩ := st
  cases hvalue
  cases hrest
  exact ⟨short, rfl⟩

end Yields

/-- A text of blanks. -/
def Blank (w : List Char) : Prop :=
  ∀ c ∈ w, isBlank c = true

instance (w : List Char) : Decidable (Blank w) :=
  decidable_of_iff (w.all isBlank = true) List.all_eq_true

theorem Blank.nil : Blank [] :=
  fun _ h => absurd h List.not_mem_nil

theorem skipBlank_blank {w : List Char} (hw : Blank w) : skipBlank w = [] := by
  unfold skipBlank
  rw [← List.append_nil w, List.dropWhile_append_of_pos hw, List.dropWhile_nil]

theorem skipBlank_append {w : List Char} (hw : Blank w) {c : Char} (hc : isBlank c = false)
    (r : List Char) : skipBlank (w ++ c :: r) = c :: r := by
  unfold skipBlank
  rw [List.dropWhile_append_of_pos hw, List.dropWhile_cons_of_neg (by simp [hc])]

theorem word_yields (w rest : List Char) : Yields (word w (w ++ rest)) () rest := by
  induction w with
  | nil => exact .of_ok rfl rfl
  | cons c w ih =>
    obtain ⟨_, ih⟩ := ih
    rw [List.cons_append, word, if_pos rfl, ih]
    exact .of_ok rfl rfl

theorem ne_of_isDigit {c d : Char} (hc : c.isDigit = true) (hd : d.isDigit = false) : c ≠ d := by
  rintro rfl
  rw [hc] at hd
  cases hd

theorem eq_of_isBlank {c : Char} (h : isBlank c = true) :
    c = ' ' ∨ c = '\n' ∨ c = '\t' ∨ c = '\r' := by
  simpa [isBlank, or_assoc] using h

theorem isBlank_of_isDigit {c : Char} (hc : c.isDigit = true) : isBlank c = false := by
  rw [← Bool.not_eq_true]
  intro hblank
  rcases eq_of_isBlank hblank with rfl | rfl | rfl | rfl <;> exact absurd hc (by decide)

/-- A colon between blanks is read with the blanks before it. -/
theorem colon_yields {w : List Char} (hw : Blank w) (r : List Char) :
    Yields (colon (w ++ ':' :: r)) () r := by
  have hs := skipBlank_append hw (by decide : isBlank ':' = false) r
  unfold colon
  split
  · next h => cases hs.symm.trans h
  · next c t h =>
    cases hs.symm.trans h
    rw [if_pos rfl]
    exact .of_ok rfl rfl

end

/-! ## How a string may be written -/

/-- Four hexadecimal digits write a number. -/
def HexCode (n : Nat) (digits : List Char) : Prop :=
  ∃ p q r s, digits = [p, q, r, s] ∧ hex4? p q r s = some n

/-- How a string may write a character: as it is, with a short escape, with the character's code,
or with the codes of a surrogate pair. -/
inductive Letter : Char → List Char → Prop where
  | plain {c : Char} (hquote : c ≠ '"') (hback : c ≠ '\\') (hcontrol : ¬c.toNat < 32) :
      Letter c [c]
  | short {c x : Char} (h : shortEscape? x = some c) : Letter c ['\\', x]
  | code {n : Nat} {digits : List Char} (h : HexCode n digits) (hn : n < 0xD800 ∨ 0xDFFF < n) :
      Letter (Char.ofNat n) ('\\' :: 'u' :: digits)
  | pair {high low : Nat} {digits digits' : List Char} (h : HexCode high digits)
      (h' : HexCode low digits') (hhigh : 0xD800 ≤ high ∧ high ≤ 0xDBFF)
      (hlow : 0xDC00 ≤ low ∧ low ≤ 0xDFFF) :
      Letter (Char.ofNat ((high - 0xD800) * 1024 + (low - 0xDC00) + 0x10000))
        ('\\' :: 'u' :: (digits ++ '\\' :: 'u' :: digits'))

/-- A text is a string between quotes, each of its characters written in one of the ways. -/
def Literal (s : String) (text : List Char) : Prop :=
  ∃ letters, List.Forall₂ Letter s.toList letters ∧ text = '"' :: (letters.flatten ++ ['"'])

/-! ## Escapes -/

theorem hexCode_yields {n : Nat} {digits : List Char} (h : HexCode n digits) (rest : List Char) :
    Yields (hexCode (digits ++ rest)) n rest := by
  obtain ⟨p, q, r, s, rfl, h⟩ := h
  -- Each of the four characters takes a byte or more.
  have size : ¬Utf8.byteCount ((p :: q :: r :: s :: rest).take 4) < 4 := by
    have := p.utf8Size_pos
    have := q.utf8Size_pos
    have := r.utf8Size_pos
    have := s.utf8Size_pos
    simp only [List.take_succ_cons, List.take_zero, Utf8.byteCount_cons, Utf8.byteCount_nil]
    omega
  unfold hexCode
  simp only [List.cons_append, List.nil_append]
  rw [if_neg size]
  simp only [h]
  exact .of_ok rfl rfl

/-- The code of a character that is no half of a surrogate pair. -/
theorem unicodeEscape_code {n : Nat} {digits : List Char} (h : HexCode n digits)
    (hn : n < 0xD800 ∨ 0xDFFF < n) (rest : List Char) :
    Yields (unicodeEscape (digits ++ rest)) (Char.ofNat n) rest := by
  obtain ⟨_, hcode⟩ := hexCode_yields h rest
  unfold unicodeEscape
  rw [hcode]
  simp only [bind, Except.bind]
  rw [if_neg (by omega), if_pos (by omega)]
  exact .of_ok rfl rfl

/-- The codes of a surrogate pair, the second one with an escape of its own. -/
theorem unicodeEscape_pair {high low : Nat} {digits digits' : List Char} (h : HexCode high digits)
    (h' : HexCode low digits') (hhigh : 0xD800 ≤ high ∧ high ≤ 0xDBFF)
    (hlow : 0xDC00 ≤ low ∧ low ≤ 0xDFFF) (rest : List Char) :
    Yields (unicodeEscape (digits ++ '\\' :: 'u' :: (digits' ++ rest)))
      (Char.ofNat ((high - 0xD800) * 1024 + (low - 0xDC00) + 0x10000)) rest := by
  obtain ⟨_, hcode⟩ := hexCode_yields h ('\\' :: 'u' :: (digits' ++ rest))
  obtain ⟨_, hcode'⟩ := hexCode_yields h' rest
  unfold unicodeEscape
  rw [hcode]
  simp only [bind, Except.bind]
  rw [if_neg (by omega), if_neg (by omega)]
  simp only [pairMark, if_true, Step.leaving, hcode']
  rw [if_neg (by omega)]
  exact ⟨_, rfl⟩

theorem escape_code {code rest : List Char} {c : Char} (h : Yields (unicodeEscape code) c rest) :
    Yields (escape ('u' :: code)) c rest := by
  obtain ⟨_, h⟩ := h
  simp only [escape, if_true, h]
  exact .of_ok rfl rfl

/-- A character is written as it is, if a string can hold it, or with a backslash and an escape
that is read as the character. -/
theorem Letter.plain_or_escape {c : Char} {letter : List Char} (h : Letter c letter) :
    (letter = [c] ∧ c ≠ '"' ∧ c ≠ '\\' ∧ ¬c.toNat < 32) ∨
      ∃ code, letter = '\\' :: code ∧ ∀ rest, Yields (escape (code ++ rest)) c rest := by
  cases h with
  | plain hquote hback hcontrol => exact .inl ⟨rfl, hquote, hback, hcontrol⟩
  | @short _ x h =>
    have hu : x ≠ 'u' := by
      rintro rfl
      have hnone : shortEscape? 'u' = none := by decide
      rw [hnone] at h
      cases h
    refine .inr ⟨[x], rfl, fun rest => ?_⟩
    simp only [List.cons_append, List.nil_append, escape, if_neg hu, h]
    exact .of_ok rfl rfl
  | code h hn =>
    exact .inr ⟨_, rfl, fun rest => escape_code (unicodeEscape_code h hn rest)⟩
  | @pair high low digits digits' h h' hhigh hlow =>
    refine .inr ⟨'u' :: (digits ++ '\\' :: 'u' :: digits'), rfl, fun rest => ?_⟩
    have hcode : 'u' :: (digits ++ '\\' :: 'u' :: digits') ++ rest =
        'u' :: (digits ++ '\\' :: 'u' :: (digits' ++ rest)) := by simp
    rw [hcode]
    exact escape_code (unicodeEscape_pair h h' hhigh hlow rest)

/-! ## Strings -/

section

variable {bound : Nat} {acc r : List Char}

theorem textTail_quote (h : ('"' :: r).length ≤ bound) :
    textTail acc ('"' :: r) h = .ok ⟨String.ofList acc.reverse, r, h⟩ := by
  rw [textTail, if_pos rfl]

theorem textTail_plain {c : Char} (hquote : c ≠ '"') (hback : c ≠ '\\') (hcontrol : ¬c.toNat < 32)
    (h : (c :: r).length ≤ bound) :
    textTail acc (c :: r) h = textTail (c :: acc) r (Nat.le_of_lt h) := by
  rw [textTail, if_neg hquote, if_neg hback, if_neg hcontrol]

theorem textTail_escape {st : Step Char r.length} (hst : escape r = .ok st)
    (h : ('\\' :: r).length ≤ bound) :
    textTail acc ('\\' :: r) h = textTail (st.value :: acc) st.rest (st.rest_le_of_lt h) := by
  rw [textTail, if_neg (by decide), if_pos rfl]
  simp only [hst]

end

/-- Characters are read one by one, up to the closing quote. -/
theorem textTail_letters {bound : Nat} {cs : List Char} {letters : List (List Char)}
    (hletters : List.Forall₂ Letter cs letters) (acc rest : List Char)
    (h : (letters.flatten ++ '"' :: rest).length ≤ bound) :
    Yields (textTail acc (letters.flatten ++ '"' :: rest) h)
      (String.ofList (acc.reverse ++ cs)) rest := by
  induction hletters generalizing acc with
  | nil =>
    simp only [List.flatten_nil, List.nil_append, textTail_quote, List.append_nil]
    exact .of_ok rfl rfl
  | @cons c letter cs letters hletter _ ih =>
    rw [List.append_cons acc.reverse c cs, ← List.reverse_cons]
    rcases hletter.plain_or_escape with ⟨rfl, hquote, hback, hcontrol⟩ | ⟨code, rfl, hread⟩
    · simp only [List.flatten_cons, List.cons_append, List.nil_append]
      rw [textTail_plain hquote hback hcontrol]
      exact ih _ _
    · simp only [List.flatten_cons, List.cons_append, List.append_assoc]
      obtain ⟨_, hst⟩ := hread (letters.flatten ++ '"' :: rest)
      rw [textTail_escape hst]
      exact ih _ _

/-- A string is read after its opening quote, whatever follows it. -/
theorem text_literal {s : String} {literal : List Char} (h : Literal s literal) :
    ∃ r, literal = '"' :: r ∧ ∀ rest, Yields (text (r ++ rest)) s rest := by
  obtain ⟨letters, hletters, rfl⟩ := h
  refine ⟨_, rfl, fun rest => ?_⟩
  rw [List.append_assoc, List.singleton_append]
  have := textTail_letters hletters [] rest (Nat.le_refl _)
  rwa [List.reverse_nil, List.nil_append, String.ofList_toList] at this

/-! ## Printed strings -/

theorem hexValue?_hexDigit : (n : Nat) → n < 16 → hexValue? (hexDigit n) = some n := by
  have all : ∀ n ∈ List.range 16, hexValue? (hexDigit n) = some n := by decide
  exact fun n h => all n (List.mem_range.2 h)

/-- The four digits with which a control is printed. -/
theorem hexCode_control {n : Nat} (h : n < 32) :
    HexCode n ['0', '0', hexDigit (n / 16), hexDigit (n % 16)] := by
  have zero : hexValue? '0' = some 0 := by decide
  refine ⟨_, _, _, _, rfl, ?_⟩
  rw [hex4?, zero, hexValue?_hexDigit _ (by omega), hexValue?_hexDigit _ (by omega)]
  show some ((0 * 16 + 0) * 256 + n / 16 * 16 + n % 16) = some n
  congr 1
  omega

theorem letter_escapeChar (c : Char) : Letter c (escapeChar c) := by
  by_cases hshort : c ∈ ['"', '\\', '\x08', '\t', '\n', '\x0c', '\r']
  · -- Each of these has a short escape of its own.
    simp only [List.mem_cons, List.not_mem_nil, or_false] at hshort
    rcases hshort with rfl | rfl | rfl | rfl | rfl | rfl | rfl <;> exact .short rfl
  · simp only [List.mem_cons, List.not_mem_nil, or_false, not_or] at hshort
    obtain ⟨hquote, hback, hb, ht, hn, hf, hr⟩ := hshort
    rw [escapeChar, if_neg hquote, if_neg hback, if_neg hb, if_neg ht, if_neg hn, if_neg hf,
      if_neg hr]
    split
    · next h =>
      have hcode := Letter.code (hexCode_control h) (.inl (by omega))
      rwa [Char.ofNat_toNat] at hcode
    · next hcontrol => exact .plain hquote hback hcontrol

/-- A printed string is one way to write the string. -/
theorem literal_quote (s : String) : Literal s (quote s) := by
  refine ⟨s.toList.map escapeChar, ?_, by rw [quote, List.flatMap]; rfl⟩
  exact List.forall₂_map_right_iff.2 (List.forall₂_same.2 fun c _ => letter_escapeChar c)

end SchemaRules.Json
