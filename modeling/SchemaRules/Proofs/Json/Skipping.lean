import SchemaRules.Json.Skip
import SchemaRules.Proofs.Json.Numerals

/-!
# Passing over a value

Any text that the grammar of values allows is passed over where nobody asks for it: however deep
its brackets are nested, however great its numbers are, and also if an escape in a string is half
of a surrogate pair.

* `IsUnsigned`, `IsString`, `IsValue`: the texts of values.
* `skipRest_held`: what a bracket holds is passed over, item by item.
* `IsValue.skips`: so is a value, with the brackets around it still open.
* `skip_yields`: a value that stands alone.
-/

namespace SchemaRules.Json

variable {bound : Nat} {rest text : List Char}

/-! ## The texts of values -/

/-- The fraction of a number, if it has one. -/
inductive IsFraction : List Char → Prop where
  | none : IsFraction []
  | digits {ds : List Char} (h : IsDigits ds) : IsFraction ('.' :: ds)

/-- The exponent of a number, if it has one. -/
inductive IsExponent : List Char → Prop where
  | none : IsExponent []
  | digits {mark : Char} {sign ds : List Char} (hmark : isExponentMark mark = true)
      (hsign : sign ∈ [[], ['+'], ['-']]) (h : IsDigits ds) : IsExponent (mark :: (sign ++ ds))

/-- The text of a number after its sign. -/
def IsUnsigned (text : List Char) : Prop :=
  ∃ whole frac exp, IsWhole whole ∧ IsFraction frac ∧ IsExponent exp ∧
    text = whole ++ (frac ++ exp)

/-- A part of a string that stands for a character or for half of a surrogate pair. -/
inductive IsLetter : List Char → Prop where
  | plain {c : Char} (hquote : c ≠ '"') (hback : c ≠ '\\') (hcontrol : ¬c.toNat < 32) :
      IsLetter [c]
  | short {x : Char} (h : (shortEscape? x).isSome) : IsLetter ['\\', x]
  | code {n : Nat} {digits : List Char} (h : HexCode n digits) : IsLetter ('\\' :: 'u' :: digits)

/-- The text of a string. -/
def IsString (text : List Char) : Prop :=
  ∃ letters : List (List Char), (∀ letter ∈ letters, IsLetter letter) ∧
    text = '"' :: (letters.flatten ++ ['"'])

/-- A key with the colon after it, up to the value. -/
def IsKey (text : List Char) : Prop :=
  ∃ key w w', IsString key ∧ Blank w ∧ Blank w' ∧ text = key ++ (w ++ ':' :: w')

/-- The text of a value, from its first character to its last. -/
inductive IsValue : List Char → Prop where
  | null : IsValue ['n', 'u', 'l', 'l']
  | isTrue : IsValue ['t', 'r', 'u', 'e']
  | isFalse : IsValue ['f', 'a', 'l', 's', 'e']
  | number {text : List Char} (h : IsUnsigned text) : IsValue text
  | negative {text : List Char} (h : IsUnsigned text) : IsValue ('-' :: text)
  | string {text : List Char} (h : IsString text) : IsValue text
  | array {items : List (List Char)} {body : List Char} (h : ∀ item ∈ items, IsValue item)
      (hheld : Held ']' true items body) : IsValue ('[' :: body)
  /-- An entry is a key with its colon, and a value. -/
  | object {entries : List (List Char × List Char)} {body : List Char}
      (hkeys : ∀ e ∈ entries, IsKey e.1) (h : ∀ e ∈ entries, IsValue e.2)
      (hheld : Held '\x7d' true (entries.map fun e => e.1 ++ e.2) body) : IsValue ('\x7b' :: body)

/-! ## Numbers -/

theorem skipDigits_yields {ds : List Char} (h : IsDigits ds) (hrest : EndsDigits rest) :
    Yields (skipDigits (ds ++ rest)) () rest := by
  obtain ⟨hne, hds⟩ := h
  obtain ⟨c, ds, rfl⟩ := List.exists_cons_of_ne_nil hne
  rw [List.cons_append]
  simp only [skipDigits, hds c List.mem_cons_self, if_true]
  exact .of_ok rfl (span_isDigit (fun d hd => hds d (List.mem_cons_of_mem c hd)) hrest).2

theorem exponentSign_rest {sign ds : List Char} (hsign : sign ∈ [[], ['+'], ['-']])
    (h : IsDigits ds) : (exponentSign (sign ++ (ds ++ rest))).rest = ds ++ rest := by
  simp only [List.mem_cons, List.not_mem_nil, or_false] at hsign
  rcases hsign with rfl | rfl | rfl
  · obtain ⟨hne, hds⟩ := h
    obtain ⟨c, ds, rfl⟩ := List.exists_cons_of_ne_nil hne
    have hc := hds c List.mem_cons_self
    rw [List.nil_append, List.cons_append, exponentSign, if_neg (ne_of_isDigit hc (by decide)),
      if_neg (ne_of_isDigit hc (by decide))]
    rfl
  · rfl
  · rfl

theorem skipExponent_yields {exp : List Char} (h : IsExponent exp) (hrest : EndsNumeral rest) :
    Yields (skipExponent (exp ++ rest)) () rest := by
  cases h with
  | none =>
    cases rest with
    | nil => exact .of_ok rfl rfl
    | cons c rest =>
      obtain ⟨-, hmark, -⟩ := hrest.head c rfl
      simp only [List.nil_append, skipExponent, hmark, Bool.false_eq_true, if_false]
      exact .of_ok rfl rfl
  | @digits mark sign ds hmark hsign h =>
    have hdigits := skipDigits_yields h hrest.endsDigits
    rw [← exponentSign_rest hsign h] at hdigits
    obtain ⟨_, hdigits⟩ := hdigits
    rw [List.cons_append, List.append_assoc]
    simp only [skipExponent, hmark, if_true, hdigits]
    exact .of_ok rfl rfl

theorem IsExponent.head {exp : List Char} (h : IsExponent exp) (hrest : EndsNumeral rest) :
    ∀ c ∈ (exp ++ rest).head?, c.isDigit = false ∧ c ≠ '.' := by
  intro c hc
  cases h with
  | none =>
    obtain ⟨hdigit, -, hpoint⟩ := hrest.head c hc
    exact ⟨hdigit, hpoint⟩
  | @digits mark sign ds hmark _ _ =>
    obtain rfl : mark = c := by simpa using hc
    simp only [isExponentMark, Bool.or_eq_true, beq_iff_eq] at hmark
    rcases hmark with rfl | rfl <;> decide

/-- The digits before a fraction and an exponent end there. -/
theorem IsFraction.endsDigits {frac exp : List Char} (h : IsFraction frac) (hexp : IsExponent exp)
    (hrest : EndsNumeral rest) : EndsDigits (frac ++ (exp ++ rest)) := by
  intro c hc
  cases h with
  | none => exact (hexp.head hrest c hc).1
  | digits =>
    obtain rfl : '.' = c := by simpa using hc
    decide

theorem skipNumeralEnd_yields {frac exp : List Char} (hfrac : IsFraction frac)
    (hexp : IsExponent exp) (hrest : EndsNumeral rest) :
    Yields (skipNumeralEnd (frac ++ (exp ++ rest))) () rest := by
  have hexponent := skipExponent_yields hexp hrest
  have hhead := hexp.head hrest
  cases hfrac with
  | none =>
    rw [List.nil_append]
    cases htail : exp ++ rest with
    | nil =>
      rw [htail] at hexponent
      exact hexponent
    | cons c t =>
      rw [htail] at hexponent hhead
      obtain ⟨_, hexponent⟩ := hexponent
      simp only [skipNumeralEnd, if_neg (hhead c rfl).2, hexponent]
      exact .of_ok rfl rfl
  | digits h =>
    obtain ⟨_, hdigits⟩ := skipDigits_yields h fun c hc => (hhead c hc).1
    obtain ⟨_, hexponent⟩ := hexponent
    rw [List.cons_append]
    simp only [skipNumeralEnd, if_true, hdigits, bind, Except.bind, hexponent]
    exact .of_ok rfl rfl

theorem skipNumeral_yields (h : IsUnsigned text) (hrest : EndsNumeral rest) :
    Yields (skipNumeral (text ++ rest)) () rest := by
  obtain ⟨whole, frac, exp, hwhole, hfrac, hexp, rfl⟩ := h
  obtain ⟨c, ds, rfl, hc, hmore, hlead⟩ := hwhole.exists_cons
  have hstop := hfrac.endsDigits hexp hrest
  obtain ⟨-, hdrop⟩ := span_isDigit hmore hstop
  have hend := skipNumeralEnd_yields hfrac hexp hrest
  rw [← hdrop] at hend
  obtain ⟨_, hend⟩ := hend
  rw [List.append_assoc, List.append_assoc, List.cons_append]
  simp only [skipNumeral, hc, Bool.not_true, Bool.false_eq_true, if_false, hlead _ hstop,
    Step.leavingAfter, hend]
  exact .of_ok rfl rfl

/-! ## Strings -/

theorem IsLetter.plain_or_escape {letter : List Char} (h : IsLetter letter) :
    (∃ c, letter = [c] ∧ c ≠ '"' ∧ c ≠ '\\' ∧ ¬c.toNat < 32) ∨
      ∃ code, letter = '\\' :: code ∧ ∀ rest, Yields (skipEscape (code ++ rest)) () rest := by
  cases h with
  | plain hquote hback hcontrol => exact .inl ⟨_, rfl, hquote, hback, hcontrol⟩
  | @short x h =>
    have hu : x ≠ 'u' := by
      rintro rfl
      exact absurd h (by decide)
    refine .inr ⟨[x], rfl, fun rest => ?_⟩
    simp only [List.cons_append, List.nil_append, skipEscape, if_neg hu, h, if_true]
    exact .of_ok rfl rfl
  | code h =>
    refine .inr ⟨_, rfl, fun rest => ?_⟩
    obtain ⟨_, hcode⟩ := hexCode_yields h rest
    simp only [List.cons_append, skipEscape, if_true, hcode]
    exact .of_ok rfl rfl

/-- The rest of a string is passed over, up to the closing quote. -/
theorem skipText_letters {letters : List (List Char)}
    (hletters : ∀ letter ∈ letters, IsLetter letter) (rest : List Char)
    (h : (letters.flatten ++ '"' :: rest).length ≤ bound) :
    Yields (skipText (letters.flatten ++ '"' :: rest) h) () rest := by
  induction letters with
  | nil =>
    simp only [List.flatten_nil, List.nil_append]
    rw [skipText, if_pos rfl]
    exact .of_ok rfl rfl
  | cons letter letters ih =>
    have ih := ih fun other hother => hletters other (List.mem_cons_of_mem letter hother)
    rcases (hletters letter List.mem_cons_self).plain_or_escape with
      ⟨c, rfl, hquote, hback, hcontrol⟩ | ⟨code, rfl, hread⟩
    · simp only [List.flatten_cons, List.cons_append, List.nil_append]
      rw [skipText, if_neg hquote, if_neg hback, if_neg hcontrol]
      exact ih _
    · simp only [List.flatten_cons, List.cons_append, List.append_assoc]
      obtain ⟨_, hread⟩ := hread (letters.flatten ++ '"' :: rest)
      rw [skipText, if_neg (by decide), if_pos rfl]
      simp only [hread]
      exact ih _

theorem skipString_yields (h : IsString text) :
    ∃ r, text = '"' :: r ∧ ∀ rest, Yields (skipString (r ++ rest)) () rest := by
  obtain ⟨letters, hletters, rfl⟩ := h
  refine ⟨_, rfl, fun rest => ?_⟩
  rw [List.append_assoc, List.singleton_append]
  exact skipText_letters hletters rest (Nat.le_refl _)

/-! ## Brackets -/

section

variable {b : Bracket} {outer stack : List Bracket} {c : Char} {s r : List Char}

/-- In an open bracket, the next character that is no blank decides what is passed over. -/
theorem skipRest_of_skipBlank {comma : Bool} (hs : skipBlank s = c :: r) (h : s.length < bound) :
    skipRest comma (b :: outer) s h =
      if c = ',' ∧ comma then
        skipItem (b :: outer) r (Nat.lt_trans (length_lt_of_skipBlank hs) h)
      else if c = b.closing then
        skipRest true outer r (Nat.lt_trans (length_lt_of_skipBlank hs) h)
      else if comma then failAhead b.noComma (c :: r)
      else skipItem (b :: outer) (c :: r) (Nat.lt_of_le_of_lt (length_lt_of_skipBlank hs) h) := by
  rw [skipRest]
  split
  · next k => cases hs.symm.trans k
  · next d t k =>
    cases hs.symm.trans k
    rfl

theorem skipRest_close {comma : Bool} (hs : skipBlank s = b.closing :: r) (h : s.length < bound) :
    ∃ short, skipRest comma (b :: outer) s h = skipRest true outer r short := by
  have hcomma : ¬b.closing = ',' := by cases b <;> decide
  rw [skipRest_of_skipBlank hs, if_neg fun hc => hcomma hc.1, if_pos rfl]
  exact ⟨_, rfl⟩

/-- The first item of a bracket has no comma before it. -/
theorem skipRest_first (hs : skipBlank s = c :: r) (hc : c ≠ b.closing) (h : s.length < bound) :
    ∃ short, skipRest false (b :: outer) s h = skipItem (b :: outer) (c :: r) short := by
  rw [skipRest_of_skipBlank hs, if_neg fun hc => Bool.false_ne_true hc.2, if_neg hc,
    if_neg Bool.false_ne_true]
  exact ⟨_, rfl⟩

theorem skipRest_comma (hs : skipBlank s = ',' :: r) (h : s.length < bound) :
    ∃ short, skipRest true (b :: outer) s h = skipItem (b :: outer) r short := by
  rw [skipRest_of_skipBlank hs, if_pos ⟨rfl, rfl⟩]
  exact ⟨_, rfl⟩

theorem skipFrom_scalar {found : Except Failure (Step Unit (r.length + 1))}
    (hs : skipBlank s = c :: r) (hfound : skipScalar? c r = some found)
    (hrest : Yields found () rest) (h : s.length ≤ bound) :
    ∃ short, skipFrom stack s h = skipRest true stack rest short := by
  obtain ⟨hshort, rfl⟩ := hrest
  have hr := length_lt_of_skipBlank hs
  rw [skipFrom]
  split
  · next k => cases hs.symm.trans k
  · next d t k =>
    cases hs.symm.trans k
    simp only [hfound]
    exact ⟨by omega, rfl⟩

/-- The key of an entry is passed over with its colon. -/
theorem skipItem_object (hs : skipBlank s = '"' :: r) (hkey : Yields (skipKey r) () rest)
    (h : s.length < bound) :
    ∃ short, skipItem (.object :: outer) s h = skipFrom (.object :: outer) rest short := by
  obtain ⟨hrest, hkey⟩ := hkey
  have hr := length_lt_of_skipBlank hs
  refine ⟨by omega, ?_⟩
  -- The cases of the definition are told apart by the stack only once it is a variable.
  generalize hstack : Bracket.object :: outer = stack
  fun_cases skipItem stack s h with
  | case1 _ k => cases hs.symm.trans k
  | case2 _ t e hfailed k =>
    cases hs.symm.trans k
    cases hkey.symm.trans hfailed
  | case3 _ t st hread k =>
    cases hs.symm.trans k
    cases hkey.symm.trans hread
    rfl
  | case4 _ d t k _ hd =>
    cases hs.symm.trans k
    exact absurd rfl hd
  | case5 _ hother => exact absurd hstack.symm (hother outer)

/-- The opening bracket. -/
def Bracket.opening : Bracket → Char
  | list => '['
  | object => '\x7b'

theorem skipFrom_opening (b : Bracket) (hs : skipBlank s = b.opening :: r) (h : s.length ≤ bound) :
    ∃ short, skipFrom stack s h = skipRest false (b :: stack) r short := by
  rw [skipFrom]
  split
  · next k => cases hs.symm.trans k
  · next d t k =>
    cases hs.symm.trans k
    refine ⟨Nat.lt_of_lt_of_le (length_lt_of_skipBlank hs) h, ?_⟩
    cases b <;> rfl

end

/-- A value is passed over, with the brackets around it still open. -/
def Skips (text : List Char) : Prop :=
  ∀ (stack : List Bracket) (w rest : List Char), Blank w → Ends rest →
    ∀ (bound : Nat) (h : (w ++ (text ++ rest)).length ≤ bound),
      ∃ short, skipFrom stack (w ++ (text ++ rest)) h = skipRest true stack rest short

/-- An item of a bracket is passed over. -/
def SkipsItem (b : Bracket) (part : List Char) : Prop :=
  ∀ (outer : List Bracket) (w rest : List Char), Blank w → Ends rest →
    ∀ (bound : Nat) (h : (w ++ (part ++ rest)).length < bound),
      ∃ short, skipItem (b :: outer) (w ++ (part ++ rest)) h = skipRest true (b :: outer) rest short

/-- What a bracket holds is passed over, item by item, up to the closing bracket. -/
theorem skipRest_held {b : Bracket} {first : Bool} {parts : List (List Char)} {body : List Char}
    (hheld : Held b.closing first parts body)
    (hstarts : ∀ part ∈ parts, ∃ c r, part = c :: r ∧ isBlank c = false ∧ c ≠ b.closing)
    (hparts : ∀ part ∈ parts, SkipsItem b part)
    (outer : List Bracket) (rest : List Char) (h : (body ++ rest).length < bound) :
    ∃ short, skipRest (!first) (b :: outer) (body ++ rest) h = skipRest true outer rest short := by
  have hclosing : b.closing = ']' ∨ b.closing = '\x7d' := by cases b <;> simp [Bracket.closing]
  induction hheld with
  | @close first w hw =>
    have hblank : isBlank b.closing = false := by cases b <;> decide
    refine skipRest_close ?_ h
    rw [List.append_assoc]
    exact skipBlank_append hw hblank rest
  | @first w part text parts hw hheld ih =>
    obtain ⟨c, r, rfl, hblank, hc⟩ := hstarts part List.mem_cons_self
    have hs : skipBlank (w ++ (c :: r ++ text) ++ rest) = c :: r ++ (text ++ rest) := by
      simpa using skipBlank_append hw hblank (r ++ (text ++ rest))
    obtain ⟨_, hfirst⟩ := skipRest_first hs hc h
    obtain ⟨_, hitem⟩ :=
      hparts _ List.mem_cons_self outer [] (text ++ rest) .nil (hheld.ends hclosing rest) bound _
    obtain ⟨short, hmore⟩ := ih (fun part hpart => hstarts part (List.mem_cons_of_mem _ hpart))
      (fun part hpart => hparts part (List.mem_cons_of_mem _ hpart)) _
    exact ⟨short, hfirst.trans (hitem.trans hmore)⟩
  | @more w w' part text parts hw hw' hheld ih =>
    have hs : skipBlank (w ++ ',' :: (w' ++ (part ++ text)) ++ rest) =
        ',' :: (w' ++ (part ++ (text ++ rest))) := by
      simpa using skipBlank_append hw (by decide : isBlank ',' = false)
        (w' ++ (part ++ (text ++ rest)))
    obtain ⟨_, hcomma⟩ := skipRest_comma hs h
    obtain ⟨_, hitem⟩ :=
      hparts _ List.mem_cons_self outer w' (text ++ rest) hw' (hheld.ends hclosing rest) bound _
    obtain ⟨short, hmore⟩ := ih (fun part hpart => hstarts part (List.mem_cons_of_mem _ hpart))
      (fun part hpart => hparts part (List.mem_cons_of_mem _ hpart)) _
    exact ⟨short, hcomma.trans (hitem.trans hmore)⟩

/-! ## Values -/

/-- The text of a scalar is known by its first character. -/
theorem skips_of_scalar {c : Char} {r : List Char} (hblank : isBlank c = false)
    (hscalar : ∀ rest, Ends rest →
      ∃ found, skipScalar? c (r ++ rest) = some found ∧ Yields found () rest) :
    Skips (c :: r) := by
  intro stack w rest hw hrest bound h
  obtain ⟨found, hfound, hyields⟩ := hscalar rest hrest
  exact skipFrom_scalar (skipBlank_append hw hblank (r ++ rest)) hfound hyields h

theorem IsUnsigned.head (h : IsUnsigned text) : ∃ c r, text = c :: r ∧ c.isDigit = true := by
  obtain ⟨whole, frac, exp, hwhole, -, -, rfl⟩ := h
  obtain ⟨c, ds, rfl, hc, -⟩ := hwhole.exists_cons
  exact ⟨c, _, rfl, hc⟩

theorem IsValue.starts (h : IsValue text) :
    ∃ c r, text = c :: r ∧ isBlank c = false ∧ c ≠ ']' := by
  cases h with
  | null => exact ⟨_, _, rfl, by decide, by decide⟩
  | isTrue => exact ⟨_, _, rfl, by decide, by decide⟩
  | isFalse => exact ⟨_, _, rfl, by decide, by decide⟩
  | number h =>
    obtain ⟨c, r, rfl, hc⟩ := h.head
    exact ⟨c, r, rfl, isBlank_of_isDigit hc, ne_of_isDigit hc (by decide)⟩
  | negative h => exact ⟨_, _, rfl, by decide, by decide⟩
  | string h =>
    obtain ⟨letters, -, rfl⟩ := h
    exact ⟨_, _, rfl, by decide, by decide⟩
  | array h hheld => exact ⟨_, _, rfl, by decide, by decide⟩
  | object hkeys h hheld => exact ⟨_, _, rfl, by decide, by decide⟩

theorem skipsItem_list (h : Skips text) : SkipsItem .list text := by
  intro outer w rest hw hrest bound hlen
  obtain ⟨short, hskip⟩ := h (.list :: outer) w rest hw hrest bound (Nat.le_of_lt hlen)
  refine ⟨short, Eq.trans ?_ hskip⟩
  rw [skipItem.eq_def]

theorem skipKey_yields (h : IsKey text) :
    ∃ r w, text = '"' :: (r ++ w) ∧ Blank w ∧
      ∀ rest, Yields (skipKey (r ++ (w ++ rest))) () (w ++ rest) := by
  obtain ⟨key, w, w', hkey, hw, hw', rfl⟩ := h
  obtain ⟨r, rfl, hread⟩ := skipString_yields hkey
  refine ⟨r ++ (w ++ [':']), w', by simp, hw', fun rest => ?_⟩
  have htext : r ++ (w ++ [':']) ++ (w' ++ rest) = r ++ (w ++ ':' :: (w' ++ rest)) := by simp
  obtain ⟨_, hread⟩ := hread (w ++ ':' :: (w' ++ rest))
  obtain ⟨_, hcolon⟩ := colon_yields hw (w' ++ rest)
  rw [htext]
  simp only [skipKey, hread, hcolon, bind, Except.bind]
  exact .of_ok rfl rfl

theorem skipsItem_object {key : List Char} (hkey : IsKey key) (h : Skips text) :
    SkipsItem .object (key ++ text) := by
  intro outer w rest hw hrest bound hlen
  obtain ⟨r, w', rfl, hw', hread⟩ := skipKey_yields hkey
  have hs : skipBlank (w ++ ('"' :: (r ++ w') ++ text ++ rest)) =
      '"' :: (r ++ (w' ++ (text ++ rest))) := by
    simpa using skipBlank_append hw (by decide : isBlank '"' = false) (r ++ (w' ++ (text ++ rest)))
  obtain ⟨_, hitem⟩ := skipItem_object hs (hread (text ++ rest)) hlen
  obtain ⟨short, hskip⟩ := h (.object :: outer) w' rest hw' hrest bound _
  exact ⟨short, hitem.trans hskip⟩

theorem IsValue.skips (h : IsValue text) : Skips text := by
  induction h with
  | null => exact skips_of_scalar (by decide) fun rest _ => ⟨_, rfl, word_yields _ rest⟩
  | isTrue => exact skips_of_scalar (by decide) fun rest _ => ⟨_, rfl, word_yields _ rest⟩
  | isFalse => exact skips_of_scalar (by decide) fun rest _ => ⟨_, rfl, word_yields _ rest⟩
  | number h =>
    have hread := fun rest (hrest : Ends rest) => skipNumeral_yields h hrest.endsNumeral
    obtain ⟨c, r, rfl, hc⟩ := h.head
    refine skips_of_scalar (isBlank_of_isDigit hc) fun rest hrest => ⟨_, ?_, hread rest hrest⟩
    rw [skipScalar?, if_neg (ne_of_isDigit hc (by decide)), if_neg (ne_of_isDigit hc (by decide)),
      if_neg (ne_of_isDigit hc (by decide)), if_neg (ne_of_isDigit hc (by decide)), if_pos hc]
    rfl
  | negative h =>
    refine skips_of_scalar (by decide) fun rest hrest => ⟨_, rfl, ?_⟩
    obtain ⟨_, hread⟩ := skipNumeral_yields h hrest.endsNumeral
    rw [hread]
    exact .of_ok rfl rfl
  | string h =>
    obtain ⟨r, rfl, hread⟩ := skipString_yields h
    refine skips_of_scalar (by decide) fun rest hrest => ⟨_, rfl, ?_⟩
    obtain ⟨_, hread⟩ := hread rest
    rw [hread]
    exact .of_ok rfl rfl
  | @array items body h hheld ih =>
    intro stack w rest hw hrest bound hlen
    have hs := skipBlank_append hw (by decide : isBlank '[' = false) (body ++ rest)
    obtain ⟨_, hopen⟩ := skipFrom_opening .list hs hlen
    obtain ⟨short, hclose⟩ := skipRest_held (b := .list) hheld
      (fun item hitem => (h item hitem).starts) (fun item hitem => skipsItem_list (ih item hitem))
      stack rest _
    exact ⟨short, hopen.trans hclose⟩
  | @object entries body hkeys h hheld ih =>
    intro stack w rest hw hrest bound hlen
    have hs := skipBlank_append hw (by decide : isBlank '\x7b' = false) (body ++ rest)
    obtain ⟨_, hopen⟩ := skipFrom_opening .object hs hlen
    have hstarts : ∀ part ∈ entries.map fun e => e.1 ++ e.2,
        ∃ c r, part = c :: r ∧ isBlank c = false ∧ c ≠ '\x7d' := by
      intro part hpart
      obtain ⟨e, he, rfl⟩ := List.mem_map.1 hpart
      obtain ⟨r, w', hkey, -⟩ := skipKey_yields (hkeys e he)
      rw [hkey]
      exact ⟨_, _, rfl, by decide, by decide⟩
    have hparts : ∀ part ∈ entries.map fun e => e.1 ++ e.2, SkipsItem .object part := by
      intro part hpart
      obtain ⟨e, he, rfl⟩ := List.mem_map.1 hpart
      exact skipsItem_object (hkeys e he) (ih e he)
    obtain ⟨short, hclose⟩ := skipRest_held (b := .object) hheld hstarts hparts stack rest _
    exact ⟨short, hopen.trans hclose⟩

/-- A value that nobody asks for is passed over, whatever follows it. -/
theorem skip_yields (h : IsValue text) {w : List Char} (hw : Blank w) (hrest : Ends rest) :
    Yields (skip (w ++ (text ++ rest))) () rest := by
  obtain ⟨short, hskip⟩ := h.skips [] w rest hw hrest _ (Nat.le_refl _)
  rw [skip, Loop.enter, hskip, skipRest]
  exact .of_ok rfl rfl

end SchemaRules.Json
