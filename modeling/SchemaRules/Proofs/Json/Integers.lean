import SchemaRules.Proofs.Json.Numerals

/-!
# Integers in a text

The numerals of a text can be found without reading it, as long as one knows where its strings end.
If all of them are integers, as they are printed, then integers are what a reader finds in it.

* `numerals`: the numerals of a text, outside its strings.
* `HasIntegers`: all numerals of a text are integers of 64 bits.
* `scalar?_leaves`: then so are the numbers that are read, and the numerals that are left.
-/

namespace SchemaRules.Json

variable {α β : Type} {n bound : Nat}

/-! ## Numerals of a text -/

/-- What follows a string after its opening quote; `escaped` says whether a backslash stands before
the text. -/
def afterString (escaped : Bool) : List Char → List Char
  | [] => []
  | c :: r =>
    if escaped then afterString false r
    else if c = '"' then r
    else afterString (c == '\\') r

theorem length_afterString_le (escaped : Bool) (s : List Char) :
    (afterString escaped s).length ≤ s.length := by
  induction s generalizing escaped with
  | nil => exact Nat.le_refl _
  | cons c r ih =>
    rw [afterString]
    split
    · exact Nat.le_succ_of_le (ih false)
    · split
      · exact Nat.le_succ _
      · exact Nat.le_succ_of_le (ih _)

/-- The numerals of a text in order: outside strings, what begins with a digit or a minus sign, as
far as characters of a numeral follow. -/
def numerals : List Char → List (List Char)
  | [] => []
  | c :: r =>
    if c = '"' then numerals (afterString false r)
    else if c = '-' || c.isDigit then
      (c :: r.takeWhile isNumeralChar) :: numerals (r.dropWhile isNumeralChar)
    else numerals r
termination_by s => s.length
decreasing_by
  · exact Nat.lt_succ_of_le (length_afterString_le false r)
  · exact Nat.lt_succ_of_le (List.dropWhile_suffix _).length_le
  · exact Nat.lt_succ_self _

/-- All numerals of a text are integers of 64 bits, as they are printed. -/
def HasIntegers (s : List Char) : Prop :=
  ∀ numeral ∈ numerals s, ∃ k, IsInt64 k ∧ numeral = Number.intText k

/-- A character that begins neither a string nor a numeral. -/
def IsMark (c : Char) : Prop :=
  c ≠ '"' ∧ c ≠ '-' ∧ c.isDigit = false

instance (c : Char) : Decidable (IsMark c) :=
  inferInstanceAs (Decidable (_ ∧ _ ∧ _))

theorem numerals_mark {c : Char} (h : IsMark c) (r : List Char) :
    numerals (c :: r) = numerals r := by
  obtain ⟨hquote, hminus, hdigit⟩ := h
  rw [numerals, if_neg hquote, if_neg (by simp [hminus, hdigit])]

theorem numerals_append {w : List Char} (h : ∀ c ∈ w, IsMark c) (r : List Char) :
    numerals (w ++ r) = numerals r := by
  induction w with
  | nil => rfl
  | cons c w ih =>
    rw [List.cons_append, numerals_mark (h c List.mem_cons_self),
      ih fun d hd => h d (List.mem_cons_of_mem c hd)]

theorem numerals_quote (r : List Char) :
    numerals ('"' :: r) = numerals (afterString false r) := by
  rw [numerals, if_pos rfl]

/-- Blanks are no part of a numeral. -/
theorem numerals_skipBlank (s : List Char) : numerals (skipBlank s) = numerals s := by
  have hblank : ∀ c, isBlank c = true → IsMark c := by
    intro c hc
    rcases eq_of_isBlank hc with rfl | rfl | rfl | rfl <;> decide
  induction s with
  | nil => rfl
  | cons c r ih =>
    unfold skipBlank at ih ⊢
    rw [List.dropWhile_cons]
    split
    · next hc => rw [ih, numerals_mark (hblank c hc)]
    · rfl

theorem hasIntegers_mark {c : Char} (h : IsMark c) {r : List Char} :
    HasIntegers (c :: r) ↔ HasIntegers r := by
  rw [HasIntegers, numerals_mark h, HasIntegers]

theorem hasIntegers_skipBlank {s : List Char} : HasIntegers (skipBlank s) ↔ HasIntegers s := by
  rw [HasIntegers, numerals_skipBlank, HasIntegers]

/-- Only a negative integer is printed with a sign. -/
theorem eq_of_intText_minus {k : Int} {r rest : List Char}
    (h : '-' :: r = Number.intText k ++ rest) :
    k < 0 ∧ r = Nat.toDigits 10 k.natAbs ++ rest := by
  by_cases hneg : k < 0
  · rw [intText_neg hneg, List.cons_append, List.cons.injEq] at h
    exact ⟨hneg, h.2⟩
  · obtain ⟨c, ds, hds, hc, -⟩ := (isWhole_toDigits k.natAbs).exists_cons
    rw [intText_nonneg (by omega), hds, List.cons_append, List.cons.injEq] at h
    rw [← h.1] at hc
    exact absurd hc (by decide)

theorem eq_of_intText_digit {k : Int} {c : Char} {r rest : List Char} (hc : c.isDigit = true)
    (h : c :: r = Number.intText k ++ rest) :
    ¬k < 0 ∧ c :: r = Nat.toDigits 10 k.natAbs ++ rest := by
  have hpos : ¬k < 0 := by
    intro hneg
    rw [intText_neg hneg, List.cons_append, List.cons.injEq] at h
    rw [h.1] at hc
    exact absurd hc (by decide)
  rw [intText_nonneg (by omega)] at h
  exact ⟨hpos, h⟩

/-- A numeral of such a text is an integer, which ends there. -/
theorem HasIntegers.exists_intText {c : Char} {r : List Char} (h : HasIntegers (c :: r))
    (hc : c = '-' ∨ c.isDigit = true) :
    ∃ k rest, IsInt64 k ∧ c :: r = Number.intText k ++ rest ∧ EndsNumeral rest ∧
      HasIntegers rest := by
  have hquote : c ≠ '"' := by
    rintro rfl
    rcases hc with hc | hc <;> exact absurd hc (by decide)
  have hnumerals : numerals (c :: r) =
      (c :: r.takeWhile isNumeralChar) :: numerals (r.dropWhile isNumeralChar) := by
    rw [numerals, if_neg hquote, if_pos (by simpa using hc)]
  rw [HasIntegers, hnumerals] at h
  obtain ⟨k, hk, htext⟩ := h _ List.mem_cons_self
  refine ⟨k, r.dropWhile isNumeralChar, hk, ?_, ?_, fun numeral hnumeral => ?_⟩
  · rw [← htext, List.cons_append, List.takeWhile_append_dropWhile]
  · intro d hd
    have hnot := List.head?_dropWhile_not isNumeralChar r
    rw [hd] at hnot
    exact hnot
  · exact h numeral (List.mem_cons_of_mem _ hnumeral)

/-! ## What is left of a text -/

/-- A property of the value that was read and of the text after it, if one was read. -/
def Ensures (result : Except Failure (Step α n)) (Q : α → List Char → Prop) : Prop :=
  ∀ st, result = .ok st → Q st.value st.rest

namespace Ensures

variable {result : Except Failure (Step α n)} {Q : α → List Char → Prop}

theorem error (e : Failure) : Ensures (.error e : Except Failure (Step α n)) Q := by
  intro st h
  cases h

theorem ok {st : Step α n} (h : Q st.value st.rest) : Ensures (.ok st) Q := by
  intro st' h'
  cases h'
  exact h

theorem map {Q' : β → List Char → Prop} {f : Step α n → Step β bound} (h : Ensures result Q)
    (hf : ∀ st, Q st.value st.rest → Q' (f st).value (f st).rest) :
    Ensures (result.map f) Q' := by
  cases result with
  | error e => exact .error e
  | ok st => exact .ok (hf st (h st rfl))

theorem bind {Q' : β → List Char → Prop} {f : Step α n → Except Failure (Step β bound)}
    (h : ∀ st, result = .ok st → Ensures (f st) Q') : Ensures (result >>= f) Q' := by
  cases result with
  | error e => exact .error e
  | ok st => exact h st rfl

end Ensures

theorem word_ensures (w s : List Char) : Ensures (word w s) fun _ rest => s = w ++ rest := by
  induction w generalizing s with
  | nil => exact .ok rfl
  | cons e more ih =>
    cases s with
    | nil => exact .error _
    | cons c r =>
      rw [word]
      split
      · next hc =>
        refine (ih r).map fun st hst => ?_
        show c :: r = e :: more ++ st.rest
        rw [hc, List.cons_append, ← hst]
      · exact .error _

theorem colon_ensures (s : List Char) :
    Ensures (colon s) fun _ rest => skipBlank s = ':' :: rest := by
  unfold colon
  split
  · exact .error _
  · next c r h =>
    split
    · next hc => exact .ok (hc ▸ h)
    · exact .error _

/-! ### Strings -/

theorem ne_of_hexValue? {c : Char} {v : Nat} (h : hexValue? c = some v) : c ≠ '"' ∧ c ≠ '\\' := by
  have hquote : hexValue? '"' = none := by decide
  have hback : hexValue? '\\' = none := by decide
  constructor <;> rintro rfl
  · rw [hquote] at h
    cases h
  · rw [hback] at h
    cases h

theorem afterString_plain {c : Char} (h : c ≠ '"' ∧ c ≠ '\\') (r : List Char) :
    afterString false (c :: r) = afterString false r := by
  have hback : (c == '\\') = false := by simpa using h.2
  rw [afterString, if_neg Bool.false_ne_true, if_neg h.1, hback]

/-- A backslash stands before one more character of the string. -/
theorem afterString_backslash (r : List Char) :
    afterString false ('\\' :: r) = afterString true r := by
  rw [afterString, if_neg Bool.false_ne_true, if_neg (by decide)]
  rfl

theorem afterString_escaped (c : Char) (r : List Char) :
    afterString true (c :: r) = afterString false r := by
  rw [afterString, if_pos rfl]

theorem hexCode_ensures (s : List Char) :
    Ensures (hexCode s) fun _ rest => afterString false s = afterString false rest := by
  unfold hexCode
  split
  · exact .error _
  · split
    · next a b c d r _ =>
      split
      · next v hv =>
        refine .ok ?_
        simp only [hex4?, bind, Option.bind_eq_some_iff] at hv
        obtain ⟨_, ha, _, hb, _, hc, _, hd, -⟩ := hv
        rw [afterString_plain (ne_of_hexValue? ha), afterString_plain (ne_of_hexValue? hb),
          afterString_plain (ne_of_hexValue? hc), afterString_plain (ne_of_hexValue? hd)]
      · exact .error _
    · exact .error _

theorem pairMark_ensures (wanted : Char) (s : List Char) :
    Ensures (pairMark wanted s) fun _ rest => s = wanted :: rest := by
  unfold pairMark
  split
  · exact .error _
  · split
    · next hc => exact .ok (by rw [hc]; rfl)
    · exact .error _

theorem unicodeEscape_ensures (s : List Char) :
    Ensures (unicodeEscape s) fun _ rest => afterString false s = afterString false rest := by
  unfold unicodeEscape
  refine .bind fun first hfirst => ?_
  have hs := hexCode_ensures s first hfirst
  split
  · exact .error _
  split
  · exact .ok hs
  refine .bind fun slash hslash => .bind fun mark hmark => .bind fun second hsecond => ?_
  split
  · exact .error _
  -- The other half of the pair is an escape of its own.
  have hpair := calc
    afterString false first.rest
      = afterString false ('\\' :: slash.rest) :=
        congrArg _ (pairMark_ensures _ _ slash hslash)
    _ = afterString true slash.rest := afterString_backslash _
    _ = afterString true ('u' :: mark.rest) := congrArg _ (pairMark_ensures _ _ mark hmark)
    _ = afterString false mark.rest := afterString_escaped _ _
    _ = afterString false second.rest := hexCode_ensures _ second hsecond
  exact .ok (hs.trans hpair)

theorem escape_ensures (s : List Char) :
    Ensures (escape s) fun _ rest => afterString true s = afterString false rest := by
  unfold escape
  split
  · exact .error _
  · next c r =>
    rw [afterString_escaped]
    split
    · exact (unicodeEscape_ensures r).map fun _ hst => hst
    · split
      · exact .ok rfl
      · exact .error _

theorem textTail_ensures {acc s : List Char} (h : s.length ≤ bound) :
    Ensures (textTail acc s h) fun _ rest => afterString false s = rest := by
  fun_induction textTail acc s h with
  | case1 => exact .error _
  | case2 acc r h => exact .ok (by rw [afterString, if_neg Bool.false_ne_true, if_pos rfl])
  | case3 => exact .error _
  | case4 acc r st hst h _ _ ih =>
    intro st' hst'
    rw [afterString_backslash, escape_ensures r st hst]
    exact ih st' hst'
  | case5 => exact .error _
  | case6 acc c r h hquote hback _ _ ih =>
    rw [afterString_plain ⟨hquote, hback⟩]
    exact ih

/-- A string is read up to its end. -/
theorem text_ensures (r : List Char) : Ensures (text r) fun _ rest => afterString false r = rest :=
  textTail_ensures _

/-! ### Scalars -/

/-- A scalar that is no number, or an integer of 64 bits. -/
def Scalar.Exact (a : Scalar) : Prop :=
  ∀ x, a = .number x → ∃ k, IsInt64 k ∧ x = .int k

/-- What is read is exact, and all numerals after it are integers. -/
def Leaves (result : Except Failure (Step α n)) (P : α → Prop) : Prop :=
  Ensures result fun a rest => P a ∧ HasIntegers rest

theorem word_leaves {c : Char} {w r : List Char} (hw : ∀ d ∈ c :: w, IsMark d)
    (h : HasIntegers (c :: r)) {a : Scalar} (ha : a.Exact) :
    Leaves ((word w r).map (·.map fun _ => a)) Scalar.Exact := by
  refine (word_ensures w r).map fun st hst => ⟨ha, ?_⟩
  rw [hst, ← List.cons_append] at h
  intro numeral hnumeral
  exact h numeral (by rwa [numerals_append hw])

/-- The scalar that begins such a text is exact. -/
theorem scalar?_leaves {c : Char} {r : List Char} (h : HasIntegers (c :: r))
    {found : Except Failure (Step Scalar (r.length + 1))} (hfound : scalar? c r = some found) :
    Leaves found Scalar.Exact := by
  have hnumber : ∀ {k : Int}, IsInt64 k → Scalar.Exact (.number (.int k)) := by
    rintro k hk x ⟨⟩
    exact ⟨k, hk, rfl⟩
  unfold scalar? at hfound
  split at hfound
  · next hc =>
    cases hfound
    subst hc
    exact word_leaves (by simp [IsMark]) h fun _ hx => (nomatch hx)
  split at hfound
  · next hc =>
    cases hfound
    subst hc
    exact word_leaves (by simp [IsMark]) h fun _ hx => (nomatch hx)
  split at hfound
  · next hc =>
    cases hfound
    subst hc
    exact word_leaves (by simp [IsMark]) h fun _ hx => (nomatch hx)
  split at hfound
  · next hc =>
    cases hfound
    subst hc
    obtain ⟨k, rest, hk, htext, hends, hrest⟩ := h.exists_intText (.inl rfl)
    obtain ⟨hneg, hdigits⟩ := eq_of_intText_minus htext
    have hread := numeral_natAbs hk hends
    rw [decide_eq_true hneg, ← hdigits] at hread
    obtain ⟨_, hread⟩ := hread
    rw [hread]
    exact .ok ⟨hnumber hk, hrest⟩
  split at hfound
  · next hc =>
    cases hfound
    obtain ⟨k, rest, hk, htext, hends, hrest⟩ := h.exists_intText (.inr hc)
    obtain ⟨hpos, hdigits⟩ := eq_of_intText_digit hc htext
    have hread := numeral_natAbs hk hends
    rw [decide_eq_false hpos, ← hdigits] at hread
    obtain ⟨_, hread⟩ := hread
    rw [hread]
    exact .ok ⟨hnumber hk, hrest⟩
  split at hfound
  · next hc =>
    cases hfound
    subst hc
    refine (text_ensures r).map fun st hst => ?_
    refine ⟨fun _ hx => (nomatch hx), fun numeral hnumeral => h numeral ?_⟩
    rw [numerals_quote, hst]
    exact hnumeral
  · cases hfound

end SchemaRules.Json
