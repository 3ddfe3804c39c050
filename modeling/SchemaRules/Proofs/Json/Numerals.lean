import SchemaRules.Proofs.Json.Reading

/-!
# Reading numerals

A numeral goes as far as its characters do, and what ends a value ends it. So an integer of 64 bits
is read from the digits that it is printed with, whatever follows.

* `Ends.endsNumeral`: a numeral has ended where a value has.
* `IsWhole`, `isWhole_toDigits`: the digits of a number have no needless zero in front.
* `numeral_natAbs`: the digits of an integer are read as it.
* `count_reads`: so are those of a count.
-/

namespace SchemaRules.Json

variable {c : Char} {ds rest : List Char} {k : Int}

/-! ## Where a numeral ends -/

/-- A character that a numeral may have after its first one. -/
def isNumeralChar (c : Char) : Bool :=
  c.isDigit || ['-', '+', '.', 'e', 'E'].contains c

/-- A text before which a numeral has ended. -/
def EndsNumeral (rest : List Char) : Prop :=
  ∀ c ∈ rest.head?, isNumeralChar c = false

/-- A text that does not go on with a digit. -/
def EndsDigits (rest : List Char) : Prop :=
  ∀ c ∈ rest.head?, c.isDigit = false

theorem Ends.endsNumeral (h : Ends rest) : EndsNumeral rest := by
  intro c hc
  rcases h c hc with hblank | rfl | rfl | rfl
  · rcases eq_of_isBlank hblank with rfl | rfl | rfl | rfl <;> decide
  · decide
  · decide
  · decide

/-- No part of a numeral begins where it has ended. -/
theorem EndsNumeral.head (h : EndsNumeral rest) :
    ∀ c ∈ rest.head?, c.isDigit = false ∧ isExponentMark c = false ∧ c ≠ '.' := by
  intro c hc
  have hne : ∀ d, isNumeralChar d = true → c ≠ d := by
    rintro d hd rfl
    rw [h c hc] at hd
    cases hd
  refine ⟨(Bool.or_eq_false_iff.1 (h c hc)).1, ?_, hne '.' (by decide)⟩
  simp only [isExponentMark, Bool.or_eq_false_iff, beq_eq_false_iff_ne]
  exact ⟨hne _ (by decide), hne _ (by decide)⟩

theorem EndsNumeral.endsDigits (h : EndsNumeral rest) : EndsDigits rest :=
  fun c hc => (h.head c hc).1

/-- Digits are taken up to the last. -/
theorem span_isDigit (hds : ∀ c ∈ ds, c.isDigit = true) (hrest : EndsDigits rest) :
    (ds ++ rest).takeWhile Char.isDigit = ds ∧ (ds ++ rest).dropWhile Char.isDigit = rest := by
  rw [List.takeWhile_append_of_pos hds, List.dropWhile_append_of_pos hds]
  cases rest with
  | nil => exact ⟨List.append_nil ds, rfl⟩
  | cons c rest =>
    have hc : ¬c.isDigit = true := by simp [hrest c rfl]
    exact ⟨by rw [List.takeWhile_cons_of_neg hc, List.append_nil], List.dropWhile_cons_of_neg hc⟩

/-! ## Digits of a number -/

/-- Digits, of which there is at least one. -/
def IsDigits (ds : List Char) : Prop :=
  ds ≠ [] ∧ ∀ c ∈ ds, c.isDigit = true

instance (ds : List Char) : Decidable (IsDigits ds) :=
  decidable_of_iff (ds ≠ [] ∧ ds.all Char.isDigit = true) (and_congr_right fun _ => List.all_eq_true)

/-- The digits of a number before its point: a zero only stands alone. -/
def IsWhole (ds : List Char) : Prop :=
  IsDigits ds ∧ (ds.head? = some '0' → ds = ['0'])

instance (ds : List Char) : Decidable (IsWhole ds) :=
  inferInstanceAs (Decidable (_ ∧ _))

/-- The first digit is no needless zero, whatever follows the digits. -/
theorem IsWhole.exists_cons (h : IsWhole ds) : ∃ c more, ds = c :: more ∧ c.isDigit = true ∧
    (∀ d ∈ more, d.isDigit = true) ∧
    ∀ rest, EndsDigits rest → (c = '0' && startsWithDigit (more ++ rest)) = false := by
  obtain ⟨⟨hne, hds⟩, hzero⟩ := h
  obtain ⟨c, more, rfl⟩ := List.exists_cons_of_ne_nil hne
  rw [List.forall_mem_cons] at hds
  refine ⟨c, more, rfl, hds.1, hds.2, fun rest hrest => ?_⟩
  by_cases hc : c = '0'
  · obtain ⟨-, rfl⟩ := List.cons.inj (hzero (congrArg some hc))
    rw [List.nil_append]
    cases rest with
    | nil => exact Bool.and_false _
    | cons d rest => simp [startsWithDigit, hrest d rfl]
  · simp [hc]

theorem head?_toDigits_ne {n : Nat} (h : n ≠ 0) : (Nat.toDigits 10 n).head? ≠ some '0' := by
  induction n using Nat.strongRecOn with
  | _ n ih =>
    rw [Nat.toDigits_eq_if (by decide)]
    split
    · simpa using h
    · next hlarge =>
      have hrest := ih (n / 10) (by omega) (by omega)
      obtain ⟨c, ds, hds⟩ :=
        List.exists_cons_of_ne_nil (Nat.toDigits_ne_nil (n := n / 10) (b := 10))
      rw [hds] at hrest ⊢
      exact hrest

theorem isWhole_toDigits (n : Nat) : IsWhole (Nat.toDigits 10 n) := by
  refine ⟨⟨Nat.toDigits_ne_nil, fun c hc => ?_⟩, fun hzero => ?_⟩
  · exact Nat.isDigit_of_mem_toDigits (by decide) (by decide) hc
  · by_cases hn : n = 0
    · rw [hn]
      rfl
    · exact absurd hzero (head?_toDigits_ne hn)

/-! ## Integers -/

/-- Digits are gathered up to the last, if their number fits. -/
theorem gather_eq (ds : List Char) (n : Nat) (h : Nat.ofDigitChars 10 ds n ≤ Number.maxInt) :
    gather n ds = (Nat.ofDigitChars 10 ds n, []) := by
  induction ds generalizing n with
  | nil => rfl
  | cons c ds ih =>
    have hnext : n * 10 + digitValue c = 10 * n + (c.toNat - '0'.toNat) := by
      rw [Nat.mul_comm, digitValue]
      rfl
    rw [Nat.ofDigitChars_cons] at h ⊢
    have hle : 10 * n + (c.toNat - '0'.toNat) ≤ Number.maxInt := by
      rw [Nat.ofDigitChars_eq_ofDigitChars_zero] at h
      have hpos : 0 < 10 ^ ds.length := Nat.pow_pos (by decide)
      exact Nat.le_trans (Nat.le_mul_of_pos_left _ hpos) (Nat.le_trans (Nat.le_add_right _ _) h)
    simp only [gather, hnext, if_pos hle, ih _ h]

/-- An integer that 64 bits hold, with or without a sign. -/
def IsInt64 (k : Int) : Prop :=
  -0x8000000000000000 ≤ k ∧ k ≤ 0xFFFFFFFFFFFFFFFF

instance (k : Int) : Decidable (IsInt64 k) :=
  inferInstanceAs (Decidable (_ ∧ _))

theorem ofInteger_natAbs (h : IsInt64 k) :
    ofInteger (decide (k < 0)) k.natAbs = .ok (.int k) := by
  have hsize : Number.minIntSize = 2 ^ 63 := rfl
  obtain ⟨hlow, -⟩ := h
  unfold ofInteger
  by_cases hneg : k < 0
  · have hrange : ¬(k.natAbs = 0 ∨ Number.minIntSize < k.natAbs) := by
      rw [hsize]
      omega
    have hk : -(k.natAbs : Int) = k := by omega
    rw [decide_eq_true hneg, if_neg (by decide), if_neg hrange, hk]
  · have hk : (k.natAbs : Int) = k := by omega
    rw [decide_eq_false hneg, if_pos (by decide), hk]

theorem numeralEnd_yields {negative : Bool} {n : Nat} {x : Number}
    (hx : ofInteger negative n = .ok x) (hrest : EndsNumeral rest) :
    Yields (numeralEnd negative n 0 rest) x rest := by
  cases rest with
  | nil =>
    simp only [numeralEnd, if_true, hx]
    exact .of_ok rfl rfl
  | cons c rest =>
    obtain ⟨-, hmark, hpoint⟩ := hrest.head c rfl
    simp only [numeralEnd, if_neg hpoint, hmark, hx]
    exact .of_ok rfl rfl

/-- The digits of a number are read as it, if it is an integer with its sign. -/
theorem numeral_toDigits {negative : Bool} {n : Nat} (hn : n ≤ Number.maxInt) {x : Number}
    (hx : ofInteger negative n = .ok x) (hrest : EndsNumeral rest) :
    Yields (numeral negative (Nat.toDigits 10 n ++ rest)) x rest := by
  have hvalue : Nat.ofDigitChars 10 (Nat.toDigits 10 n) 0 = n := Nat.ofDigitChars_ten_toDigits
  have hgather := gather_eq (Nat.toDigits 10 n) 0 (by rw [hvalue]; exact hn)
  rw [hvalue] at hgather
  obtain ⟨c, ds, hds, hc, hmore, hlead⟩ := (isWhole_toDigits n).exists_cons
  rw [hds] at hgather ⊢
  obtain ⟨htake, -⟩ := span_isDigit (List.forall_mem_cons.2 ⟨hc, hmore⟩) hrest.endsDigits
  obtain ⟨-, hdrop⟩ := span_isDigit hmore hrest.endsDigits
  rw [List.cons_append] at htake ⊢
  have hend := numeralEnd_yields hx hrest
  rw [← hdrop] at hend
  obtain ⟨_, hend⟩ := hend
  rw [numeral]
  simp only [hc, Bool.not_true, Bool.false_eq_true, if_false, hlead rest hrest.endsDigits, htake,
    hgather, List.length_nil, Step.leavingAfter, hend]
  exact .of_ok rfl hdrop

theorem intText_nonneg (h : 0 ≤ k) : Number.intText k = Nat.toDigits 10 k.natAbs := by
  rw [Number.intText, if_neg (by omega)]

theorem intText_neg (h : k < 0) : Number.intText k = '-' :: Nat.toDigits 10 k.natAbs := by
  rw [Number.intText, if_pos h]

/-- The digits of an integer are read as it, after its sign. -/
theorem numeral_natAbs (h : IsInt64 k) (hrest : EndsNumeral rest) :
    Yields (numeral (decide (k < 0)) (Nat.toDigits 10 k.natAbs ++ rest)) (.int k) rest := by
  have hmax : Number.maxInt = 2 ^ 64 - 1 := rfl
  obtain ⟨hlow, hhigh⟩ := id h
  exact numeral_toDigits (by rw [hmax]; omega) (ofInteger_natAbs h) hrest

/-! ## Counts -/

theorem isInt64_toNat (n : UInt64) : IsInt64 n.toNat := by
  have := n.toNat_lt
  unfold IsInt64
  omega

theorem toCount_toNat (n : UInt64) : toCount (.int n.toNat) = .ok n := by
  have hpos : (0 : Int) ≤ n.toNat := Int.natCast_nonneg _
  rw [toCount, if_pos hpos, Int.toNat_natCast, UInt64.ofNat_toNat]

/-- A count is read from its digits. -/
theorem count_reads (n : UInt64) : Reads count (Nat.toDigits 10 n.toNat) n := by
  obtain ⟨c, ds, hds, hc, -⟩ := (isWhole_toDigits n.toNat).exists_cons
  refine ⟨⟨c, ds, hds, isBlank_of_isDigit hc, ne_of_isDigit hc (by decide)⟩,
    fun w rest hw hrest => ?_⟩
  have hnumeral := numeral_natAbs (isInt64_toNat n) hrest.endsNumeral
  rw [decide_eq_false (by omega), Int.natAbs_natCast, hds, List.cons_append] at hnumeral
  obtain ⟨_, hnumeral⟩ := hnumeral
  have hs := skipBlank_append hw (isBlank_of_isDigit hc) (ds ++ rest)
  rw [hds]
  unfold count
  split
  · next h => cases hs.symm.trans h
  · next d r h =>
    cases hs.symm.trans h
    rw [if_neg (ne_of_isDigit hc (by decide)), if_pos hc, hnumeral]
    simp only [toCount_toNat, checked]
    exact .of_ok rfl rfl

end SchemaRules.Json
