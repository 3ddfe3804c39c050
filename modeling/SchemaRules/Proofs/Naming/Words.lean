import SchemaRules.Proofs.Naming.Stages

/-!
# The words of a property name

A name is split after its illegal characters have become `_`. Where `_` is a delimiter, they separate
words like any other delimiter, so that the words can be read off the name as it is written: they are
the maximal runs of the characters that words are made of. What stands between the runs, and how much
of it, is not seen again.

* `runs`: the maximal runs of the characters with a property; `flatten_runs`: what is in them.
* `isWordChar`: the characters that words are made of.
* `words_replaceIllegal`: the words of a name are the runs of its word characters.
* `normalize_eq_of_runs_eq`: names with the same words are the same identifier.
-/

namespace SchemaRules.Naming

/-! ## Runs -/

/-- The maximal runs of the characters that have a property, in order. -/
def runs (p : Char → Bool) : List Char → List (List Char)
  | [] => []
  | c :: rest => if p c then (c :: rest.takeWhile p) :: runs p (rest.dropWhile p) else runs p rest
termination_by name => name.length
decreasing_by
  · exact Nat.lt_succ_of_le (List.dropWhile_suffix p).length_le
  · exact Nat.lt_succ_self _

section

variable {p : Char → Bool} {c : Char} {rest : List Char}

theorem runs_nil : runs p [] = [] := by
  rw [runs]

theorem runs_cons_of_pos (h : p c = true) :
    runs p (c :: rest) = (c :: rest.takeWhile p) :: runs p (rest.dropWhile p) := by
  rw [runs, if_pos h]

theorem runs_cons_of_neg (h : p c = false) : runs p (c :: rest) = runs p rest := by
  rw [runs, if_neg (by simp [h])]

/-- Runs hold the characters with the property in their order, and no others. -/
theorem flatten_runs (p : Char → Bool) (name : List Char) : (runs p name).flatten = name.filter p := by
  induction name using runs.induct p with
  | case1 => rw [runs_nil, List.flatten_nil, List.filter_nil]
  | case2 c rest hc ih =>
    have hrun : (rest.takeWhile p).filter p = rest.takeWhile p :=
      List.filter_eq_self.2 (List.all_eq_true.1 List.all_takeWhile)
    calc (runs p (c :: rest)).flatten
        = c :: (rest.takeWhile p ++ (rest.dropWhile p).filter p) := by
          rw [runs_cons_of_pos hc, List.flatten_cons, ih, List.cons_append]
      _ = c :: (rest.takeWhile p ++ rest.dropWhile p).filter p := by
          rw [List.filter_append, hrun]
      _ = (c :: rest).filter p := by
          rw [List.takeWhile_append_dropWhile, List.filter_cons_of_pos hc]
  | case3 c rest hc ih =>
    rw [runs_cons_of_neg (by simpa using hc), ih, List.filter_cons_of_neg hc]

/-- A map of characters that leaves those with the property alone, and gives no other the property,
leaves the runs as they are. -/
theorem runs_map {q : Char → Bool} {f : Char → Char} (hq : ∀ c, q (f c) = p c)
    (hf : ∀ c, p c = true → f c = c) (name : List Char) : runs q (name.map f) = runs p name := by
  have hcomp : q ∘ f = p := funext hq
  induction name using runs.induct p with
  | case1 => rw [List.map_nil, runs_nil, runs_nil]
  | case2 c rest hc ih =>
    have hrun : (rest.takeWhile p).map f = rest.takeWhile p := by
      rw [List.map_congr_left fun d hd => hf d (List.all_eq_true.1 List.all_takeWhile d hd),
        List.map_id']
    rw [List.map_cons, runs_cons_of_pos (by rwa [hq]), runs_cons_of_pos hc, List.takeWhile_map,
      List.dropWhile_map, hcomp, hrun, hf c hc, ih]
  | case3 c rest hc ih =>
    have hc : p c = false := by simpa using hc
    rw [List.map_cons, runs_cons_of_neg (by rwa [hq]), runs_cons_of_neg hc, ih]

end

/-! ## Words -/

variable {delimiters : List Char} {name : List Char} {c : Char}

/-- Characters up to a delimiter or to the end of a name are its first word. -/
theorem words_append {word rest : List Char} (hne : word ≠ [])
    (hword : ∀ c ∈ word, delimiters.contains c = false)
    (hrest : ∀ c, rest.head? = some c → delimiters.contains c = true) :
    words delimiters (word ++ rest) = word :: words delimiters rest := by
  have hkept : ∀ parts, (word :: parts).filter (fun w => !w.isEmpty)
      = word :: parts.filter fun w => !w.isEmpty :=
    fun parts => List.filter_cons_of_pos (by simpa using hne)
  cases rest with
  | nil =>
    rw [List.append_nil, words, List.splitOnP_eq_singleton hword, hkept]
    rfl
  | cons c rest =>
    have hc : delimiters.contains c = true := hrest c rfl
    rw [words_cons_of_delimiter hc, words,
      List.splitOnP_append_cons_of_forall_mem hword c hc rest, hkept, words]

/-- What stands between delimiters are the runs of all other characters. -/
theorem words_eq_runs (delimiters name : List Char) :
    words delimiters name = runs (fun c => !delimiters.contains c) name := by
  induction name using runs.induct fun c => !delimiters.contains c with
  | case1 => rw [runs_nil]; rfl
  | case2 c rest hc ih =>
    have hrun : ∀ d ∈ c :: rest.takeWhile fun c => !delimiters.contains c,
        delimiters.contains d = false := by
      refine List.forall_mem_cons.2 ⟨by simpa using hc, fun d hd => ?_⟩
      simpa using List.all_eq_true.1 List.all_takeWhile d hd
    have hend : ∀ d, (rest.dropWhile fun c => !delimiters.contains c).head? = some d →
        delimiters.contains d = true := by
      intro d hd
      have hstop := List.head?_dropWhile_not (fun c => !delimiters.contains c) rest
      rw [hd] at hstop
      simpa using hstop
    rw [runs_cons_of_pos hc, ← ih, ← words_append (List.cons_ne_nil _ _) hrun hend,
      List.cons_append, List.takeWhile_append_dropWhile]
  | case3 c rest hc ih =>
    rw [runs_cons_of_neg (by simpa using hc), ← ih, words_cons_of_delimiter (by simpa using hc)]

/-- Whether words are made of a character: it is a letter, a digit or `$`, and separates no words. -/
def isWordChar (delimiters : List Char) (c : Char) : Bool :=
  (isAlphanumeric c || c == '$') && !delimiters.contains c

/-- Where `_` is a delimiter, words are made of the plain characters. -/
theorem isWordChar_iff_plain (hunderscore : '_' ∈ delimiters) :
    isWordChar delimiters c = true ↔ Plain delimiters c := by
  simp only [isWordChar, Bool.and_eq_true, Bool.or_eq_true, beq_iff_eq, Bool.not_eq_true']
  constructor
  · rintro ⟨hword, hin⟩
    exact ⟨isIdentifierChar_iff.2 (hword.imp_right .inr), hin⟩
  · rintro ⟨hlegal, hin⟩
    have hne : c ≠ '_' := by
      rintro rfl
      rw [List.contains_iff_mem.2 hunderscore] at hin
      cases hin
    exact ⟨(isIdentifierChar_iff.1 hlegal).imp_right (·.resolve_left hne), hin⟩

/-- Where `_` is a delimiter, all characters but the plain ones are delimiters once the illegal ones
are replaced. -/
theorem inWord_replaced_iff (hunderscore : '_' ∈ delimiters) :
    delimiters.contains (if isIdentifierChar c || delimiters.contains c then c else '_') = false ↔
      Plain delimiters c := by
  split
  · next hkept =>
    refine ⟨fun hin => ⟨?_, hin⟩, Plain.inWord⟩
    rwa [hin, Bool.or_false] at hkept
  · next hreplaced =>
    have hdelimiter : delimiters.contains '_' = true := List.contains_iff_mem.2 hunderscore
    refine ⟨fun hin => ?_, fun hplain => ?_⟩
    · rw [hdelimiter] at hin
      cases hin
    · rw [hplain.legal, Bool.true_or] at hreplaced
      exact absurd rfl hreplaced

/-- The words of a name are the runs of its word characters. -/
theorem words_replaceIllegal (hunderscore : '_' ∈ delimiters) (name : List Char) :
    words delimiters (replaceIllegal delimiters name) = runs (isWordChar delimiters) name := by
  rw [words_eq_runs, replaceIllegal]
  refine runs_map (fun c => ?_) (fun c hc => ?_) name
  · rw [Bool.eq_iff_iff, Bool.not_eq_true', inWord_replaced_iff hunderscore,
      isWordChar_iff_plain hunderscore]
  · rw [((isWordChar_iff_plain hunderscore).1 hc).legal, Bool.true_or, if_pos rfl]

/-- Where `_` is a delimiter, an identifier is made of the words of a property name and of nothing
else in it. -/
theorem toList_normalize_eq_runs (hunderscore : '_' ∈ delimiters) (raw : String) :
    (normalize delimiters raw).toList
      = mark (lowerHead (camelCase (runs (isWordChar delimiters) raw.toList))) := by
  rw [toList_normalize, words_replaceIllegal hunderscore]

/-- Names that have the same words are the same identifier, whatever stands before, between and after
the words. -/
theorem normalize_eq_of_runs_eq (delimiters : List Char) (hunderscore : '_' ∈ delimiters)
    (raw other : String)
    (h : runs (isWordChar delimiters) raw.toList = runs (isWordChar delimiters) other.toList) :
    normalize delimiters raw = normalize delimiters other := by
  rw [← String.toList_inj, toList_normalize_eq_runs hunderscore, h,
    toList_normalize_eq_runs hunderscore]

/-- A letter can be a delimiter, and so can `$`. Blanks, a full stop and a currency sign separate words
as well. -/
theorem normalize_eq_of_runs_eq_separated :
    ('_' ∈ ['_', '$', 'x'] ∧ runs (isWordChar ['_', '$', 'x']) "€$première  xÉtape__1x".toList
        = runs (isWordChar ['_', '$', 'x']) "première_Étape.1".toList) ∧
      normalize ['_', '$', 'x'] "€$première  xÉtape__1x"
        = normalize ['_', '$', 'x'] "première_Étape.1" := by
  have hunderscore : '_' ∈ ['_', '$', 'x'] := by decide
  have hwords : runs (isWordChar ['_', '$', 'x']) "€$première  xÉtape__1x".toList
      = runs (isWordChar ['_', '$', 'x']) "première_Étape.1".toList := by
    rw [← words_replaceIllegal hunderscore, ← words_replaceIllegal hunderscore]
    decide +kernel
  exact ⟨⟨hunderscore, hwords⟩, normalize_eq_of_runs_eq _ hunderscore _ _ hwords⟩

end SchemaRules.Naming
