import SchemaRules.Suppression
import SchemaRules.Proofs.Naming.Stages
import SchemaRules.Proofs.Text.Ascii

/-!
# Naming a name again

An ASCII name that has been made is made from itself, whatever its `_` is there for: if `_` separates
words, a second pass takes the mark away and puts it back, and otherwise the mark is part of the one
word there is.

* `PlainAscii`: the characters that all stages keep.
* `normalize_mark`: a plain name whose head is settled is named as it is, with its mark.
* `normalize_idempotent`: the whole, and what it says of the entries of an ignore list.
-/

namespace SchemaRules.Naming

variable {delimiters : List Char} {name : List Char} {c d : Char}

/-! ## Made names -/

/-- No reserved word, and no name with a digit first, begins with the mark. -/
theorem needsMark_underscore (name : List Char) : needsMark ('_' :: name) = false := by
  have hreserved : ∀ word ∈ reservedWords, word.toList.head? ≠ some '_' := by decide +kernel
  have hnot : String.ofList ('_' :: name) ∉ reservedWords := by
    intro h
    exact hreserved _ h (by rw [String.toList_ofList, List.head?_cons])
  have hdigit : '_'.isDigit = false := by decide
  rw [needsMark, hdigit, Bool.false_or, List.contains_eq_mem, decide_eq_false hnot]

theorem mark_underscore (name : List Char) : mark ('_' :: name) = '_' :: name := by
  rw [mark, needsMark_underscore]
  rfl

theorem lowerHead_underscore (name : List Char) : lowerHead ('_' :: name) = '_' :: name := by
  have himage : lowerCase '_' = ['_'] := lowerCase_ascii (by decide)
  rw [lowerHead, himage]
  split <;> rfl

/-- A name of plain characters whose head is settled is named as it is, with its mark: a mark that
separates words is put back, and any other mark begins the only word. -/
theorem normalize_mark (h : ∀ c ∈ name, Plain delimiters c) (hsettled : lowerHead name = name) :
    normalize delimiters (String.ofList (mark name)) = String.ofList (mark name) := by
  by_cases hmark : needsMark name = true
  · have hmarked : mark name = '_' :: name := if_pos hmark
    have hlegal : ∀ c ∈ '_' :: name, isIdentifierChar c = true :=
      List.forall_mem_cons.2 ⟨isIdentifierChar_underscore, fun c hc => (h c hc).legal⟩
    by_cases hdelimiter : delimiters.contains '_' = true
    · have hwords : camelCase (words delimiters ('_' :: name)) = name := by
        rw [words_cons_of_delimiter hdelimiter]
        exact camelCase_words_of_inWord fun c hc => (h c hc).inWord
      rw [normalize, String.toList_ofList, hmarked, replaceIllegal_of_legal hlegal, hwords, hsettled,
        hmarked]
    · have hplain : ∀ c ∈ '_' :: name, Plain delimiters c :=
        List.forall_mem_cons.2 ⟨⟨isIdentifierChar_underscore, by simpa using hdelimiter⟩, h⟩
      rw [hmarked, normalize_of_plain hplain, lowerHead_underscore, mark_underscore]
  · have hunmarked : mark name = name := if_neg hmark
    rw [hunmarked, normalize_of_plain h, hsettled, hunmarked]

/-! ## ASCII names -/

/-- A plain ASCII character. -/
structure PlainAscii (delimiters : List Char) (c : Char) : Prop extends Plain delimiters c where
  ascii : c.toNat < 128

/-- A character that is either unchanged or a letter or digit stays plain if no letter or digit
separates words. -/
theorem PlainAscii.of_image (hd : ∀ d ∈ delimiters, isAlphanumeric d = false)
    (h : PlainAscii delimiters c) (hascii : d.toNat < 128) (himage : d = c ∨ d.isAlphanum = true) :
    PlainAscii delimiters d := by
  rcases himage with rfl | hletter
  · exact h
  · rw [← isAlphanumeric_ascii hascii] at hletter
    have hmem : d ∉ delimiters := by
      intro hmem
      rw [hd d hmem] at hletter
      cases hletter
    exact ⟨⟨isIdentifierChar_iff.2 (.inl hletter), by simpa using hmem⟩, hascii⟩

theorem PlainAscii.of_mem_upperCase (hdelimiters : ∀ d ∈ delimiters, isAlphanumeric d = false)
    (h : PlainAscii delimiters c) (hd : d ∈ upperCase c) : PlainAscii delimiters d := by
  rw [upperCase_ascii h.ascii] at hd
  obtain rfl := List.mem_singleton.1 hd
  exact h.of_image hdelimiters (toUpper_ascii h.ascii).1 (toUpper_ascii h.ascii).2

theorem PlainAscii.of_mem_lowerCase (hdelimiters : ∀ d ∈ delimiters, isAlphanumeric d = false)
    (h : PlainAscii delimiters c) (hd : d ∈ lowerCase c) : PlainAscii delimiters d := by
  rw [lowerCase_ascii h.ascii] at hd
  obtain rfl := List.mem_singleton.1 hd
  exact h.of_image hdelimiters (toLower_ascii h.ascii).1 (toLower_ascii h.ascii).2

theorem lowerHead_lowerHead (h : ∀ c ∈ name, c.toNat < 128) :
    lowerHead (lowerHead name) = lowerHead name := by
  cases name with
  | nil => rfl
  | cons head rest =>
    have hhead := h head List.mem_cons_self
    by_cases hany : (head :: rest).any isLowercase = true
    · have hlower : lowerHead (head :: rest) = head.toLower :: rest := by
        rw [lowerHead, if_pos hany, lowerCase_ascii hhead]
        rfl
      -- Whatever the second pass decides, the head is in lower case already.
      rw [hlower, lowerHead, lowerCase_ascii (toLower_ascii hhead).1,
        (toLower_otherCase_ascii hhead).2]
      split <;> rfl
    · have hkept : lowerHead (head :: rest) = head :: rest := if_neg hany
      rw [hkept, hkept]

/-- The words of an ASCII name join to plain ASCII characters. -/
theorem plainAscii_of_mem_camelCase (hdelimiters : ∀ d ∈ delimiters, isAlphanumeric d = false)
    (hname : ∀ c ∈ name, c.toNat < 128) :
    ∀ c ∈ camelCase (words delimiters (replaceIllegal delimiters name)), PlainAscii delimiters c := by
  have hwords : ∀ word ∈ words delimiters (replaceIllegal delimiters name), ∀ c ∈ word,
      PlainAscii delimiters c := by
    intro word hword c hc
    refine ⟨plain_of_mem_words hword hc, ?_⟩
    rcases mem_or_eq_of_mem_replaceIllegal (mem_and_inWord_of_mem_words hword hc).1 with hmem | rfl
    · exact hname c hmem
    · decide
  refine forall_mem_camelCase hwords fun word hword c hhead d hd => ?_
  exact (hwords word (List.mem_of_mem_tail hword) c (List.mem_of_head? hhead)).of_mem_upperCase
    hdelimiters hd

/-- So does the joined name with its head settled. -/
theorem plainAscii_of_mem_lowerHead (hdelimiters : ∀ d ∈ delimiters, isAlphanumeric d = false)
    (hname : ∀ c ∈ name, c.toNat < 128) :
    ∀ c ∈ lowerHead (camelCase (words delimiters (replaceIllegal delimiters name))),
      PlainAscii delimiters c := by
  have hjoined := plainAscii_of_mem_camelCase hdelimiters hname
  refine forall_mem_lowerHead hjoined fun c hhead _ d hd => ?_
  exact (hjoined c (List.mem_of_head? hhead)).of_mem_lowerCase hdelimiters hd

theorem normalize_normalize (hdelimiters : ∀ d ∈ delimiters, isAlphanumeric d = false) {raw : String}
    (hraw : ∀ c ∈ raw.toList, c.toNat < 128) :
    normalize delimiters (normalize delimiters raw) = normalize delimiters raw := by
  have hjoined := plainAscii_of_mem_camelCase hdelimiters hraw
  exact normalize_mark
    (fun c hc => (plainAscii_of_mem_lowerHead hdelimiters hraw c hc).toPlain)
    (lowerHead_lowerHead fun c hc => (hjoined c hc).ascii)

/-! ## Entries of an ignore list -/

open Suppression in
/-- Naming an ASCII name again changes nothing. So an entry of an ignore list marks the field of a
property under the property's name and under the field's own, where the schema gives no other. -/
theorem normalize_idempotent (config : Config) (raw : String)
    (hdelimiters : ∀ d ∈ config.wordDelimiters, isAlphanumeric d = false)
    (hraw : ∀ c ∈ raw.toList, c.toNat < 128) :
    normalize config.wordDelimiters (normalize config.wordDelimiters raw)
        = normalize config.wordDelimiters raw ∧
      ∀ (root : Node) (m : Model), ∀ name ∈ [raw, normalize config.wordDelimiters raw],
        explicitName? (propertyNode? root name) = none → ∀ entry, directiveName? entry = some name →
          applyDirective config.resolver root m entry
            = Suppression.mark m (normalize config.wordDelimiters raw) := by
  have hagain := normalize_normalize hdelimiters hraw
  refine ⟨hagain, fun root m name hname hexplicit entry hentry => ?_⟩
  have hfield : config.resolver name (propertyNode? root name)
      = normalize config.wordDelimiters raw := by
    rw [Config.resolver, propertyName, hexplicit, Option.getD_none]
    rw [List.mem_cons, List.mem_singleton] at hname
    rcases hname with rfl | rfl
    · rfl
    · exact hagain
  rw [applyDirective, hentry]
  exact congrArg (Suppression.mark m) hfield

open Suppression in
/-- A reserved word gets its mark, and the mark is a delimiter: both spellings mark one field. -/
theorem normalize_idempotent_reserved :
    let root : Node := .object [("properties", .object [("new", .scalar .null)])]
    let m : Model := ⟨"M", [⟨"_new", "T", "", []⟩]⟩
    let made := normalize ['-', '_'] "new"
    ((∀ d ∈ ['-', '_'], isAlphanumeric d = false) ∧ (∀ c ∈ "new".toList, c.toNat < 128) ∧
        made = "_new" ∧ explicitName? (propertyNode? root "new") = none ∧
        explicitName? (propertyNode? root "_new") = none) ∧
      normalize ['-', '_'] made = made ∧
      applyDirective (Config.resolver {}) root m (.object [("new", .scalar .null)])
        = Suppression.mark m "_new" ∧
      applyDirective (Config.resolver {}) root m (.scalar (.string "_new"))
        = Suppression.mark m "_new" := by
  intro root m made
  have hdelimiters : ∀ d ∈ ['-', '_'], isAlphanumeric d = false := by
    have hall : (['-', '_'].all fun d => !isAlphanumeric d) = true := by decide +kernel
    intro d hd
    simpa using List.all_eq_true.1 hall d hd
  have hraw : ∀ c ∈ "new".toList, c.toNat < 128 := by simp
  have hmade : made = "_new" := by decide +kernel
  have hnew : explicitName? (propertyNode? root "new") = none := rfl
  have hmarked : explicitName? (propertyNode? root "_new") = none := rfl
  obtain ⟨hagain, hentry⟩ := normalize_idempotent {} "new" hdelimiters hraw
  change ∀ root m, ∀ name ∈ ["new", made], _ at hentry
  rw [hmade] at hentry
  exact ⟨⟨hdelimiters, hraw, hmade, hnew, hmarked⟩, hagain,
    hentry root m "new" (by simp) hnew _ rfl, hentry root m "_new" (by simp) hmarked _ rfl⟩

end SchemaRules.Naming
