import SchemaRules.Naming
import SchemaRules.Proofs.Splitting

/-!
# The stages of naming

The identifier of a property name is made in stages: illegal characters are replaced, the name is
split into words, these are joined in camel case, and the head of the joined name and the mark before
it are settled. Here is what each stage does to the characters of a name.

* `Plain`: a character that is neither replaced nor separates words.
* `plain_of_mem_words`: words have plain characters only.
* `forall_mem_camelCase`, `forall_mem_lowerHead`, `mem_mark_iff`: where the characters of a joined
  name, of a settled head and of a marked name come from.
* `normalize_of_plain`: a name of plain characters goes through the last two stages only.
-/

namespace SchemaRules.Naming

/-- A character that stands for itself in a word: it may stand in an identifier and separates no
words. -/
structure Plain (delimiters : List Char) (c : Char) : Prop where
  legal : isIdentifierChar c = true
  inWord : delimiters.contains c = false

variable {delimiters : List Char} {name : List Char} {c : Char}

/-! ## Characters and words -/

theorem isIdentifierChar_iff :
    isIdentifierChar c = true ↔ isAlphanumeric c = true ∨ c = '_' ∨ c = '$' := by
  simp [isIdentifierChar, or_assoc]

theorem isIdentifierChar_underscore : isIdentifierChar '_' = true :=
  isIdentifierChar_iff.2 (.inr (.inl rfl))

theorem legal_or_delimiter_of_mem_replaceIllegal (h : c ∈ replaceIllegal delimiters name) :
    isIdentifierChar c = true ∨ delimiters.contains c = true := by
  obtain ⟨d, -, rfl⟩ := List.mem_map.1 h
  split
  · next hd => simpa only [Bool.or_eq_true] using hd
  · exact .inl isIdentifierChar_underscore

/-- A replaced name has the characters of the name and the replacement. -/
theorem mem_or_eq_of_mem_replaceIllegal (h : c ∈ replaceIllegal delimiters name) :
    c ∈ name ∨ c = '_' := by
  obtain ⟨d, hd, rfl⟩ := List.mem_map.1 h
  split
  · exact .inl hd
  · exact .inr rfl

theorem replaceIllegal_of_legal (h : ∀ c ∈ name, isIdentifierChar c = true) :
    replaceIllegal delimiters name = name := by
  calc replaceIllegal delimiters name
      = name.map id := List.map_congr_left fun c hc => by simp [h c hc]
    _ = name := List.map_id name

theorem ne_nil_of_mem_words {word : List Char} (h : word ∈ words delimiters name) : word ≠ [] := by
  have hkept := (List.mem_filter.1 h).2
  simpa using hkept

theorem mem_and_inWord_of_mem_words {word : List Char} (h : word ∈ words delimiters name)
    (hc : c ∈ word) : c ∈ name ∧ delimiters.contains c = false :=
  Splitting.of_mem_splitOnP (List.mem_filter.1 h).1 hc

/-- Words of a replaced name have plain characters only. -/
theorem plain_of_mem_words {word : List Char}
    (h : word ∈ words delimiters (replaceIllegal delimiters name)) (hc : c ∈ word) :
    Plain delimiters c := by
  obtain ⟨hmem, hin⟩ := mem_and_inWord_of_mem_words h hc
  rcases legal_or_delimiter_of_mem_replaceIllegal hmem with hlegal | hdelimiter
  · exact ⟨hlegal, hin⟩
  · rw [hin] at hdelimiter
    cases hdelimiter

/-- A delimiter at the front belongs to no word. -/
theorem words_cons_of_delimiter (h : delimiters.contains c = true) :
    words delimiters (c :: name) = words delimiters name := by
  rw [words, List.splitOnP_cons_eq_if_modifyHead, if_pos h, List.filter_cons_of_neg (by simp), words]

/-- A name in which nothing separates words is one word, if it is any. -/
theorem camelCase_words_of_inWord (h : ∀ c ∈ name, delimiters.contains c = false) :
    camelCase (words delimiters name) = name := by
  rw [words, List.splitOnP_eq_singleton h]
  cases name <;> simp [camelCase]

/-! ## Joining, settling the head, marking -/

/-- Joined words have the characters of the words and of the upper case of the heads of all but the
first. -/
theorem forall_mem_camelCase {p : Char → Prop} {ws : List (List Char)}
    (hws : ∀ word ∈ ws, ∀ c ∈ word, p c)
    (hupper : ∀ word ∈ ws.tail, ∀ c, word.head? = some c → ∀ d ∈ upperCase c, p d) :
    ∀ c ∈ camelCase ws, p c := by
  intro c hc
  cases ws with
  | nil => cases hc
  | cons first others =>
    rcases List.mem_append.1 hc with hc | hc
    · exact hws first List.mem_cons_self c hc
    · obtain ⟨word, hword, hc⟩ := List.mem_flatMap.1 hc
      cases word with
      | nil => cases hc
      | cons head rest =>
        rcases List.mem_append.1 hc with hc | hc
        · exact hupper _ hword head rfl c hc
        · exact hws _ (List.mem_cons_of_mem _ hword) c (List.mem_cons_of_mem _ hc)

/-- Joined words begin as the first word does. -/
theorem head?_camelCase {ws : List (List Char)} (h : ∀ word ∈ ws, word ≠ []) :
    (camelCase ws).head? = ws.head?.bind List.head? := by
  cases ws with
  | nil => rfl
  | cons first others =>
    obtain ⟨head, rest, rfl⟩ := List.exists_cons_of_ne_nil (h first List.mem_cons_self)
    rfl

/-- The joined words of a name begin with a plain character. -/
theorem plain_of_head?_camelCase
    (h : (camelCase (words delimiters (replaceIllegal delimiters name))).head? = some c) :
    Plain delimiters c := by
  rw [head?_camelCase fun word => ne_nil_of_mem_words] at h
  obtain ⟨word, hword, hhead⟩ := Option.bind_eq_some_iff.1 h
  exact plain_of_mem_words (List.mem_of_head? hword) (List.mem_of_head? hhead)

/-- What stands in a capitalized word is neither lost nor the head of the joined words. -/
theorem mem_tail_camelCase {first : List Char} {others : List (List Char)} {word : List Char}
    (hfirst : first ≠ []) (hword : word ∈ others) (hc : c ∈ capitalize word) :
    c ∈ (camelCase (first :: others)).tail := by
  obtain ⟨head, rest, rfl⟩ := List.exists_cons_of_ne_nil hfirst
  exact List.mem_append_right _ (List.mem_flatMap.2 ⟨word, hword, hc⟩)

/-- A name with its head settled has the characters of the name and of the lower case of its head,
if that is taken. -/
theorem forall_mem_lowerHead {p : Char → Prop} (hname : ∀ c ∈ name, p c)
    (hlower : ∀ c, name.head? = some c → name.any isLowercase = true → ∀ d ∈ lowerCase c, p d) :
    ∀ c ∈ lowerHead name, p c := by
  intro c hc
  cases name with
  | nil => cases hc
  | cons head rest =>
    rw [lowerHead] at hc
    split at hc
    · next hany =>
      rcases List.mem_append.1 hc with hc | hc
      · exact hlower head rfl hany c hc
      · exact hname c (List.mem_cons_of_mem _ hc)
    · exact hname c hc

theorem mem_lowerHead_of_mem_tail (h : c ∈ name.tail) : c ∈ lowerHead name := by
  cases name with
  | nil => cases h
  | cons head rest =>
    rw [lowerHead]
    split
    · exact List.mem_append_right _ h
    · exact List.mem_cons_of_mem _ h

theorem mem_mark_iff : c ∈ mark name ↔ (needsMark name = true ∧ c = '_') ∨ c ∈ name := by
  rw [mark]
  split <;> simp [*]

/-! ## The whole -/

theorem toList_normalize (delimiters : List Char) (raw : String) :
    (normalize delimiters raw).toList
      = mark (lowerHead (camelCase (words delimiters (replaceIllegal delimiters raw.toList)))) :=
  String.toList_ofList

/-- A name of plain characters is one word, so that only its head and the mark are left to
settle. -/
theorem normalize_of_plain (h : ∀ c ∈ name, Plain delimiters c) :
    normalize delimiters (String.ofList name) = String.ofList (mark (lowerHead name)) := by
  rw [normalize, String.toList_ofList, replaceIllegal_of_legal fun c hc => (h c hc).legal,
    camelCase_words_of_inWord fun c hc => (h c hc).inWord]

end SchemaRules.Naming
