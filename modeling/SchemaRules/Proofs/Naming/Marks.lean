import SchemaRules.Proofs.Naming.Idempotence
import SchemaRules.Proofs.Text.CaseImages

/-!
# The mark of a name

An identifier is put behind a mark if it could not be a field name without one. Where delimiters are
ASCII characters, but no letters and digits, nothing before that brings a delimiter in: a changed case
consists of letters, digits and combining marks that are no ASCII characters. So only the mark can be
a delimiter.

* `unmarked`: an identifier before its mark; `needsMark_iff`: when it gets one.
* `needsMark_mark`: with its mark it needs no other.
* `inWord_of_mem_unmarked`: no delimiter is in it.
* `normalize_usable`: what all of this says of an identifier.
-/

namespace SchemaRules.Naming

variable {delimiters : List Char} {name : List Char} {c d : Char}

/-! ## Marks -/

/-- The identifier of a property name before its mark. -/
def unmarked (delimiters : List Char) (raw : String) : List Char :=
  lowerHead (camelCase (words delimiters (replaceIllegal delimiters raw.toList)))

theorem toList_normalize_eq_mark (delimiters : List Char) (raw : String) :
    (normalize delimiters raw).toList = mark (unmarked delimiters raw) :=
  toList_normalize delimiters raw

theorem needsMark_iff :
    needsMark name = true ↔ name = [] ∨ (∃ c, name.head? = some c ∧ c.isDigit = true) ∨
      String.ofList name ∈ reservedWords := by
  cases name with
  | nil => simp [needsMark]
  | cons head rest => simp [needsMark]

theorem needsMark_mark (name : List Char) : needsMark (mark name) = false := by
  by_cases h : needsMark name = true
  · rw [mark, if_pos h, needsMark_underscore]
  · rw [mark, if_neg h]
    simpa using h

/-! ## Delimiters -/

/-- A case map that leaves `_` and `$` alone, and otherwise gives letters, digits and combining marks,
takes a plain character to no delimiter. -/
theorem inWord_of_mem_image {image : Char → List Char}
    (hdelimiters : ∀ d ∈ delimiters, d.toNat < 128 ∧ isAlphanumeric d = false)
    (hunderscore : image '_' = ['_']) (hdollar : image '$' = ['$'])
    (hletter : isAlphanumeric c = true → isAlphanumeric d = true ∨ d.toNat ∈ caseMarks)
    (hc : Plain delimiters c) (hd : d ∈ image c) : delimiters.contains d = false := by
  rcases isIdentifierChar_iff.1 hc.legal with halpha | rfl | rfl
  · have hbeyond : ∀ n ∈ caseMarks, 128 ≤ n := by decide
    have hmem : d ∉ delimiters := by
      intro hmem
      obtain ⟨hascii, hno⟩ := hdelimiters d hmem
      rcases hletter halpha with hyes | hmark
      · rw [hyes] at hno
        cases hno
      · exact absurd (hbeyond _ hmark) (by omega)
    simpa using hmem
  · rw [hunderscore] at hd
    exact List.mem_singleton.1 hd ▸ hc.inWord
  · rw [hdollar] at hd
    exact List.mem_singleton.1 hd ▸ hc.inWord

theorem inWord_of_mem_unmarked
    (hdelimiters : ∀ d ∈ delimiters, d.toNat < 128 ∧ isAlphanumeric d = false) (raw : String) :
    ∀ c ∈ unmarked delimiters raw, delimiters.contains c = false := by
  refine forall_mem_lowerHead (forall_mem_camelCase ?_ ?_) ?_
  · intro word hword c hc
    exact (plain_of_mem_words hword hc).inWord
  · intro word hword c hhead d hd
    exact inWord_of_mem_image hdelimiters (upperCase_ascii (by decide)) (upperCase_ascii (by decide))
      (fun h => (isAlphanumeric_of_mem_upperCase h hd).imp_right And.right)
      (plain_of_mem_words (List.mem_of_mem_tail hword) (List.mem_of_head? hhead)) hd
  · intro c hhead _ d hd
    exact inWord_of_mem_image hdelimiters (lowerCase_ascii (by decide)) (lowerCase_ascii (by decide))
      (fun h => (isAlphanumeric_of_mem_lowerCase h hd).imp_right And.right)
      (plain_of_head?_camelCase hhead) hd

/-! ## Identifiers -/

/-- An identifier is not empty, begins with no digit and is no reserved word. No character after its
first is a delimiter, and its first is one only if it is the mark before a name that is empty, begins
with a digit or is reserved. -/
theorem normalize_usable (delimiters : List Char)
    (hdelimiters : ∀ d ∈ delimiters, d.toNat < 128 ∧ isAlphanumeric d = false) (raw : String) :
    ∃ head rest, (normalize delimiters raw).toList = head :: rest ∧ head.isDigit = false ∧
      normalize delimiters raw ∉ reservedWords ∧ (∀ c ∈ rest, c ∉ delimiters) ∧
      (head ∈ delimiters → head = '_' ∧ rest = unmarked delimiters raw ∧
        (rest = [] ∨ (∃ c, rest.head? = some c ∧ c.isDigit = true) ∨
          String.ofList rest ∈ reservedWords)) := by
  have hin : ∀ c ∈ unmarked delimiters raw, c ∉ delimiters := by
    intro c hc
    simpa using inWord_of_mem_unmarked hdelimiters raw c hc
  have hmarked := toList_normalize_eq_mark delimiters raw
  have hsettled : ¬needsMark (normalize delimiters raw).toList = true := by
    rw [hmarked, needsMark_mark]
    exact Bool.false_ne_true
  rw [needsMark_iff, String.ofList_toList, not_or, not_or] at hsettled
  obtain ⟨hempty, hdigit, hreserved⟩ := hsettled
  obtain ⟨head, rest, hname⟩ := List.exists_cons_of_ne_nil hempty
  refine ⟨head, rest, hname, ?_, hreserved, ?_⟩
  · rw [hname] at hdigit
    exact Bool.eq_false_iff.2 fun h => hdigit ⟨head, rfl, h⟩
  · rw [hmarked, mark] at hname
    split at hname
    · next hneeds =>
      obtain ⟨rfl, rfl⟩ := List.cons.inj hname
      exact ⟨hin, fun _ => ⟨rfl, rfl, needsMark_iff.1 hneeds⟩⟩
    · rw [hname] at hin
      obtain ⟨hhead, hrest⟩ := List.forall_mem_cons.1 hin
      exact ⟨hrest, fun hmem => absurd hmem hhead⟩

/-- A capital at the start hides a reserved word until its case is changed, and `$` separates words.
The mark is a delimiter here. -/
theorem normalize_usable_class :
    ((∀ d ∈ ['_', '$', '.'], d.toNat < 128 ∧ isAlphanumeric d = false) ∧
        '_' ∈ ['_', '$', '.'] ∧ normalize ['_', '$', '.'] "$Class." = "_class") ∧
      '_'.isDigit = false ∧ "_class" ∉ reservedWords ∧
      (∀ c ∈ "class".toList, c ∉ ['_', '$', '.']) ∧
      "class".toList = unmarked ['_', '$', '.'] "$Class." ∧
      ("class".toList = [] ∨ (∃ c, "class".toList.head? = some c ∧ c.isDigit = true) ∨
        String.ofList "class".toList ∈ reservedWords) := by
  have hdelimiters : ∀ d ∈ ['_', '$', '.'], d.toNat < 128 ∧ isAlphanumeric d = false := by
    have hall : (['_', '$', '.'].all fun d => Nat.blt d.toNat 128 && !isAlphanumeric d) = true := by
      decide +kernel
    intro d hd
    simpa using List.all_eq_true.1 hall d hd
  have hname : normalize ['_', '$', '.'] "$Class." = "_class" := by decide +kernel
  have hmem : '_' ∈ ['_', '$', '.'] := by decide
  obtain ⟨head, rest, htext, hdigit, hreserved, hrest, hmark⟩ :=
    normalize_usable ['_', '$', '.'] hdelimiters "$Class."
  rw [hname] at htext hreserved
  have hparts : "_class".toList = '_' :: "class".toList := by simp
  obtain ⟨rfl, rfl⟩ := List.cons.inj (hparts.symm.trans htext)
  exact ⟨⟨hdelimiters, hmem, hname⟩, hdigit, hreserved, hrest, (hmark hmem).2⟩

end SchemaRules.Naming
