import SchemaRules.Proofs.Naming.Stages
import SchemaRules.Proofs.Text.Ascii
import SchemaRules.Proofs.Text.CaseImages

/-!
# When a made name is an identifier

Illegal characters are replaced before the case of letters is changed, and a changed case can bring in
a combining mark. So a made name can have characters that would have been replaced in the property's
own name: those marks, and nothing else.

* `JoinPlainly`: no combining mark comes in when these words are joined.
* `normalize_legal_iff`: what a made name consists of, and when it is an identifier.
* `not_forall_normalize_legal`: it is not always one.
-/

namespace SchemaRules.Naming

/-- No combining mark comes in when words are joined: no word after the first begins with a letter
whose upper case has one, and no dotted capital at the start is put in lower case. -/
structure JoinPlainly (ws : List (List Char)) : Prop where
  upper : ∀ word ∈ ws.tail, ∀ c, word.head? = some c → c.toNat ∉ markedUpper
  lower : (camelCase ws).head? = some '\u0130' → (camelCase ws).any isLowercase = false

/-! ## Case images of identifier characters -/

section

variable {c d : Char}

theorem not_legal_of_caseMark (h : c.toNat ∈ caseMarks) : isIdentifierChar c = false := by
  have hletter := not_isAlphanumeric_of_caseMark h
  have hunderscore : c ≠ '_' := by
    rintro rfl
    revert h
    decide
  have hdollar : c ≠ '$' := by
    rintro rfl
    revert h
    decide
  simp [isIdentifierChar, hletter, hunderscore, hdollar]

/-- A case map that leaves `_` and `$` alone does to identifier characters what it does to letters
and digits. -/
theorem legal_or_of_mem_image {image : Char → List Char} {q : Prop} (hunderscore : image '_' = ['_'])
    (hdollar : image '$' = ['$']) (hletter : isAlphanumeric c = true → isAlphanumeric d = true ∨ q)
    (hc : isIdentifierChar c = true) (hd : d ∈ image c) : isIdentifierChar d = true ∨ q := by
  rcases isIdentifierChar_iff.1 hc with halpha | rfl | rfl
  · exact (hletter halpha).imp_left fun h => isIdentifierChar_iff.2 (.inl h)
  · rw [hunderscore] at hd
    exact .inl (List.mem_singleton.1 hd ▸ hc)
  · rw [hdollar] at hd
    exact .inl (List.mem_singleton.1 hd ▸ hc)

theorem legal_or_mark_of_mem_upperCase (hc : isIdentifierChar c = true) (hd : d ∈ upperCase c) :
    isIdentifierChar d = true ∨ (c.toNat ∈ markedUpper ∧ d.toNat ∈ caseMarks) :=
  legal_or_of_mem_image (upperCase_ascii (by decide)) (upperCase_ascii (by decide))
    (fun h => isAlphanumeric_of_mem_upperCase h hd) hc hd

theorem legal_or_mark_of_mem_lowerCase (hc : isIdentifierChar c = true) (hd : d ∈ lowerCase c) :
    isIdentifierChar d = true ∨ (c = '\u0130' ∧ d.toNat ∈ caseMarks) :=
  legal_or_of_mem_image (lowerCase_ascii (by decide)) (lowerCase_ascii (by decide))
    (fun h => isAlphanumeric_of_mem_lowerCase h hd) hc hd

end

/-! ## Made names -/

section

variable {delimiters : List Char} {name : List Char} {c : Char}

/-- The words of a name join and settle to identifier characters, and to whatever else is among the
case images of heads. -/
theorem forall_mem_settled {p : Char → Prop} (hlegal : ∀ c, isIdentifierChar c = true → p c)
    (hupper : ∀ word ∈ (words delimiters (replaceIllegal delimiters name)).tail, ∀ c,
      word.head? = some c → isIdentifierChar c = true → ∀ d ∈ upperCase c, p d)
    (hlower : ∀ c, (camelCase (words delimiters (replaceIllegal delimiters name))).head? = some c →
      isIdentifierChar c = true →
      (camelCase (words delimiters (replaceIllegal delimiters name))).any isLowercase = true →
      ∀ d ∈ lowerCase c, p d) :
    ∀ c ∈ mark (lowerHead (camelCase (words delimiters (replaceIllegal delimiters name)))), p c := by
  intro c hc
  rcases mem_mark_iff.1 hc with ⟨-, rfl⟩ | hc
  · exact hlegal '_' isIdentifierChar_underscore
  · refine forall_mem_lowerHead (forall_mem_camelCase ?_ ?_) ?_ c hc
    · intro word hword c hc
      exact hlegal c (plain_of_mem_words hword hc).legal
    · intro word hword c hhead
      have hin := plain_of_mem_words (List.mem_of_mem_tail hword) (List.mem_of_head? hhead)
      exact hupper word hword c hhead hin.legal
    · intro c hhead
      exact hlower c hhead (plain_of_head?_camelCase hhead).legal

/-- A mark that comes in stays: it follows the head of the joined words. -/
theorem joinPlainly_of_legal {ws : List (List Char)}
    (h : ∀ c ∈ mark (lowerHead (camelCase ws)), isIdentifierChar c = true)
    (hne : ∀ word ∈ ws, word ≠ []) : JoinPlainly ws where
  upper word hword c hhead hmarked := by
    -- The mark stands behind the head of the joined words, and nothing behind the head is changed.
    obtain ⟨d, hd, hmark⟩ := exists_caseMark_of_markedUpper hmarked
    cases ws with
    | nil => cases hword
    | cons first others =>
      obtain ⟨rest, rfl⟩ := List.head?_eq_some_iff.1 hhead
      have htail := mem_tail_camelCase (hne first List.mem_cons_self) hword
        (List.mem_append_left rest hd)
      have hlegal := h d (mem_mark_iff.2 (.inr (mem_lowerHead_of_mem_tail htail)))
      simp [not_legal_of_caseMark hmark] at hlegal
  lower hhead := by
    obtain ⟨rest, hjoined⟩ := List.head?_eq_some_iff.1 hhead
    rw [Bool.eq_false_iff]
    intro hany
    have hmem : '\u0307' ∈ lowerHead (camelCase ws) := by
      rw [hjoined] at hany ⊢
      simp [lowerHead, hany, lowerCase_dottedCapital]
    have hlegal := h _ (mem_mark_iff.2 (.inr hmem))
    simp [not_legal_of_caseMark (c := '\u0307') (by decide)] at hlegal

end

/-- A made name consists of identifier characters and combining marks, and it has no mark exactly if
the words of the property's name join without one. -/
theorem normalize_legal_iff (delimiters : List Char) (raw : String) :
    (∀ c ∈ (normalize delimiters raw).toList,
      isIdentifierChar c = true ∨ c.toNat ∈ caseMarks) ∧
    ((∀ c ∈ (normalize delimiters raw).toList, isIdentifierChar c = true) ↔
      JoinPlainly (words delimiters (replaceIllegal delimiters raw.toList))) := by
  rw [toList_normalize]
  refine ⟨?_, fun h => joinPlainly_of_legal h fun word => ne_nil_of_mem_words, fun h => ?_⟩
  · refine forall_mem_settled (fun c => .inl) ?_ ?_
    · intro word hword c hhead hc d hd
      exact (legal_or_mark_of_mem_upperCase hc hd).imp_right And.right
    · intro c hhead hc hany d hd
      exact (legal_or_mark_of_mem_lowerCase hc hd).imp_right And.right
  · refine forall_mem_settled (fun c hc => hc) ?_ ?_
    · intro word hword c hhead hc d hd
      exact (legal_or_mark_of_mem_upperCase hc hd).resolve_right fun hmarked =>
        h.upper word hword c hhead hmarked.1
    · intro c hhead hc hany d hd
      refine (legal_or_mark_of_mem_lowerCase hc hd).resolve_right fun hdotted => ?_
      rw [hdotted.1] at hhead
      simp [h.lower hhead] at hany

/-- A dotted capital before lower-case letters leaves a combining mark in the name. -/
theorem not_forall_normalize_legal :
    ¬ ∀ (delimiters : List Char) (raw : String),
      ∀ c ∈ (normalize delimiters raw).toList, isIdentifierChar c = true := by
  intro h
  have hlegal := h ['-', '_'] "\u0130stanbul" '\u0307' (by decide +kernel)
  simp [not_legal_of_caseMark (c := '\u0307') (by decide)] at hlegal

end SchemaRules.Naming
