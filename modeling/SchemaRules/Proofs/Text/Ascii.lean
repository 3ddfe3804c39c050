import SchemaRules.Text.Alphanumeric
import SchemaRules.Text.CaseMap

/-!
# The tables on ASCII characters

What the tables say of ASCII characters is what core Lean says of them. Only the runs at the start of
a table have ASCII characters in them, so those are all that is looked at.

* `CodeRun.tableContains_of_lt`, `caseImage_of_lt`: the start of a table is enough.
* `isAlphanumeric_ascii`, `upperCase_ascii`, `lowerCase_ascii`: the tables.
* `otherCase_ascii`: the other case of an ASCII character is ASCII.
* `toLower_otherCase_ascii`: in lower case it is the same character.
-/

namespace SchemaRules

/-- What is checked of the numbers below a bound holds of the characters below it. -/
theorem forall_char_lt {bound : Nat} {p : Char → Bool}
    (h : ((List.range bound).all fun n => p (Char.ofNat n)) = true) {c : Char}
    (hc : c.toNat < bound) : p c = true := by
  have hp := List.all_eq_true.1 h c.toNat (List.mem_range.2 hc)
  rwa [Char.ofNat_toNat] at hp

theorem CodeRun.contains_of_lt {r : CodeRun} {n : Nat} (h : n < r.first) : r.contains n = false := by
  simp [contains, Nat.not_le.2 h]

/-- A table holds a character below a bound if the runs do that start there. -/
theorem CodeRun.tableContains_of_lt {table : List CodeRun} {bound k : Nat}
    (h : ((table.drop k).all fun r => Nat.ble bound r.first) = true) {c : Char}
    (hc : c.toNat < bound) : tableContains table c = tableContains (table.take k) c := by
  have hdrop : (table.drop k).any (·.contains c.toNat) = false := by
    rw [List.any_eq_false]
    intro r hr
    have hfirst := Nat.le_of_ble_eq_true (List.all_eq_true.1 h r hr)
    rw [contains_of_lt (Nat.lt_of_lt_of_le hc hfirst)]
    exact Bool.false_ne_true
  calc table.any (·.contains c.toNat)
      = (table.take k ++ table.drop k).any (·.contains c.toNat) := by rw [List.take_append_drop]
    _ = (table.take k).any (·.contains c.toNat) := by rw [List.any_append, hdrop, Bool.or_false]

/-- The image of a code point below a bound is that under the shifts that start there. -/
theorem caseImage_of_lt {shifts : List CodeShift} {expansions : List (Nat × List Nat)}
    {bound k : Nat} (h : ((shifts.drop k).all fun s => Nat.ble bound s.run.first) = true)
    (he : (expansions.all fun e => Nat.ble bound e.1) = true) {n : Nat} (hn : n < bound) :
    caseImage shifts expansions n = caseImage (shifts.take k) [] n := by
  have hdrop : (shifts.drop k).find? (·.run.contains n) = none := by
    rw [List.find?_eq_none]
    intro s hs
    have hfirst := Nat.le_of_ble_eq_true (List.all_eq_true.1 h s hs)
    rw [CodeRun.contains_of_lt (Nat.lt_of_lt_of_le hn hfirst)]
    exact Bool.false_ne_true
  have hfind : shifts.find? (·.run.contains n) = (shifts.take k).find? (·.run.contains n) :=
    calc shifts.find? (·.run.contains n)
        = (shifts.take k ++ shifts.drop k).find? (·.run.contains n) := by
          rw [List.take_append_drop]
      _ = (shifts.take k).find? (·.run.contains n) := by
          rw [List.find?_append, hdrop, Option.or_none]
  have hlookup : expansions.lookup n = none := by
    rw [List.lookup_eq_none_iff]
    intro e hmem
    have hkey := Nat.le_of_ble_eq_true (List.all_eq_true.1 he e hmem)
    simp only [bne_iff_ne]
    omega
  rw [caseImage, caseImage, CodeShift.image?, CodeShift.image?, hfind, hlookup]
  rfl

section

variable {c : Char}

theorem isAlphanumeric_ascii (hc : c.toNat < 128) : isAlphanumeric c = c.isAlphanum := by
  rw [isAlphanumeric, CodeRun.tableContains_of_lt (k := 3) (by decide +kernel) hc]
  exact beq_iff_eq.1 (forall_char_lt
    (p := fun c => CodeRun.tableContains (alphanumericRuns.take 3) c == c.isAlphanum)
    (by decide +kernel) hc)

theorem upperCase_ascii (hc : c.toNat < 128) : upperCase c = [c.toUpper] := by
  rw [upperCase, caseImage_of_lt (k := 1) (by decide +kernel) (by decide +kernel) hc]
  exact beq_iff_eq.1 (forall_char_lt
    (p := fun c => (caseImage (upperRuns.take 1) [] c.toNat).map Char.ofNat == [c.toUpper])
    (by decide +kernel) hc)

theorem lowerCase_ascii (hc : c.toNat < 128) : lowerCase c = [c.toLower] := by
  rw [lowerCase, caseImage_of_lt (k := 1) (by decide +kernel) (by decide +kernel) hc]
  exact beq_iff_eq.1 (forall_char_lt
    (p := fun c => (caseImage (lowerRuns.take 1) [] c.toNat).map Char.ofNat == [c.toLower])
    (by decide +kernel) hc)

/-- The other case of an ASCII character is ASCII, and a letter where it differs. -/
theorem otherCase_ascii (hc : c.toNat < 128) :
    (c.toUpper.toNat < 128 ∧ (c.toUpper = c ∨ c.toUpper.isAlphanum = true)) ∧
      c.toLower.toNat < 128 ∧ (c.toLower = c ∨ c.toLower.isAlphanum = true) := by
  have h := forall_char_lt (p := fun c =>
    (Nat.blt c.toUpper.toNat 128 && (c.toUpper == c || c.toUpper.isAlphanum)) &&
      (Nat.blt c.toLower.toNat 128 && (c.toLower == c || c.toLower.isAlphanum)))
    (by decide +kernel) hc
  simpa using h

/-- In lower case, the case that an ASCII character had makes no difference. -/
theorem toLower_otherCase_ascii (hc : c.toNat < 128) :
    c.toUpper.toLower = c.toLower ∧ c.toLower.toLower = c.toLower := by
  have h := forall_char_lt (p := fun c =>
    c.toUpper.toLower == c.toLower && c.toLower.toLower == c.toLower) (by decide +kernel) hc
  rwa [Bool.and_eq_true, beq_iff_eq, beq_iff_eq] at h

theorem toUpper_ascii (hc : c.toNat < 128) :
    c.toUpper.toNat < 128 ∧ (c.toUpper = c ∨ c.toUpper.isAlphanum = true) :=
  (otherCase_ascii hc).1

theorem toLower_ascii (hc : c.toNat < 128) :
    c.toLower.toNat < 128 ∧ (c.toLower = c ∨ c.toLower.isAlphanum = true) :=
  (otherCase_ascii hc).2

end

end SchemaRules
