import SchemaRules.Text.Alphanumeric
import SchemaRules.Text.CaseMap

/-!
# Case images of letters

Upper and lower case of a letter or digit are letters and digits, but for a few letters that have no
single character in the other case. These are written as a letter with combining marks after it, and
some of the marks are no letters. Tables are compared run by run: a run of letters whose images all
lie in one run of the other table needs no look at any one of them.

* `CodeShift.landsIn`: a table holds all images of a shift; `any_contains_of_landsIn`: each of them.
* `mem_caseImage`: where an image comes from.
* `caseMarks`, `markedUpper`: the marks, and the letters whose upper case has one.
* `isAlphanumeric_of_mem_upperCase`, `exists_caseMark_of_markedUpper`: upper case.
* `isAlphanumeric_of_mem_lowerCase`, `lowerCase_dottedCapital`: lower case.
-/

namespace SchemaRules

/-! ## Runs and shifts -/

namespace CodeRun

theorem contains_iff {r : CodeRun} {n : Nat} :
    r.contains n = true ↔ r.first ≤ n ∧ n ≤ r.last ∧ (n - r.first) % r.stride = 0 := by
  simp [contains, and_assoc]

/-- Whether one run without gaps holds every code point from `low` to `high`. -/
def covers (table : List CodeRun) (low high : Nat) : Bool :=
  table.any fun r => Nat.beq r.stride 1 && (Nat.ble r.first low && Nat.ble high r.last)

theorem any_contains_of_covers {table : List CodeRun} {low high n : Nat}
    (h : covers table low high = true) (hlow : low ≤ n) (hhigh : n ≤ high) :
    table.any (·.contains n) = true := by
  obtain ⟨r, hr, hin⟩ := List.any_eq_true.1 h
  simp only [Bool.and_eq_true, Nat.beq_eq, Nat.ble_eq] at hin
  obtain ⟨hstride, hfirst, hlast⟩ := hin
  refine List.any_eq_true.2 ⟨r, hr, contains_iff.2 ⟨by omega, by omega, ?_⟩⟩
  rw [hstride, Nat.mod_one]

end CodeRun

namespace CodeShift

/-- Whether a table holds all images of a shift: in one run, or one by one. -/
def landsIn (table : List CodeRun) (s : CodeShift) : Bool :=
  CodeRun.covers table s.target (s.target + (s.run.last - s.run.first)) ||
    (List.range ((s.run.last - s.run.first) / s.run.stride + 1)).all fun k =>
      table.any (·.contains (s.target + k * s.run.stride))

theorem any_contains_of_landsIn {table : List CodeRun} {s : CodeShift} (h : s.landsIn table = true)
    {n : Nat} (hn : s.run.contains n = true) :
    table.any (·.contains (s.target + (n - s.run.first))) = true := by
  obtain ⟨hfirst, hlast, hmod⟩ := CodeRun.contains_iff.1 hn
  rw [landsIn, Bool.or_eq_true, List.all_eq_true] at h
  rcases h with hall | hone
  · exact CodeRun.any_contains_of_covers hall (by omega) (by omega)
  · have hk : (n - s.run.first) / s.run.stride * s.run.stride = n - s.run.first :=
      Nat.div_mul_cancel (Nat.dvd_of_mod_eq_zero hmod)
    have hle : (n - s.run.first) / s.run.stride ≤ (s.run.last - s.run.first) / s.run.stride :=
      Nat.div_le_div_right (by omega)
    have himage := hone _ (List.mem_range.2 (Nat.lt_succ_of_le hle))
    rwa [hk] at himage

end CodeShift

/-- An image comes from a shift or from an expansion, or it is the code point itself. -/
theorem mem_caseImage {shifts : List CodeShift} {expansions : List (Nat × List Nat)} {n m : Nat}
    (h : m ∈ caseImage shifts expansions n) :
    (∃ s ∈ shifts, s.run.contains n = true ∧ m = s.target + (n - s.run.first)) ∨
      (∃ e ∈ expansions, e.1 = n ∧ m ∈ e.2) ∨ m = n := by
  unfold caseImage at h
  split at h
  · next image himage =>
    obtain ⟨s, hs, rfl⟩ := Option.map_eq_some_iff.1 himage
    have hcontains : s.run.contains n = true := by simpa using List.find?_some hs
    exact .inl ⟨s, List.mem_of_find?_eq_some hs, hcontains, List.mem_singleton.1 h⟩
  · cases hl : expansions.lookup n with
    | none =>
      rw [hl] at h
      exact .inr (.inr (List.mem_singleton.1 h))
    | some images =>
      rw [hl] at h
      obtain ⟨before, after, rfl, -⟩ := List.lookup_eq_some_iff.1 hl
      exact .inr (.inl ⟨(n, images), by simp, rfl, h⟩)

/-! ## Letters -/

theorem alphanumericRuns_valid :
    (alphanumericRuns.all fun r => Nat.ble r.last 0xD7FF ||
      (Nat.ble 0xE000 r.first && Nat.ble r.last 0x10FFFF)) = true := by
  decide +kernel

/-- A code point that the table holds is a character. -/
theorem isAlphanumeric_ofNat {n : Nat} (h : alphanumericRuns.any (·.contains n) = true) :
    isAlphanumeric (Char.ofNat n) = true := by
  have hvalid : n.isValidChar := by
    obtain ⟨r, hr, hn⟩ := List.any_eq_true.1 h
    obtain ⟨hfirst, hlast, -⟩ := CodeRun.contains_iff.1 hn
    have hbounds := List.all_eq_true.1 alphanumericRuns_valid r hr
    simp only [Bool.or_eq_true, Bool.and_eq_true, Nat.ble_eq] at hbounds
    rcases hbounds with hlow | ⟨hlow, hhigh⟩
    · exact .inl (by omega)
    · exact .inr ⟨by omega, by omega⟩
  have htoNat : (Char.ofNat n).toNat = n := congrArg Char.toNat (dif_pos hvalid)
  rw [isAlphanumeric, CodeRun.tableContains, htoNat]
  exact h

/-- The combining marks that stand in case images and are no letters. -/
def caseMarks : List Nat :=
  [0x300, 0x301, 0x307, 0x308, 0x30A, 0x30C, 0x313, 0x331, 0x342]

/-- The letters whose upper case has such a mark. -/
def markedUpper : List Nat :=
  [0x1F0, 0x390, 0x3B0, 0x1E96, 0x1E97, 0x1E98, 0x1E99, 0x1F50, 0x1F52, 0x1F54, 0x1F56, 0x1FB6,
   0x1FB7, 0x1FC6, 0x1FC7, 0x1FD2, 0x1FD3, 0x1FD6, 0x1FD7, 0x1FE2, 0x1FE3, 0x1FE4, 0x1FE6, 0x1FE7,
   0x1FF6, 0x1FF7]

theorem not_isAlphanumeric_of_caseMark {c : Char} (h : c.toNat ∈ caseMarks) :
    isAlphanumeric c = false := by
  have hall : (caseMarks.all fun n => !alphanumericRuns.any (·.contains n)) = true := by
    decide +kernel
  simpa [isAlphanumeric, CodeRun.tableContains] using List.all_eq_true.1 hall _ h

/-- Every shift takes its run to letters and digits. -/
theorem caseRuns_landIn : (upperRuns ++ lowerRuns).all (·.landsIn alphanumericRuns) = true := by
  decide +kernel

/-! ## Upper case -/

theorem upperExpansions_alphanumeric :
    (upperExpansions.all fun e => e.2.all fun m => CodeRun.covers alphanumericRuns m m ||
      (caseMarks.any (Nat.beq m) && markedUpper.any (Nat.beq e.1))) = true := by
  decide +kernel

/-- The upper case of a letter or digit has letters and digits only, but for the letters whose upper
case is marked. -/
theorem isAlphanumeric_of_mem_upperCase {c d : Char} (hc : isAlphanumeric c = true)
    (hd : d ∈ upperCase c) :
    isAlphanumeric d = true ∨ (c.toNat ∈ markedUpper ∧ d.toNat ∈ caseMarks) := by
  obtain ⟨m, hm, rfl⟩ := List.mem_map.1 hd
  rcases mem_caseImage hm with ⟨s, hs, hn, rfl⟩ | ⟨e, he, hn, hmem⟩ | rfl
  · have hland := List.all_eq_true.1 caseRuns_landIn s (List.mem_append_left _ hs)
    exact .inl (isAlphanumeric_ofNat (CodeShift.any_contains_of_landsIn hland hn))
  · have hall := List.all_eq_true.1 (List.all_eq_true.1 upperExpansions_alphanumeric e he) m hmem
    rw [Bool.or_eq_true, Bool.and_eq_true] at hall
    rcases hall with hcovers | ⟨hmark, hletter⟩
    · exact .inl (isAlphanumeric_ofNat
        (CodeRun.any_contains_of_covers hcovers (Nat.le_refl m) (Nat.le_refl m)))
    · simp only [List.any_eq_true, Nat.beq_eq, exists_eq_right'] at hmark hletter
      refine .inr ⟨hn ▸ hletter, ?_⟩
      have hvalid : ∀ m ∈ caseMarks, (Char.ofNat m).toNat = m := by decide
      rwa [hvalid m hmark]
  · left
    rwa [Char.ofNat_toNat]

theorem exists_caseMark_of_markedUpper {c : Char} (hc : c.toNat ∈ markedUpper) :
    ∃ d ∈ upperCase c, d.toNat ∈ caseMarks := by
  have hall : (markedUpper.all fun n => (caseImage upperRuns upperExpansions n).any fun m =>
      caseMarks.any (Nat.beq (Char.ofNat m).toNat)) = true := by
    decide +kernel
  obtain ⟨m, hm, hmark⟩ := List.any_eq_true.1 (List.all_eq_true.1 hall _ hc)
  refine ⟨Char.ofNat m, List.mem_map_of_mem hm, ?_⟩
  simpa using hmark

/-! ## Lower case -/

/-- The one letter whose lower case is two characters. -/
theorem lowerCase_dottedCapital : lowerCase '\u0130' = ['i', '\u0307'] := by
  decide

/-- The lower case of a letter or digit is a letter or digit, but for the dotted capital. -/
theorem isAlphanumeric_of_mem_lowerCase {c d : Char} (hc : isAlphanumeric c = true)
    (hd : d ∈ lowerCase c) : isAlphanumeric d = true ∨ (c = '\u0130' ∧ d.toNat ∈ caseMarks) := by
  obtain ⟨m, hm, rfl⟩ := List.mem_map.1 hd
  rcases mem_caseImage hm with ⟨s, hs, hn, rfl⟩ | ⟨e, he, hn, hmem⟩ | rfl
  · have hland := List.all_eq_true.1 caseRuns_landIn s (List.mem_append_right _ hs)
    exact .inl (isAlphanumeric_ofNat (CodeShift.any_contains_of_landsIn hland hn))
  · obtain rfl : e = (0x130, [0x69, 0x307]) := by simpa [lowerExpansions] using he
    have hdotted : c = '\u0130' := Char.toNat_inj.1 hn.symm
    rcases List.mem_cons.1 hmem with rfl | hmark
    · exact .inl (by decide)
    · obtain rfl := List.mem_singleton.1 hmark
      exact .inr ⟨hdotted, by decide⟩
  · left
    rwa [Char.ofNat_toNat]

end SchemaRules
