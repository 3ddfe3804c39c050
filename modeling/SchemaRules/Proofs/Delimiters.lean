import Mathlib.Data.Finset.Card
import SchemaRules.SchemaId
import SchemaRules.Proofs.Splitting

/-!
# Which schema ids are accepted

The check looks at the first delimiter of an id and at what it excludes. Its answer depends only
on which characters the id has, not on their places: on whether a symbol is illegal, and on the
set of the kinds of delimiter. Places matter for empty segments only.

* `SchemaId.kinds`: the kinds of delimiter in an id.
* `SchemaId.check_eq`: the answer of the check from that set.
* `SchemaId.normalize_iff`: which ids are refused under either policy, why, and which are
  accepted.
-/

namespace SchemaRules.SchemaId

/-- An id has a symbol that no id may have. -/
def HasIllegal (id : List Char) : Prop :=
  ∃ c ∈ id, c ∈ "!&?-;~,#@*+%\x7b\x7d()<>[]|\"\x27^".toList

/-- The kinds of delimiter that occur in an id. -/
def kinds (id : List Char) : Finset Char :=
  ({'.', '/', '\\', ':', '_'} : Finset Char).filter (· ∈ id)

/-- A delimiter stands first, last or twice in a row. -/
def LeavesEmpty (d : Char) (id : List Char) : Prop :=
  id.head? = some d ∨ id.getLast? = some d ∨ [d, d] <:+: id

/-- An id mixes delimiters. To the legacy policy `_` alone is a mixture. -/
def Mixed (policy : Policy) (id : List Char) : Prop :=
  2 ≤ (kinds id).card ∨ policy = .legacy ∧ kinds id = {'_'}

/-- An id has one kind of delimiter, and it leaves an empty segment. -/
def HasEmpty (id : List Char) : Prop :=
  ∃ d, kinds id = {d} ∧ LeavesEmpty d id

theorem any_illegalSymbols_iff {id : List Char} :
    id.any illegalSymbols.contains = true ↔ HasIllegal id := by
  have symbols : illegalSymbols = "!&?-;~,#@*+%\x7b\x7d()<>[]|\"\x27^".toList := by decide
  simp [HasIllegal, ← symbols]

theorem mem_kinds {c : Char} {id : List Char} : c ∈ kinds id ↔ c ∈ delimiters ∧ c ∈ id := by
  simp [kinds, delimiters]

/-- No delimiter is found in an id that has none. -/
theorem find?_delimiters_eq_none_iff {id : List Char} :
    id.find? delimiters.contains = none ↔ kinds id = ∅ := by
  rw [List.find?_eq_none, Finset.eq_empty_iff_forall_notMem]
  refine forall_congr' fun c => ?_
  simp only [mem_kinds, List.contains_iff_mem]
  exact not_and'.symm

/-- The delimiter that is found is one of the kinds. -/
theorem mem_kinds_of_find? {id : List Char} {d : Char}
    (h : id.find? delimiters.contains = some d) : d ∈ kinds id :=
  mem_kinds.2 ⟨by simpa using List.find?_some h, List.mem_of_find?_eq_some h⟩

/-- What is excluded after a delimiter is there iff another kind is, or the legacy policy takes `_`
for another kind than itself. -/
theorem any_otherDelimiters_iff {policy : Policy} {id : List Char} {d : Char} (hd : d ∈ kinds id) :
    id.any (otherDelimiters policy d).contains = true ↔ Mixed policy id := by
  have others : id.any (otherDelimiters policy d).contains = true ↔
      ∃ c ∈ kinds id, c ≠ if policy = .legacy ∧ d = '_' then ':' else d := by
    simp only [List.any_eq_true, List.contains_iff_mem, otherDelimiters, List.mem_filter,
      decide_eq_true_eq, mem_kinds]
    exact ⟨fun ⟨c, hc, hm, hne⟩ => ⟨c, ⟨hm, hc⟩, hne⟩, fun ⟨c, ⟨hm, hc⟩, hne⟩ => ⟨c, hc, hm, hne⟩⟩
  rw [others, Mixed]
  by_cases hq : policy = .legacy ∧ d = '_'
  · -- `_` itself is excluded, so any id that has it is refused: it is alone or it is not.
    obtain ⟨rfl, rfl⟩ := hq
    refine iff_of_true ⟨'_', hd, by decide⟩ ?_
    by_cases hone : (kinds id).card = 1
    · obtain ⟨c, hc⟩ := Finset.card_eq_one.1 hone
      rw [hc, Finset.mem_singleton] at hd
      exact .inr ⟨rfl, hd ▸ hc⟩
    · have := Finset.card_pos.2 ⟨_, hd⟩
      exact .inl (by omega)
  · rw [if_neg hq]
    constructor
    · rintro ⟨c, hc, hne⟩
      exact .inl (Finset.one_lt_card.2 ⟨c, hc, d, hd, hne⟩)
    · rintro (htwo | ⟨rfl, hone⟩)
      · exact Finset.exists_mem_ne htwo d
      · rw [hone, Finset.mem_singleton] at hd
        exact absurd ⟨rfl, hd⟩ hq

/-- Where a delimiter is the only kind, a segment is empty iff the delimiter leaves one. -/
theorem any_isEmpty_splitOn_iff {id : List Char} {d : Char} (h : kinds id = {d}) :
    (id.splitOn d).any List.isEmpty = true ↔ HasEmpty id := by
  have hmem : d ∈ id := (mem_kinds.1 (h ▸ Finset.mem_singleton_self d)).2
  have empty : (id.splitOn d).any List.isEmpty = true ↔ [] ∈ id.splitOn d := by
    simp [List.any_eq_true, List.isEmpty_iff]
  rw [empty, Splitting.nil_mem_splitOn_iff]
  constructor
  · rintro (rfl | hplace)
    · exact absurd hmem List.not_mem_nil
    · exact ⟨d, h, hplace⟩
  · rintro ⟨e, he, hplace⟩
    rw [h, Finset.singleton_inj] at he
    exact .inr (he ▸ hplace)

open Classical in
/-- The answer of the check from the set of kinds. -/
theorem check_eq (policy : Policy) (id : List Char) :
    check policy id =
      if HasIllegal id then .error .illegalSymbol
      else if Mixed policy id then .error .mixedSymbols
      else if policy = .strict ∧ HasEmpty id then .error .emptySegment
      else .ok (id.find? delimiters.contains) := by
  unfold check
  by_cases hill : HasIllegal id
  · rw [if_pos (any_illegalSymbols_iff.2 hill), if_pos hill]
  · rw [if_neg (mt any_illegalSymbols_iff.1 hill), if_neg hill]
    cases hfind : id.find? delimiters.contains with
    | none =>
      have hnone := find?_delimiters_eq_none_iff.1 hfind
      have hmixed : ¬Mixed policy id := by simp [Mixed, hnone, eq_comm]
      have hempty : ¬HasEmpty id := by simp [HasEmpty, hnone]
      simp [hmixed, hempty]
    | some d =>
      have hd := mem_kinds_of_find? hfind
      simp only [any_otherDelimiters_iff hd]
      by_cases hmixed : Mixed policy id
      · rw [if_pos hmixed, if_pos hmixed]
      · have hone : (kinds id).card = 1 := by
          have := Finset.card_pos.2 ⟨d, hd⟩
          have : ¬2 ≤ (kinds id).card := fun h => hmixed (.inl h)
          omega
        obtain ⟨e, he⟩ := Finset.card_eq_one.1 hone
        obtain rfl : d = e := by simpa [he] using hd
        simp only [if_neg hmixed, any_isEmpty_splitOn_iff he]

section

variable {policy : Policy} {id : List Char}

theorem check_illegalSymbol_iff : check policy id = .error .illegalSymbol ↔ HasIllegal id := by
  rw [check_eq]
  split_ifs <;> simp_all

theorem check_mixedSymbols_iff :
    check policy id = .error .mixedSymbols ↔ ¬HasIllegal id ∧ Mixed policy id := by
  rw [check_eq]
  split_ifs <;> simp_all

theorem check_emptySegment_iff :
    check policy id = .error .emptySegment
      ↔ ¬HasIllegal id ∧ ¬Mixed policy id ∧ policy = .strict ∧ HasEmpty id := by
  rw [check_eq]
  split_ifs <;> simp_all

theorem exists_check_eq_ok_iff :
    (∃ d, check policy id = .ok d)
      ↔ ¬HasIllegal id ∧ ¬Mixed policy id ∧ ¬(policy = .strict ∧ HasEmpty id) := by
  rw [check_eq]
  split_ifs <;> simp_all

theorem mixed_legacy_iff : Mixed .legacy id ↔ 2 ≤ (kinds id).card ∨ kinds id = {'_'} := by
  simp [Mixed]

theorem mixed_strict_iff : Mixed .strict id ↔ 2 ≤ (kinds id).card := by
  simp [Mixed]

/-- An id with an empty segment has one kind of delimiter only. -/
theorem HasEmpty.not_mixed (h : HasEmpty id) : ¬Mixed .strict id := by
  obtain ⟨d, hd, -⟩ := h
  simp [mixed_strict_iff, hd]

end

section

variable {policy : Policy} {id : String} {issue : IdIssue}

theorem normalize_eq_error_iff :
    normalize policy id = .error issue ↔ check policy id.toList = .error issue := by
  unfold normalize
  cases check policy id.toList <;> simp [Except.map]

theorem segments_eq_error_iff :
    segments policy id = .error issue ↔ check policy id.toList = .error issue := by
  unfold segments
  cases check policy id.toList <;> simp [Except.map]

theorem packageName_eq_error_iff :
    packageName policy id = .error issue ↔ check policy id.toList = .error issue := by
  rw [← segments_eq_error_iff]
  unfold packageName
  cases segments policy id <;> simp [Except.map]

end

/-- The law of schema ids: why an id is refused under each policy, which ids are accepted and
unchanged, and that segments and package name are refused for the same reason. -/
theorem normalize_iff (id : String) :
    (∀ policy, normalize policy id = .error .illegalSymbol ↔ HasIllegal id.toList) ∧
    (normalize .legacy id = .error .mixedSymbols
      ↔ ¬HasIllegal id.toList ∧ (2 ≤ (kinds id.toList).card ∨ kinds id.toList = {'_'})) ∧
    normalize .legacy id ≠ .error .emptySegment ∧
    (∀ n, normalize .legacy id = .ok n
      ↔ n = id ∧ ¬HasIllegal id.toList ∧
        ¬(2 ≤ (kinds id.toList).card ∨ kinds id.toList = {'_'})) ∧
    (normalize .strict id = .error .mixedSymbols
      ↔ ¬HasIllegal id.toList ∧ 2 ≤ (kinds id.toList).card) ∧
    (normalize .strict id = .error .emptySegment
      ↔ ¬HasIllegal id.toList ∧ ∃ d, kinds id.toList = {d} ∧ LeavesEmpty d id.toList) ∧
    (∀ n, normalize .strict id = .ok n
      ↔ n = id ∧ ¬HasIllegal id.toList ∧ ¬2 ≤ (kinds id.toList).card ∧
        ¬∃ d, kinds id.toList = {d} ∧ LeavesEmpty d id.toList) ∧
    (∀ policy issue, segments policy id = .error issue ↔ normalize policy id = .error issue) ∧
    (∀ policy issue,
      packageName policy id = .error issue ↔ normalize policy id = .error issue) := by
  simp only [normalize_eq_error_iff, segments_eq_error_iff, packageName_eq_error_iff,
    normalize_ok_iff, exists_check_eq_ok_iff, check_illegalSymbol_iff, check_mixedSymbols_iff,
    check_emptySegment_iff, mixed_legacy_iff, mixed_strict_iff, ne_eq, implies_true, true_and,
    and_true]
  refine ⟨by simp, fun n => ?_, ?_, fun n => ?_⟩
  · simp [and_comm]
  · exact and_congr_right fun _ => ⟨And.right, fun h =>
      ⟨mt mixed_strict_iff.2 (HasEmpty.not_mixed h), h⟩⟩
  · exact and_comm

/-- The legacy policy refuses `_` even alone, and takes two dots in a row. -/
example : normalize .legacy "a_b" = .error .mixedSymbols ∧ normalize .strict "a_b" = .ok "a_b" ∧
    normalize .legacy "a..b" = .ok "a..b" ∧
    normalize .strict "a..b" = .error .emptySegment := by
  decide

end SchemaRules.SchemaId
