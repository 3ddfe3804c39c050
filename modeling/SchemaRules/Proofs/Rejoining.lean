import Mathlib.Data.List.DropRight
import SchemaRules.Proofs.Delimiters

/-!
# Splitting and joining schema ids

An accepted id is its segments with the delimiter between them. The strict policy loses nothing by
splitting; the legacy one loses the delimiters that have no segment on one side, and nothing else.

* `collapse`, `tidy`: one delimiter for a run of them, and none at the ends.
* `intercalate_filter_splitOn`: joining the parts that are not empty tidies a text.
* `segments_eq`: the segments of an accepted id, from its one delimiter.
* `segments_join`: both directions, under both policies.
-/

namespace SchemaRules

/-! ## Texts -/

namespace Splitting

variable {d : Char} {p l x : List Char}

/-- A text with each run of a character collapsed to one. -/
def collapse (d : Char) : List Char → List Char
  | [] => []
  | c :: rest => if c = d ∧ rest.head? = some d then collapse d rest else c :: collapse d rest

/-- A text with each run of a character collapsed to one, and none left at either end. -/
def tidy (d : Char) (l : List Char) : List Char :=
  ((collapse d l).dropWhile (· == d)).rdropWhile (· == d)

theorem collapse_append (h : d ∉ p) (l : List Char) : collapse d (p ++ l) = p ++ collapse d l := by
  induction p with
  | nil => rfl
  | cons c p ih =>
    rw [List.mem_cons, not_or] at h
    rw [List.cons_append, collapse, if_neg (fun hc => h.1 hc.1.symm), ih h.2, List.cons_append]

/-- After a separator, a run of it is the same as none. -/
theorem collapse_cons_self (d : Char) (l : List Char) :
    collapse d (d :: l) = d :: (collapse d l).dropWhile (· == d) := by
  induction l with
  | nil => simp [collapse]
  | cons c l ih =>
    by_cases hc : c = d
    · subst hc
      have hrun : collapse c (c :: c :: l) = collapse c (c :: l) := by simp [collapse]
      rw [hrun, ih, List.dropWhile_cons_of_pos (by simp), List.dropWhile_idempotent]
    · have hkept : collapse d (c :: l) = c :: collapse d l := by simp [collapse, hc]
      have hfirst : collapse d (d :: c :: l) = d :: collapse d (c :: l) := by
        simp only [collapse, List.head?_cons, Option.some.injEq, hc, and_false, if_false]
      rw [hfirst, hkept, List.dropWhile_cons_of_neg (by simp [hc])]

/-- A text without the separator at its end keeps it. -/
theorem rdropWhile_append (h : d ∉ p) (l : List Char) :
    (p ++ l).rdropWhile (· == d) = p ++ l.rdropWhile (· == d) := by
  induction l using List.reverseRecOn with
  | nil =>
    rw [List.append_nil, List.rdropWhile_nil, List.append_nil, List.rdropWhile_eq_self_iff]
    intro hne hlast
    exact h (beq_iff_eq.1 hlast ▸ List.getLast_mem hne)
  | append_singleton l c ih =>
    rw [← List.append_assoc, List.rdropWhile_concat, List.rdropWhile_concat, ih]
    split <;> simp

theorem rdropWhile_cons_self (d : Char) (l : List Char) :
    (d :: l).rdropWhile (· == d) =
      if l.rdropWhile (· == d) = [] then [] else d :: l.rdropWhile (· == d) := by
  induction l using List.reverseRecOn with
  | nil => simp [List.rdropWhile_singleton]
  | append_singleton l c ih =>
    rw [← List.cons_append, List.rdropWhile_concat, List.rdropWhile_concat, ih]
    by_cases hc : c = d <;> simp [hc]

/-- A separator at the start does not matter. -/
theorem tidy_cons_self (d : Char) (l : List Char) : tidy d (d :: l) = tidy d l := by
  rw [tidy, collapse_cons_self, List.dropWhile_cons_of_pos (by simp), List.dropWhile_idempotent]
  rfl

theorem tidy_of_not_mem (h : d ∉ p) : tidy d p = p := by
  have hcollapse : collapse d p = p := by simpa [collapse] using collapse_append h []
  have hright : p.rdropWhile (· == d) = p := by simpa using rdropWhile_append h []
  have hleft : p.dropWhile (· == d) = p := by
    cases p with
    | nil => rfl
    | cons c p =>
      have hc : c ≠ d := fun hc => h (hc ▸ List.mem_cons_self)
      exact List.dropWhile_cons_of_neg (by simp [hc])
  rw [tidy, hcollapse, hleft, hright]

/-- After a part that is not empty, a separator stays if something is left after it. -/
theorem tidy_append_cons (h : d ∉ p) (hne : p ≠ []) (l : List Char) :
    tidy d (p ++ d :: l) = p ++ if tidy d l = [] then [] else d :: tidy d l := by
  have hleft : (p ++ collapse d (d :: l)).dropWhile (· == d) = p ++ collapse d (d :: l) := by
    obtain ⟨c, more, rfl⟩ := List.exists_cons_of_ne_nil hne
    have hc : c ≠ d := fun hc => h (hc ▸ List.mem_cons_self)
    exact List.dropWhile_cons_of_neg (by simp [hc])
  rw [tidy, collapse_append h, hleft, rdropWhile_append h, collapse_cons_self,
    rdropWhile_cons_self]
  rfl

/-- Parts that are not empty leave something when they are joined. -/
theorem intercalate_ne_nil {d : Char} {parts : List (List Char)} (hne : parts ≠ [])
    (h : ∀ p ∈ parts, p ≠ []) : [d].intercalate parts ≠ [] := by
  obtain ⟨p, rest, rfl⟩ := List.exists_cons_of_ne_nil hne
  have hp := h p List.mem_cons_self
  cases rest with
  | nil => simpa using hp
  | cons q rest => simp [hp]

theorem tidy_intercalate {d : Char} {parts : List (List Char)} (h : ∀ p ∈ parts, d ∉ p) :
    tidy d ([d].intercalate parts) = [d].intercalate (parts.filter fun p => !p.isEmpty) := by
  induction parts with
  | nil => rfl
  | cons p rest ih =>
    have hp := h p List.mem_cons_self
    have hrest := ih fun q hq => h q (List.mem_cons_of_mem p hq)
    cases rest with
    | nil =>
      rw [List.intercalate_singleton, tidy_of_not_mem hp]
      cases p <;> simp
    | cons q rest =>
      have hjoin : [d].intercalate (p :: q :: rest) = p ++ d :: [d].intercalate (q :: rest) := by
        simp
      rw [hjoin]
      generalize q :: rest = others at hrest ⊢
      by_cases hempty : p = []
      · subst hempty
        rw [List.nil_append, tidy_cons_self, hrest]
        simp
      · have hkept : (p :: others).filter (fun p => !p.isEmpty) =
            p :: others.filter fun p => !p.isEmpty := by simp [hempty]
        rw [tidy_append_cons hp hempty, hrest, hkept]
        by_cases hnone : others.filter (fun p => !p.isEmpty) = []
        · simp [hnone]
        · have hleft : [d].intercalate (others.filter fun p => !p.isEmpty) ≠ [] :=
            intercalate_ne_nil hnone fun q hq => by simpa using (List.mem_filter.1 hq).2
          rw [if_neg hleft, List.intercalate_cons_of_ne_nil hnone]
          simp

/-- Joining the parts that are not empty tidies a text. -/
theorem intercalate_filter_splitOn (d : Char) (l : List Char) :
    [d].intercalate ((l.splitOn d).filter fun p => !p.isEmpty) = tidy d l := by
  have h := tidy_intercalate (d := d) fun p (hp : p ∈ l.splitOn d) => not_mem_of_mem_splitOn hp
  rw [List.intercalate_splitOn] at h
  exact h.symm

/-- A joined text has the characters of the parts, and the separator if there are two of them. -/
theorem mem_intercalate_iff {d c : Char} {parts : List (List Char)} :
    c ∈ [d].intercalate parts ↔ c = d ∧ 2 ≤ parts.length ∨ ∃ p ∈ parts, c ∈ p := by
  induction parts with
  | nil => simp
  | cons p rest ih =>
    cases rest with
    | nil => simp
    | cons q rest =>
      rw [List.intercalate_cons_cons, List.mem_append, List.mem_append, ih, List.mem_singleton,
        List.exists_mem_cons_iff (c ∈ ·) p]
      have htwo : 2 ≤ (p :: q :: rest).length := by simp
      constructor
      · rintro ((hp | rfl) | ⟨rfl, -⟩ | hq)
        · exact .inr (.inl hp)
        · exact .inl ⟨rfl, htwo⟩
        · exact .inl ⟨rfl, htwo⟩
        · exact .inr (.inr hq)
      · rintro (⟨rfl, -⟩ | hp | hq)
        · exact .inl (.inr rfl)
        · exact .inl (.inl hp)
        · exact .inr (.inr hq)

end Splitting

/-! ## Ids -/

namespace SchemaId

/-- A segment is not empty, and has neither a delimiter nor an illegal symbol. -/
def IsSegment (part : String) : Prop :=
  part ≠ "" ∧ kinds part.toList = ∅ ∧ ¬HasIllegal part.toList

/-- Segments with a delimiter between them. -/
def join (d : Char) (parts : List String) : String :=
  (String.ofList [d]).intercalate parts

instance (id : List Char) : Decidable (HasIllegal id) :=
  decidable_of_iff _ any_illegalSymbols_iff

instance (part : String) : Decidable (IsSegment part) :=
  inferInstanceAs (Decidable (_ ∧ _ ∧ _))

variable {policy : Policy} {d : Char}

theorem toList_join (d : Char) (parts : List String) :
    (join d parts).toList = [d].intercalate (parts.map String.toList) := by
  rw [join, String.toList_intercalate, String.toList_ofList]

theorem normalize_self_iff {id : String} :
    normalize policy id = .ok id
      ↔ ¬HasIllegal id.toList ∧ ¬Mixed policy id.toList
        ∧ ¬(policy = .strict ∧ HasEmpty id.toList) := by
  rw [normalize_ok_iff, exists_check_eq_ok_iff, and_iff_left rfl]

/-- An accepted id with a delimiter has no other one. -/
theorem kinds_eq_of_mem {id : List Char} (h : ¬Mixed policy id) (hd : d ∈ kinds id) :
    kinds id = {d} := by
  refine Finset.eq_singleton_iff_unique_mem.2 ⟨hd, fun c hc => ?_⟩
  by_contra hne
  exact h (.inl (Finset.one_lt_card.2 ⟨c, hc, d, hd, hne⟩))

/-- An id with at most one kind of delimiter is split there. -/
theorem split_find? {id : List Char} (hd : d ∈ delimiters) (h : kinds id ⊆ {d}) :
    split (id.find? delimiters.contains) id = (id.splitOn d).filter fun p => !p.isEmpty := by
  cases hfind : id.find? delimiters.contains with
  | some e =>
    obtain rfl : e = d := Finset.mem_singleton.1 (h (mem_kinds_of_find? hfind))
    rfl
  | none =>
    have hnone := find?_delimiters_eq_none_iff.1 hfind
    have hmem : d ∉ id := fun hmem => by
      have : d ∈ kinds id := mem_kinds.2 ⟨hd, hmem⟩
      simp [hnone] at this
    rw [List.splitOn_eq_singleton hmem]
    cases id <;> simp [split]

/-- The segments of an accepted id with at most one kind of delimiter. -/
theorem segments_eq {id : String} (haccepted : normalize policy id = .ok id)
    (hd : d ∈ delimiters) (h : kinds id.toList ⊆ {d}) :
    segments policy id =
      .ok (((id.toList.splitOn d).filter fun p => !p.isEmpty).map String.ofList) := by
  obtain ⟨hill, hmixed, hempty⟩ := normalize_self_iff.1 haccepted
  rw [segments, check_eq, if_neg hill, if_neg hmixed, if_neg hempty]
  simp only [Except.map, split_find? hd h]

/-- What is left of a split id are segments. -/
theorem isSegment_of_mem {id : String} (hill : ¬HasIllegal id.toList)
    (hkinds : kinds id.toList ⊆ {d}) {part : List Char} (hpart : part ∈ id.toList.splitOn d)
    (hne : part ≠ []) : IsSegment (String.ofList part) := by
  have hsub : ∀ c ∈ part, c ∈ id.toList := by
    intro c hc
    have hjoined : [d].intercalate (id.toList.splitOn d) = id.toList := List.intercalate_splitOn d
    rw [← hjoined]
    exact Splitting.mem_intercalate_iff.2 (.inr ⟨part, hpart, hc⟩)
  rw [IsSegment, String.toList_ofList]
  refine ⟨fun h => hne ?_, ?_, ?_⟩
  · simpa using congrArg String.toList h
  · refine Finset.eq_empty_iff_forall_notMem.2 fun c hc => ?_
    obtain ⟨hdel, hmem⟩ := mem_kinds.1 hc
    obtain rfl : c = d :=
      Finset.mem_singleton.1 (hkinds (mem_kinds.2 ⟨hdel, hsub c hmem⟩))
    exact Splitting.not_mem_of_mem_splitOn hpart hmem
  · rintro ⟨c, hc, hsymbol⟩
    exact hill ⟨c, hsub c hc, hsymbol⟩

/-- Segments with a delimiter between them are split into themselves. -/
theorem splitOn_toList_join {parts : List String} (hne : parts ≠ [])
    (hparts : ∀ p ∈ parts, IsSegment p) (hd : d ∈ delimiters) :
    (join d parts).toList.splitOn d = parts.map String.toList := by
  rw [toList_join]
  refine List.splitOn_intercalate d ?_ (by simpa using hne)
  intro l hl hmem
  obtain ⟨p, hp, rfl⟩ := List.mem_map.1 hl
  have : d ∈ kinds p.toList := mem_kinds.2 ⟨hd, hmem⟩
  simp [(hparts p hp).2.1] at this

theorem kinds_join_subset {parts : List String} (hparts : ∀ p ∈ parts, IsSegment p) :
    kinds (join d parts).toList ⊆ {d} := by
  intro c hc
  obtain ⟨hdel, hmem⟩ := mem_kinds.1 hc
  rw [toList_join, Splitting.mem_intercalate_iff] at hmem
  obtain ⟨rfl, -⟩ | ⟨_, hl, hcl⟩ := hmem
  · exact Finset.mem_singleton_self c
  · obtain ⟨p, hp, rfl⟩ := List.mem_map.1 hl
    have : c ∈ kinds p.toList := mem_kinds.2 ⟨hdel, hcl⟩
    simp [(hparts p hp).2.1] at this

/-- A delimiter is no illegal symbol, so segments stay legal when they are joined. -/
theorem not_hasIllegal_join {parts : List String} (hparts : ∀ p ∈ parts, IsSegment p)
    (hd : d ∈ delimiters) : ¬HasIllegal (join d parts).toList := by
  rintro ⟨c, hc, hsymbol⟩
  rw [toList_join, Splitting.mem_intercalate_iff] at hc
  obtain ⟨rfl, -⟩ | ⟨_, hl, hcl⟩ := hc
  · have hother : ∀ c ∈ delimiters, c ∉ illegalSymbols := by
      simp [delimiters, illegalSymbols]
    exact hother _ hd hsymbol
  · obtain ⟨p, hp, rfl⟩ := List.mem_map.1 hl
    exact (hparts p hp).2.2 ⟨c, hcl, hsymbol⟩

/-- Segments with a delimiter between them are accepted. -/
theorem normalize_join {parts : List String} (hne : parts ≠ [])
    (hparts : ∀ p ∈ parts, IsSegment p) (hd : d ∈ delimiters)
    (hpolicy : policy = .legacy → d ≠ '_') :
    normalize policy (join d parts) = .ok (join d parts) := by
  have hkinds := kinds_join_subset (d := d) hparts
  refine normalize_self_iff.2 ⟨not_hasIllegal_join hparts hd, ?_, ?_⟩
  · rintro (htwo | ⟨hlegacy, hone⟩)
    · have := Finset.card_le_card hkinds
      simp at this
      omega
    · rw [hone, Finset.singleton_subset_singleton] at hkinds
      exact hpolicy hlegacy hkinds.symm
  · rintro ⟨-, hempty⟩
    obtain ⟨e, he, -⟩ := id hempty
    obtain rfl : e = d := by simpa [he] using hkinds
    rw [← any_isEmpty_splitOn_iff he, splitOn_toList_join hne hparts hd] at hempty
    obtain ⟨l, hl, hnil⟩ := List.any_eq_true.1 hempty
    obtain ⟨p, hp, rfl⟩ := List.mem_map.1 hl
    exact (hparts p hp).1 (by simpa using hnil)

theorem segments_join_eq {parts : List String} (hne : parts ≠ [])
    (hparts : ∀ p ∈ parts, IsSegment p) (hd : d ∈ delimiters)
    (hpolicy : policy = .legacy → d ≠ '_') :
    segments policy (join d parts) = .ok parts := by
  have hfull : (parts.map String.toList).filter (fun p => !p.isEmpty) =
      parts.map String.toList := by
    refine List.filter_eq_self.2 fun l hl => ?_
    obtain ⟨p, hp, rfl⟩ := List.mem_map.1 hl
    simpa using (hparts p hp).1
  rw [segments_eq (normalize_join hne hparts hd hpolicy) hd (kinds_join_subset hparts),
    splitOn_toList_join hne hparts hd, hfull, List.map_map]
  simp

/-- The segments of an accepted id with a delimiter, joined again. -/
theorem exists_segments_join {id : String} (haccepted : normalize policy id = .ok id)
    (hd : d ∈ kinds id.toList) :
    ∃ parts, segments policy id = .ok parts ∧ (∀ p ∈ parts, IsSegment p) ∧
      join d parts =
        if policy = .strict then id else String.ofList (Splitting.tidy d id.toList) := by
  obtain ⟨hill, hmixed, hempty⟩ := normalize_self_iff.1 haccepted
  have hkinds := kinds_eq_of_mem hmixed hd
  have hsub : kinds id.toList ⊆ {d} := hkinds.le
  refine ⟨_, segments_eq haccepted (mem_kinds.1 hd).1 hsub, ?_, ?_⟩
  · intro p hp
    obtain ⟨part, hpart, rfl⟩ := List.mem_map.1 hp
    obtain ⟨hmem, hne⟩ := List.mem_filter.1 hpart
    exact isSegment_of_mem hill hsub hmem (by simpa using hne)
  · have hjoin : (join d (((id.toList.splitOn d).filter fun p => !p.isEmpty).map
        String.ofList)).toList = Splitting.tidy d id.toList := by
      rw [toList_join, List.map_map, ← Splitting.intercalate_filter_splitOn]
      simp
    by_cases hstrict : policy = .strict
    · -- No part is empty, so nothing is filtered out and the parts make the id again.
      have hfull : (id.toList.splitOn d).filter (fun p => !p.isEmpty) = id.toList.splitOn d := by
        refine List.filter_eq_self.2 fun part hpart => ?_
        by_contra hnil
        refine hempty ⟨hstrict, (any_isEmpty_splitOn_iff hkinds).1 ?_⟩
        exact List.any_eq_true.2 ⟨part, hpart, by simpa using hnil⟩
      rw [if_pos hstrict, ← String.toList_inj, hjoin, ← Splitting.intercalate_filter_splitOn,
        hfull, List.intercalate_splitOn]
    · rw [if_neg hstrict, ← hjoin, String.ofList_toList]

/-- Splitting and joining ids. Segments joined with a delimiter make an accepted id that is split
into them, and the segments of an accepted id joined again make the id, or what is left of it when
delimiters with no segment on one side are dropped. -/
theorem segments_join (policy : Policy) (d : Char) :
    (∀ parts : List String, parts ≠ [] → (∀ p ∈ parts, IsSegment p) → d ∈ delimiters →
      (policy = .legacy → d ≠ '_') →
        normalize policy (join d parts) = .ok (join d parts) ∧
          segments policy (join d parts) = .ok parts) ∧
    ∀ id : String, normalize policy id = .ok id → d ∈ kinds id.toList →
      ∃ parts, segments policy id = .ok parts ∧ (∀ p ∈ parts, IsSegment p) ∧
        join d parts =
          if policy = .strict then id else String.ofList (Splitting.tidy d id.toList) :=
  ⟨fun _ hne hparts hd hpolicy =>
    ⟨normalize_join hne hparts hd hpolicy, segments_join_eq hne hparts hd hpolicy⟩,
   fun _ haccepted hd => exists_segments_join haccepted hd⟩

/-- The strict policy splits at `_`, and the legacy one drops dots around empty segments. -/
theorem segments_join_underscore_and_dots :
    (∀ p ∈ ["é", "b c", "1"], IsSegment p) ∧
    (normalize .strict (join '_' ["é", "b c", "1"]) = .ok (join '_' ["é", "b c", "1"]) ∧
      segments .strict (join '_' ["é", "b c", "1"]) = .ok ["é", "b c", "1"]) ∧
    normalize .legacy "..a...b c." = .ok "..a...b c." ∧ '.' ∈ kinds "..a...b c.".toList ∧
    ∃ parts, segments .legacy "..a...b c." = .ok parts ∧ (∀ p ∈ parts, IsSegment p) ∧
      join '.' parts =
        if Policy.legacy = .strict then "..a...b c."
        else String.ofList (Splitting.tidy '.' "..a...b c.".toList) := by
  have hparts : ∀ p ∈ ["é", "b c", "1"], IsSegment p := by decide
  have hdots : normalize .legacy "..a...b c." = .ok "..a...b c." := by decide
  have hmem : '.' ∈ kinds "..a...b c.".toList := by decide
  exact ⟨hparts,
    (segments_join .strict '_').1 _ (by decide) hparts (by decide) (by decide),
    hdots, hmem, (segments_join .legacy '.').2 _ hdots hmem⟩

/-- Runs of the delimiter become one, and none is left at the ends. -/
example : Splitting.tidy '.' "..a...b c.".toList = "a.b c".toList := by decide

end SchemaId

end SchemaRules
