/-!
# The parts of a split list

What stands between the separators of a list, in terms of the list alone.

* `of_mem_splitOnP`, `not_mem_of_mem_splitOn`: no part has a separator in it.
* `nil_mem_splitOn_iff`: a part is empty iff the separator comes first, last or twice in a row.
-/

namespace SchemaRules.Splitting

variable {α : Type} {a x : α} {l : List α}

/-- What stands in a part stands in the list and separates nothing. -/
theorem of_mem_splitOnP {p : α → Bool} {part : List α} (h : part ∈ l.splitOnP p) (hx : x ∈ part) :
    x ∈ l ∧ p x = false := by
  induction l generalizing part with
  | nil =>
    obtain rfl : part = [] := by simpa using h
    cases hx
  | cons y l ih =>
    obtain ⟨first, rest, hs⟩ := List.exists_cons_of_ne_nil (List.splitOnP_ne_nil p l)
    rw [List.splitOnP_cons_eq_if_modifyHead, hs] at h
    rw [hs] at ih
    split at h
    · rcases List.mem_cons.1 h with rfl | h
      · cases hx
      · exact (ih h hx).imp_left (List.mem_cons_of_mem y)
    · next hy =>
      rcases List.mem_cons.1 h with rfl | h
      · rcases List.mem_cons.1 hx with rfl | hx
        · exact ⟨List.mem_cons_self, by simpa using hy⟩
        · exact (ih List.mem_cons_self hx).imp_left (List.mem_cons_of_mem y)
      · exact (ih (List.mem_cons_of_mem _ h) hx).imp_left (List.mem_cons_of_mem y)

variable [DecidableEq α]

/-- A list is split at its head, or the head belongs to the first part of the rest. -/
theorem splitOn_cons (a x : α) (l : List α) :
    (x :: l).splitOn a
      = if x = a then [] :: l.splitOn a else (l.splitOn a).modifyHead (x :: ·) := by
  rw [List.splitOn_cons_eq_if_modifyHead]
  by_cases h : x = a <;> simp [h]

/-- A split has a first part. -/
theorem splitOn_eq_cons (a : α) (l : List α) : ∃ first rest, l.splitOn a = first :: rest :=
  List.exists_cons_of_ne_nil (List.splitOn_ne_nil a l)

theorem not_mem_of_mem_splitOn {part : List α} (h : part ∈ l.splitOn a) : a ∉ part := by
  intro ha
  have hsep := (of_mem_splitOnP h ha).2
  simp at hsep

/-- The first part is empty iff the list is, or begins with the separator. -/
theorem head?_splitOn_eq_nil_iff :
    (l.splitOn a).head? = some [] ↔ l = [] ∨ l.head? = some a := by
  cases l with
  | nil => simp
  | cons x l =>
    obtain ⟨first, rest, hs⟩ := splitOn_eq_cons a l
    rw [splitOn_cons, hs]
    by_cases hx : x = a <;> simp [hx]

/-- A part after the first one is empty iff the separator comes last or twice in a row. -/
theorem nil_mem_tail_splitOn_iff :
    [] ∈ (l.splitOn a).tail ↔ l.getLast? = some a ∨ [a, a] <:+: l := by
  induction l with
  | nil => simp
  | cons x l ih =>
    obtain ⟨first, rest, hs⟩ := splitOn_eq_cons a l
    have hfirst := head?_splitOn_eq_nil_iff (a := a) (l := l)
    rw [splitOn_cons, hs]
    rw [hs] at ih hfirst
    simp only [List.head?_cons, Option.some.injEq, List.tail_cons] at ih hfirst
    rw [List.infix_cons_iff]
    by_cases hx : x = a
    · subst hx
      rw [if_pos rfl, List.tail_cons, List.mem_cons, eq_comm (a := []), hfirst, ih]
      cases l with
      | nil => simp
      | cons y t =>
        have twice : [x, x] <+: x :: y :: t ↔ y = x := by simp [eq_comm]
        rw [twice, List.getLast?_cons_cons]
        simp only [List.head?_cons, Option.some.injEq, reduceCtorEq, false_or]
        exact or_left_comm
    · rw [if_neg hx, List.modifyHead_cons, List.tail_cons, ih]
      cases l <;> simp [hx, Ne.symm hx]

/-- A part is empty iff the list is, or the separator comes first, last or twice in a row. -/
theorem nil_mem_splitOn_iff :
    [] ∈ l.splitOn a ↔ l = [] ∨ l.head? = some a ∨ l.getLast? = some a ∨ [a, a] <:+: l := by
  rw [← or_assoc, ← head?_splitOn_eq_nil_iff, ← nil_mem_tail_splitOn_iff]
  obtain ⟨first, rest, hs⟩ := splitOn_eq_cons a l
  simp [hs, eq_comm]

end SchemaRules.Splitting
