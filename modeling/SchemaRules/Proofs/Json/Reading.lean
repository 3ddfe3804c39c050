import SchemaRules.Json.Typed
import SchemaRules.Proofs.Json.Spelling

/-!
# Reading strings and lists of values

A reader of values of one type reads a text wherever a value may stand: after blanks, and before
anything that ends a value. What is read of the parts of a list is then read of the list, and so
on outwards.

* `Reads`: a reader reads a text as a value.
* `stringWith_reads`: a string is read, if it passes the check.
* `itemsFrom_held`, `listOf_reads`: a list is read, however many items it holds.
* `listOf_reads_spelled`: so is what spells an array.
-/

namespace SchemaRules.Json

variable {α β : Type} {w r rest : List Char}

/-- A text before which a value has ended: none, or one that begins with a blank, a comma or a
closing bracket. -/
def Ends (rest : List Char) : Prop :=
  ∀ c ∈ rest.head?, isBlank c = true ∨ c = ',' ∨ c = ']' ∨ c = '\x7d'

theorem Ends.nil : Ends [] :=
  fun c h => by simp at h

theorem Ends.blank (hw : Blank w) : Ends w :=
  fun c hc => .inl (hw c (List.mem_of_mem_head? hc))

/-- Blanks before a comma or a closing bracket end a value. -/
theorem Ends.append (hw : Blank w) {c : Char} (hc : c = ',' ∨ c = ']' ∨ c = '\x7d') :
    Ends (w ++ c :: r) := by
  intro d hd
  cases w with
  | nil =>
    obtain rfl : c = d := by simpa using hd
    exact .inr hc
  | cons b w =>
    obtain rfl : b = d := by simpa using hd
    exact .inl (hw b List.mem_cons_self)

/-- A part is ended by what comes after it between the brackets. -/
theorem Held.ends {closing : Char} (hclosing : closing = ']' ∨ closing = '\x7d')
    {parts : List (List Char)} {text : List Char} (h : Held closing false parts text)
    (rest : List Char) : Ends (text ++ rest) := by
  cases h with
  | close hw =>
    rw [List.append_assoc]
    exact .append hw (.inr hclosing)
  | more hw hw' h =>
    rw [List.append_assoc]
    exact .append hw (.inl rfl)

/-- A reader reads a text as a value, wherever the value may stand. -/
structure Reads (reader : Reader α) (part : List Char) (a : α) : Prop where
  /-- The text begins as a value does. -/
  starts : ∃ c r, part = c :: r ∧ isBlank c = false ∧ c ≠ ']'
  yields : ∀ w rest, Blank w → Ends rest → Yields (reader (w ++ (part ++ rest))) a rest

namespace Reads

variable {reader : Reader α} {part : List Char} {a : α}

theorem map (f : α → β) (h : Reads reader part a) : Reads (reader.map f) part (f a) := by
  refine ⟨h.starts, fun w rest hw hrest => ?_⟩
  obtain ⟨short, hread⟩ := h.yields w rest hw hrest
  unfold Reader.map
  rw [hread]
  exact .of_ok rfl rfl

/-- A text that holds the value alone is read to its end. -/
theorem alone (h : Reads reader part a) : Yields (reader part) a [] := by
  have := h.yields [] [] .nil .nil
  rwa [List.nil_append, List.append_nil] at this

/-- A text that holds the value alone between blanks is read as the value. -/
theorem read {w' : List Char} {source : String} (h : Reads reader part a) (hw : Blank w)
    (hw' : Blank w') (hsource : source.toList = w ++ (part ++ w')) :
    read reader source = .ok a := by
  obtain ⟨_, hread⟩ := h.yields w w' hw (.blank hw')
  unfold Json.read
  generalize source.toList = s at hsource
  subst hsource
  simp only [whole, hread, skipBlank_blank hw']
  rfl

end Reads

/-! ## Strings -/

theorem stringWith_reads {wanted : String} {check : String → Except Reason α} {s : String} {a : α}
    (hcheck : check s = .ok a) {text : List Char} (h : Literal s text) :
    Reads (stringWith wanted check) text a := by
  obtain ⟨r, rfl, hread⟩ := text_literal h
  refine ⟨⟨_, _, rfl, by decide, by decide⟩, fun w rest hw _ => ?_⟩
  have hs := skipBlank_append hw (by decide : isBlank '"' = false) (r ++ rest)
  obtain ⟨_, hread⟩ := hread rest
  rw [List.cons_append]
  unfold stringWith
  split
  · next h => cases hs.symm.trans h
  · next c t h =>
    cases hs.symm.trans h
    rw [if_pos rfl, hread]
    simp only [checked, hcheck]
    exact .of_ok rfl rfl

theorem string_reads {s : String} {text : List Char} (h : Literal s text) :
    Reads string text s :=
  stringWith_reads rfl h

theorem string_reads_spelled {s : String} {text : List Char} (h : Spells (.string s) text) :
    Reads string text s :=
  string_reads (spells_string.1 h)

theorem character_reads {c : Char} {text : List Char} (h : Literal (String.ofList [c]) text) :
    Reads character text c :=
  stringWith_reads (by rw [String.toList_ofList]) h

theorem unit_reads : Reads unit ['n', 'u', 'l', 'l'] () := by
  refine ⟨⟨_, _, rfl, by decide, by decide⟩, fun w rest hw _ => ?_⟩
  have hs := skipBlank_append hw (by decide : isBlank 'n' = false) ('u' :: 'l' :: 'l' :: rest)
  obtain ⟨_, hword⟩ := word_yields ['u', 'l', 'l'] rest
  simp only [List.cons_append, List.nil_append] at hword ⊢
  unfold unit
  split
  · next h => cases hs.symm.trans h
  · next c r h =>
    cases hs.symm.trans h
    rw [if_pos rfl, hword]
    exact .of_ok rfl rfl

/-! ## Lists -/

/-- A list that holds no part more is closed. -/
theorem listTurn_close {first : Bool} {body : List Char} (h : Held ']' first [] body)
    (rest : List Char) : ∃ hr, listTurn first (body ++ rest) = .ok (.close rest hr) := by
  cases h with
  | @close _ w hw =>
    have hs := skipBlank_append hw (by decide : isBlank ']' = false) rest
    rw [List.append_assoc, List.cons_append, List.nil_append]
    unfold listTurn
    split
    · next h => cases hs.symm.trans h
    · next c t h =>
      cases hs.symm.trans h
      rw [if_pos rfl]
      exact ⟨length_lt_of_skipBlank h, rfl⟩

/-- The next part of a list is given as an item, with the blanks and the comma before it taken. -/
theorem listTurn_item {first : Bool} {part body : List Char} {parts : List (List Char)}
    (h : Held ']' first (part :: parts) body)
    (hpart : ∃ c r, part = c :: r ∧ isBlank c = false ∧ c ≠ ']') (rest : List Char) :
    ∃ more ht, Held ']' false parts more ∧
      listTurn first (body ++ rest) = .ok (.item (part ++ (more ++ rest)) ht) := by
  obtain ⟨c, r, rfl, hc, hne⟩ := hpart
  cases h with
  | @first w _ more _ hw hmore =>
    have hs := skipBlank_append hw hc (r ++ (more ++ rest))
    refine ⟨more, ?_⟩
    rw [List.append_assoc, List.append_assoc]
    unfold listTurn
    split
    · next h => cases hs.symm.trans h
    · next d t h =>
      cases hs.symm.trans h
      rw [if_neg hne, if_pos rfl]
      exact ⟨length_lt_of_skipBlank h, hmore, rfl⟩
  | @more w w' _ more _ hw hw' hmore =>
    have hs := skipBlank_append hw (by decide : isBlank ',' = false)
      (w' ++ c :: (r ++ (more ++ rest)))
    have hs' := skipBlank_append hw' hc (r ++ (more ++ rest))
    have hbody : w ++ ',' :: (w' ++ (c :: r ++ more)) ++ rest =
        w ++ ',' :: (w' ++ c :: (r ++ (more ++ rest))) := by simp
    refine ⟨more, ?_⟩
    rw [hbody]
    unfold listTurn
    split
    · next h => cases hs.symm.trans h
    · next d t h =>
      cases hs.symm.trans h
      rw [if_neg (by decide), if_neg Bool.false_ne_true, if_pos rfl]
      split
      · next k => cases hs'.symm.trans k
      · next k =>
        cases hs'.symm.trans k
        rw [if_neg hne]
        exact ⟨Nat.lt_trans (length_lt_of_skipBlank k) (length_lt_of_skipBlank h), hmore, rfl⟩

section

variable {bound : Nat} {item : Reader α}

theorem itemsFrom_close {acc : List α} {first : Bool} {s : List Char} {hr}
    (hturn : listTurn first s = .ok (.close r hr)) (h : s.length ≤ bound) :
    Yields (itemsFrom item acc first s h) acc.reverse r := by
  rw [itemsFrom]
  simp only [hturn]
  exact .of_ok rfl rfl

/-- One item more has been read. -/
theorem itemsFrom_item {acc as : List α} {a : α} {first : Bool} {s t u : List Char} {ht}
    (hturn : listTurn first s = .ok (.item t ht)) (hitem : Yields (item t) a u)
    (hmore : ∀ h : u.length ≤ bound, Yields (itemsFrom item (a :: acc) false u h) as rest)
    (h : s.length ≤ bound) : Yields (itemsFrom item acc first s h) as rest := by
  obtain ⟨short, hread⟩ := hitem
  rw [itemsFrom]
  simp only [hturn, hread]
  exact hmore _

/-- The parts of a list are read one by one, up to the closing bracket. -/
theorem itemsFrom_held {first : Bool} {parts : List (List Char)} {body : List Char} {as : List α}
    (hheld : Held ']' first parts body) (hread : List.Forall₂ (Reads item) parts as)
    (acc : List α) (rest : List Char) (h : (body ++ rest).length ≤ bound) :
    Yields (itemsFrom item acc first (body ++ rest) h) (acc.reverse ++ as) rest := by
  induction hread generalizing first body acc with
  | nil =>
    obtain ⟨_, hturn⟩ := listTurn_close hheld rest
    rw [List.append_nil]
    exact itemsFrom_close hturn h
  | @cons part a parts as hpart _ ih =>
    obtain ⟨more, _, hmore, hturn⟩ := listTurn_item hheld hpart.starts rest
    have hitem := hpart.yields [] (more ++ rest) .nil (hmore.ends (.inl rfl) rest)
    refine itemsFrom_item hturn hitem (fun h => ?_) h
    rw [List.append_cons, ← List.reverse_cons]
    exact ih hmore (a :: acc) h

end

/-- A list is read, if its items are. -/
theorem listOf_reads {wanted : String} {item : Reader α} {parts : List (List Char)}
    {body : List Char} {as : List α} (hheld : Held ']' true parts body)
    (hread : List.Forall₂ (Reads item) parts as) :
    Reads (listOf wanted item) ('[' :: body) as := by
  refine ⟨⟨_, _, rfl, by decide, by decide⟩, fun w rest hw _ => ?_⟩
  have hs := skipBlank_append hw (by decide : isBlank '[' = false) (body ++ rest)
  obtain ⟨short, hitems⟩ := itemsFrom_held hheld hread [] rest (Nat.le_refl _)
  unfold listOf
  split
  · next h => cases hs.symm.trans h
  · next c r h =>
    cases hs.symm.trans h
    rw [if_pos rfl, sequence, Loop.enter, hitems]
    exact .of_ok rfl rfl

/-- Items that stand for values are read from what spells the values, if each of them is. -/
theorem SpellsItems.reads {item : Reader α} {toValue : α → Value} {as : List α}
    (hitem : ∀ a ∈ as, ∀ text, Spells (toValue a) text → Reads item text a)
    {parts : List (List Char)} (h : SpellsItems (as.map toValue) parts) :
    List.Forall₂ (Reads item) parts as := by
  induction as generalizing parts with
  | nil =>
    rw [List.map_nil, SpellsItems] at h
    rw [h]
    exact .nil
  | cons a as ih =>
    rw [List.map_cons, SpellsItems] at h
    obtain ⟨text, more, htext, hmore, rfl⟩ := h
    refine .cons (hitem a List.mem_cons_self text htext) ?_
    exact ih (fun b hb => hitem b (List.mem_cons_of_mem a hb)) hmore

/-- An array whose items stand for values is read as the list of them, if each item is. -/
theorem listOf_reads_spelled {wanted : String} {item : Reader α} {toValue : α → Value}
    {as : List α} (hitem : ∀ a ∈ as, ∀ text, Spells (toValue a) text → Reads item text a)
    {text : List Char} (h : Spells (.array (as.map toValue)) text) :
    Reads (listOf wanted item) text as := by
  rw [Spells] at h
  obtain ⟨parts, body, hparts, hheld, rfl⟩ := h
  exact listOf_reads hheld (hparts.reads hitem)

end SchemaRules.Json
