import SchemaRules.Json.Document
import SchemaRules.Proofs.Json.Gathering
import SchemaRules.Proofs.Json.Integers
import SchemaRules.Proofs.Json.Results

/-!
# Reading documents again

What is read of a text whose numerals are integers is exact: its numbers are integers of 64 bits,
no object has a key twice, and no more is nested in it than the reader allows. An exact value is
read again from everything that spells it.

* `Value.Exact`: the values that are read of such texts.
* `value_keeps`: a reader of values gives one, and leaves such a text.
* `Value.Exact.reads`: an exact value is read from what spells it.
* `read_compact`: it is read from its compact text.
-/

namespace SchemaRules.Json

variable {α σ : Type} {depth bound : Nat}

/-- Integers for numbers, distinct keys in every object, and arrays and objects nested no deeper
than a limit. -/
inductive Value.Exact : Nat → Value → Prop where
  | scalar {depth : Nat} {a : Scalar} (h : a.Exact) : Exact depth (.scalar a)
  | array {depth : Nat} {items : List Value} (h : ∀ v ∈ items, Exact depth v) :
      Exact (depth + 1) (.array items)
  | object {depth : Nat} {entries : List (String × Value)} (hkeys : (Entries.keys entries).Nodup)
      (h : ∀ e ∈ entries, Exact depth e.2) : Exact (depth + 1) (.object entries)

/-! ## What is read of integers -/

/-- A reader takes a value with a property off every text whose numerals are integers, and leaves
such a text. -/
def Keeps (reader : Reader α) (P : α → Prop) : Prop :=
  ∀ s, HasIntegers s → Leaves (reader s) P

/-- A text whose numerals are integers goes on so between the brackets of a list. -/
theorem listTurn_hasIntegers {first : Bool} {s : List Char} (h : HasIntegers s)
    {turn : Turn s.length} (hturn : listTurn first s = .ok turn) :
    match turn with
    | .close rest _ => HasIntegers rest
    | .item rest _ => HasIntegers rest := by
  rw [← hasIntegers_skipBlank] at h
  unfold listTurn at hturn
  split at hturn
  · cases hturn
  · next c r hs =>
    rw [hs] at h
    dsimp only at hturn
    split at hturn
    · next hc =>
      cases hturn
      subst hc
      exact (hasIntegers_mark (by decide)).1 h
    split at hturn
    · cases hturn
      exact h
    split at hturn
    · next hc =>
      subst hc
      rw [hasIntegers_mark (by decide), ← hasIntegers_skipBlank] at h
      split at hturn
      · cases hturn
      · next d t ht =>
        rw [ht] at h
        split at hturn
        · cases hturn
        · cases hturn
          exact h
    · cases hturn

/-- The same between the brackets of an object. The quote that opens a key has been taken. -/
theorem objectTurn_hasIntegers {first : Bool} {s : List Char} (h : HasIntegers s)
    {turn : Turn s.length} (hturn : objectTurn first s = .ok turn) :
    match turn with
    | .close rest _ => HasIntegers rest
    | .item rest _ => HasIntegers ('"' :: rest) := by
  rw [← hasIntegers_skipBlank] at h
  unfold objectTurn at hturn
  split at hturn
  · cases hturn
  · next c r hs =>
    rw [hs] at h
    dsimp only at hturn
    split at hturn
    · next hc =>
      cases hturn
      subst hc
      exact (hasIntegers_mark (by decide)).1 h
    split at hturn
    · split at hturn
      · next hc =>
        cases hturn
        subst hc
        exact h
      · cases hturn
    split at hturn
    · next hc =>
      subst hc
      rw [hasIntegers_mark (by decide), ← hasIntegers_skipBlank] at h
      split at hturn
      · cases hturn
      · next d t ht =>
        rw [ht] at h
        split at hturn
        · next hd =>
          cases hturn
          subst hd
          exact h
        · split at hturn <;> cases hturn
    · cases hturn

theorem hasIntegers_text {r : List Char} (h : HasIntegers ('"' :: r)) {key : Step String r.length}
    (hkey : text r = .ok key) : HasIntegers key.rest := by
  rw [HasIntegers, numerals_quote, text_ensures r key hkey] at h
  exact h

theorem hasIntegers_colon {s : List Char} (h : HasIntegers s) {after : Step Unit s.length}
    (hafter : colon s = .ok after) : HasIntegers after.rest := by
  rw [← hasIntegers_skipBlank, colon_ensures s after hafter] at h
  exact (hasIntegers_mark (by decide)).1 h

theorem itemsFrom_leaves {P : α → Prop} {item : Reader α} (hitem : Keeps item P) {acc : List α}
    {first : Bool} {s : List Char} (h : s.length ≤ bound) (hs : HasIntegers s)
    (hacc : ∀ a ∈ acc, P a) : Leaves (itemsFrom item acc first s h) fun l => ∀ a ∈ l, P a := by
  fun_induction itemsFrom item acc first s h with
  | case1 => exact .error _
  | case2 acc first s h r hr hturn =>
    exact .ok ⟨by simpa using hacc, listTurn_hasIntegers hs hturn⟩
  | case3 => exact .error _
  | case4 acc first s h t ht hturn st hst ih =>
    obtain ⟨hvalue, hrest⟩ := hitem t (listTurn_hasIntegers hs hturn) st hst
    exact ih hrest (List.forall_mem_cons.2 ⟨hvalue, hacc⟩)

theorem membersFrom_leaves {P : σ → Prop} {member : σ → String → Reader σ}
    (hmember : ∀ state key, P state → Keeps (member state key) P) {state : σ} {first : Bool}
    {s : List Char} (h : s.length ≤ bound) (hs : HasIntegers s) (hstate : P state) :
    Leaves (membersFrom member state first s h) P := by
  fun_induction membersFrom member state first s h with
  | case1 => exact .error _
  | case2 state first s h r hr hturn => exact .ok ⟨hstate, objectTurn_hasIntegers hs hturn⟩
  | case3 => exact .error _
  | case4 => exact .error _
  | case5 state first s h t ht hturn key hkey st hst entry ih =>
    have hafter := hasIntegers_text (objectTurn_hasIntegers hs hturn) hkey
    obtain ⟨hnext, hrest⟩ := hmember state _ hstate _ hafter st hst
    exact ih hrest hnext

theorem entry_keeps {P : Value → Prop} {value : Reader Value} (hvalue : Keeps value P)
    {written : List (String × Value)} (hwritten : ∀ e ∈ written, P e.2) (key : String) :
    Keeps (valueWith.entry value written key) fun written => ∀ e ∈ written, P e.2 := by
  intro s hs
  unfold valueWith.entry
  split
  · exact .error _
  · next after hafter =>
    refine (hvalue after.rest (hasIntegers_colon hs hafter)).map fun st hst => ⟨?_, hst.2⟩
    exact List.forall_mem_cons.2 ⟨hst.1, hwritten⟩

/-- A value is as exact as what stands in it. -/
theorem valueWith_keeps {inner : Option (Reader Value)}
    (hinner : ∀ value ∈ inner, ∃ d, depth = d + 1 ∧ Keeps value (Value.Exact d)) :
    Keeps (valueWith inner) (Value.Exact depth) := by
  intro s hs
  rw [← hasIntegers_skipBlank] at hs
  unfold valueWith
  split
  · exact .error _
  · next c r h =>
    rw [h] at hs
    dsimp only
    split
    · next found hfound =>
      exact (scalar?_leaves hs hfound).map fun st hst => ⟨.scalar hst.1, hst.2⟩
    split
    · next hc =>
      subst hc
      rw [hasIntegers_mark (by decide)] at hs
      split
      · exact .error _
      · next value =>
        obtain ⟨d, rfl, hvalue⟩ := hinner value rfl
        have hitems : Leaves (sequence value r) fun items => ∀ v ∈ items, v.Exact d :=
          itemsFrom_leaves hvalue (Nat.le_refl _) hs (by simp)
        exact hitems.map fun st hst => ⟨.array hst.1, hst.2⟩
    split
    · next hc =>
      subst hc
      rw [hasIntegers_mark (by decide)] at hs
      split
      · exact .error _
      · next value =>
        obtain ⟨d, rfl, hvalue⟩ := hinner value rfl
        have hmembers : Leaves (members (valueWith.entry value) [] r) fun written =>
            ∀ e ∈ written, e.2.Exact d :=
          membersFrom_leaves (fun _ key h => entry_keeps hvalue h key) (Nat.le_refl _) hs (by simp)
        refine hmembers.map fun st hst => ⟨.object (Entries.nodup_keys_ofWritten _) ?_, hst.2⟩
        intro e he
        exact hst.1 e (List.mem_reverse.1 (Entries.mem_of_mem_ofWritten he))
    · exact .error _

/-- What is read of a text whose numerals are integers is exact. -/
theorem value_keeps (depth : Nat) : Keeps (value depth) (Value.Exact depth) := by
  induction depth with
  | zero => exact valueWith_keeps (by simp)
  | succ depth ih =>
    refine valueWith_keeps fun value hvalue => ⟨depth, rfl, ?_⟩
    obtain rfl : Json.value depth = value := by simpa using hvalue
    exact ih

/-! ## Reading what spells a value -/

theorem scalar?_of_isDigit {c : Char} (hc : c.isDigit = true) (r : List Char) :
    scalar? c r = some ((numeral false (c :: r)).map (·.map .number)) := by
  rw [scalar?, if_neg (ne_of_isDigit hc (by decide)), if_neg (ne_of_isDigit hc (by decide)),
    if_neg (ne_of_isDigit hc (by decide)), if_neg (ne_of_isDigit hc (by decide)), if_pos hc]

/-- A scalar is known by the first character of what spells it. -/
theorem scalar?_spelled {a : Scalar} (ha : a.Exact) {text : List Char} (h : SpellsScalar a text) :
    ∃ c tail, text = c :: tail ∧ isBlank c = false ∧ c ≠ ']' ∧ ∀ rest, Ends rest →
      ∃ found, scalar? c (tail ++ rest) = some found ∧ Yields found a rest := by
  cases a with
  | null =>
    subst h
    refine ⟨'n', ['u', 'l', 'l'], rfl, by decide, by decide, fun rest _ => ⟨_, rfl, ?_⟩⟩
    obtain ⟨_, hword⟩ := word_yields ['u', 'l', 'l'] rest
    rw [hword]
    exact .of_ok rfl rfl
  | bool b =>
    subst h
    cases b with
    | true =>
      refine ⟨'t', ['r', 'u', 'e'], rfl, by decide, by decide, fun rest _ => ⟨_, rfl, ?_⟩⟩
      obtain ⟨_, hword⟩ := word_yields ['r', 'u', 'e'] rest
      rw [hword]
      exact .of_ok rfl rfl
    | false =>
      refine ⟨'f', ['a', 'l', 's', 'e'], rfl, by decide, by decide, fun rest _ => ⟨_, rfl, ?_⟩⟩
      obtain ⟨_, hword⟩ := word_yields ['a', 'l', 's', 'e'] rest
      rw [hword]
      exact .of_ok rfl rfl
  | number x =>
    obtain ⟨k, hk, rfl⟩ := ha x rfl
    subst h
    by_cases hneg : k < 0
    · refine ⟨'-', _, intText_neg hneg, by decide, by decide, fun rest hrest => ⟨_, rfl, ?_⟩⟩
      have hread := numeral_natAbs hk hrest.endsNumeral
      rw [decide_eq_true hneg] at hread
      obtain ⟨_, hread⟩ := hread
      rw [hread]
      exact .of_ok rfl rfl
    · obtain ⟨c, ds, hds, hc, -⟩ := (isWhole_toDigits k.natAbs).exists_cons
      have hprint : (Scalar.number (.int k)).print = c :: ds := by
        rw [← hds, ← intText_nonneg (by omega)]
        rfl
      refine ⟨c, ds, hprint, isBlank_of_isDigit hc, ne_of_isDigit hc (by decide), ?_⟩
      intro rest hrest
      refine ⟨_, scalar?_of_isDigit hc _, ?_⟩
      have hread := numeral_natAbs hk hrest.endsNumeral
      rw [decide_eq_false hneg, hds, List.cons_append] at hread
      obtain ⟨_, hread⟩ := hread
      rw [hread]
      exact .of_ok rfl rfl
  | string s =>
    obtain ⟨r, rfl, hread⟩ := text_literal h
    refine ⟨'"', r, rfl, by decide, by decide, fun rest _ => ⟨_, rfl, ?_⟩⟩
    obtain ⟨_, hread⟩ := hread rest
    rw [hread]
    exact .of_ok rfl rfl

theorem valueWith_scalar {a : Scalar} (ha : a.Exact) {text : List Char} (h : SpellsScalar a text)
    (inner : Option (Reader Value)) : Reads (valueWith inner) text (.scalar a) := by
  obtain ⟨c, tail, rfl, hblank, hc, hread⟩ := scalar?_spelled ha h
  refine ⟨⟨c, tail, rfl, hblank, hc⟩, fun w rest hw hrest => ?_⟩
  obtain ⟨found, hfound, _, hyields⟩ := hread rest hrest
  have hs := skipBlank_append hw hblank (tail ++ rest)
  rw [List.cons_append]
  unfold valueWith
  split
  · next h => cases hs.symm.trans h
  · next d r h =>
    cases hs.symm.trans h
    simp only [hfound, hyields]
    exact .of_ok rfl rfl

section

variable {value : Reader Value} {parts : List (List Char)} {body : List Char}

theorem valueWith_array {items : List Value} (hheld : Held ']' true parts body)
    (hread : List.Forall₂ (Reads value) parts items) :
    Reads (valueWith (some value)) ('[' :: body) (.array items) := by
  refine ⟨⟨_, _, rfl, by decide, by decide⟩, fun w rest hw _ => ?_⟩
  have hs := skipBlank_append hw (by decide : isBlank '[' = false) (body ++ rest)
  obtain ⟨_, hitems⟩ := itemsFrom_held hheld hread [] rest (Nat.le_refl _)
  have hscalar : scalar? '[' (body ++ rest) = none := rfl
  unfold valueWith
  split
  · next h => cases hs.symm.trans h
  · next c r h =>
    cases hs.symm.trans h
    simp only [hscalar, if_true, sequence, Loop.enter, hitems]
    exact .of_ok rfl rfl

theorem valueWith_object {written : List (String × Value)} (hheld : Held '\x7d' true parts body)
    (hgather : Gathers (valueWith.entry value) [] parts written) :
    Reads (valueWith (some value)) ('\x7b' :: body)
      (.object (Entries.ofWritten written.reverse)) := by
  refine ⟨⟨_, _, rfl, by decide, by decide⟩, fun w rest hw _ => ?_⟩
  have hs := skipBlank_append hw (by decide : isBlank '\x7b' = false) (body ++ rest)
  obtain ⟨_, hmembers⟩ := membersFrom_held hheld hgather rest (Nat.le_refl _)
  have hscalar : scalar? '\x7b' (body ++ rest) = none := rfl
  unfold valueWith
  split
  · next h => cases hs.symm.trans h
  · next c r h =>
    cases hs.symm.trans h
    simp only [hscalar, if_neg (by decide : ¬('\x7b' : Char) = '['), if_true, members, Loop.enter,
      hmembers]
    exact .of_ok rfl rfl

/-- An entry is put before those that have been read. -/
theorem entry_feeds {key : String} {v : Value} {text part : List Char}
    (hpart : EntryPart key text part) (hread : Reads value text v)
    (written : List (String × Value)) :
    Feeds (valueWith.entry value) written part ((key, v) :: written) := by
  refine hpart.feeds fun s w rest hw hrest hcolon => ?_
  obtain ⟨_, hcolon⟩ := hcolon
  obtain ⟨_, hvalue⟩ := hread.yields w rest hw hrest
  simp only [valueWith.entry, hcolon, hvalue]
  exact .of_ok rfl rfl

theorem SpellsEntries.gathers {entries : List (String × Value)}
    (hread : ∀ e ∈ entries, ∀ text, Spells e.2 text → Reads value text e.2)
    (h : SpellsEntries entries parts) (written : List (String × Value)) :
    Gathers (valueWith.entry value) written parts (entries.reverse ++ written) := by
  induction entries generalizing parts written with
  | nil =>
    rw [SpellsEntries] at h
    rw [h]
    exact .nil
  | cons e entries ih =>
    rw [SpellsEntries] at h
    obtain ⟨text, part, more, htext, hpart, hmore, rfl⟩ := h
    rw [List.reverse_cons, List.append_assoc, List.singleton_append]
    refine .cons (entry_feeds hpart (hread e List.mem_cons_self text htext) written) ?_
    exact ih (fun e' he' => hread e' (List.mem_cons_of_mem e he')) hmore _

end

/-- An exact value is read from what spells it. -/
theorem Value.Exact.reads {v : Value} (h : v.Exact depth) {text : List Char}
    (htext : Spells v text) : Reads (value depth) text v := by
  induction h generalizing text with
  | scalar ha =>
    rw [Spells] at htext
    rw [value.eq_def]
    split <;> exact valueWith_scalar ha htext _
  | @array depth items _ ih =>
    rw [Spells] at htext
    obtain ⟨parts, body, hparts, hheld, rfl⟩ := htext
    rw [← List.map_id items] at hparts
    exact valueWith_array hheld (hparts.reads fun v hv text => ih v hv)
  | @object depth entries hkeys _ ih =>
    rw [Spells] at htext
    obtain ⟨parts, body, hparts, hheld, rfl⟩ := htext
    have hgather := hparts.gathers (fun e he text => ih e he) []
    have hobject := valueWith_object hheld hgather
    rwa [List.append_nil, List.reverse_reverse, Entries.ofWritten_of_nodup hkeys] at hobject

/-- An exact value is read from its compact text. -/
theorem read_compact {v : Value} (h : v.Exact maxDepth) : Value.read v.compact = .ok v := by
  have htext : v.compact.toList = v.print := String.toList_ofList
  exact (h.reads (spells_print v)).read .nil .nil (by simp [htext])

/-- A value that is read of a text whose numerals are integers is exact. -/
theorem exact_of_read {source : String} (h : HasIntegers source.toList) {v : Value}
    (hread : Value.read source = .ok v) : v.Exact maxDepth := by
  have hkeeps := value_keeps maxDepth source.toList h
  exact Carries.of_read (fun st hst => (hkeeps st hst).1) hread

end SchemaRules.Json
