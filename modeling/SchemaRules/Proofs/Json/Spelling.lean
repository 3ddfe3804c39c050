import SchemaRules.Proofs.Json.Quoting

/-!
# Spellings of a value

A value can be written in many ways, as blanks may stand between its parts and strings may have
escapes. `Spells` is the relation of a value to the texts that write its parts in order; the
compact and the pretty text are two of them.

* `Held`: the text between brackets, made of parts with commas and blanks between them.
* `Spells`: what writes a value, an array with its items and an object with its entries in order.
* `spells_print`, `spells_printPretty`: both printers spell the value.
-/

namespace SchemaRules.Json

/-- A text holds parts up to a closing bracket. Where `first` is true, no part stands before it;
else every part comes after a comma. -/
inductive Held (closing : Char) : (first : Bool) → List (List Char) → List Char → Prop where
  | close {first : Bool} {w : List Char} (hw : Blank w) : Held closing first [] (w ++ [closing])
  | first {w part text : List Char} {parts : List (List Char)} (hw : Blank w)
      (h : Held closing false parts text) :
      Held closing true (part :: parts) (w ++ (part ++ text))
  | more {w w' part text : List Char} {parts : List (List Char)} (hw : Blank w) (hw' : Blank w')
      (h : Held closing false parts text) :
      Held closing false (part :: parts) (w ++ ',' :: (w' ++ (part ++ text)))

/-- The part of an object that an entry is: its key and the text of its value, with a colon
between blanks. -/
def EntryPart (key : String) (text part : List Char) : Prop :=
  ∃ literal w w', Literal key literal ∧ Blank w ∧ Blank w' ∧
    part = literal ++ (w ++ ':' :: (w' ++ text))

/-- A text spells a scalar: a string in any way, every other one as it is printed. -/
def SpellsScalar : Scalar → List Char → Prop
  | .string s, text => Literal s text
  | a, text => text = a.print

mutual

/-- A text spells a value: a scalar, or an array or object with what spells its items or entries,
in order. -/
def Spells : Value → List Char → Prop
  | .scalar a, text => SpellsScalar a text
  | .array items, text =>
    ∃ parts body, SpellsItems items parts ∧ Held ']' true parts body ∧ text = '[' :: body
  | .object entries, text =>
    ∃ parts body, SpellsEntries entries parts ∧ Held '\x7d' true parts body ∧ text = '\x7b' :: body

/-- Parts spell items one by one. -/
def SpellsItems : List Value → List (List Char) → Prop
  | [], parts => parts = []
  | v :: items, parts => ∃ text more, Spells v text ∧ SpellsItems items more ∧ parts = text :: more

/-- Parts spell entries one by one. -/
def SpellsEntries : List (String × Value) → List (List Char) → Prop
  | [], parts => parts = []
  | (key, v) :: entries, parts =>
    ∃ text part more, Spells v text ∧ EntryPart key text part ∧ SpellsEntries entries more ∧
      parts = part :: more

end

theorem spells_string {s : String} {text : List Char} :
    Spells (.string s) text ↔ Literal s text := by
  rw [Value.string, Spells, SpellsScalar]

theorem spellsScalar_print (a : Scalar) : SpellsScalar a a.print := by
  cases a with
  | string s => exact literal_quote s
  | _ => rfl

theorem entryPart_quote (key : String) {w : List Char} (hw : Blank w) (text : List Char) :
    EntryPart key text (quote key ++ ':' :: (w ++ text)) :=
  ⟨_, [], w, literal_quote key, .nil, hw, rfl⟩

/-! ## Both printers spell the value -/

/-- Joined parts are the first one, and each other one after the separator. -/
theorem separated_cons (separator part : List Char) (parts : List (List Char)) :
    separated separator (part :: parts) = part ++ parts.flatMap (separator ++ ·) := by
  induction parts generalizing part with
  | nil => simp [separated]
  | cons next parts ih => simp [separated, ih]

/-- Parts that commas and blanks separate are held up to the bracket. -/
theorem held_separated {closing : Char} {w before after : List Char} (hw : Blank w)
    (hbefore : Blank before) (hafter : Blank after) (part : List Char)
    (parts : List (List Char)) :
    Held closing true (part :: parts)
      (before ++ (separated (',' :: w) (part :: parts) ++ (after ++ [closing]))) := by
  have rest : Held closing false parts (parts.flatMap (',' :: w ++ ·) ++ (after ++ [closing])) := by
    induction parts with
    | nil => exact .close hafter
    | cons next parts ih =>
      have h : Held closing false (next :: parts) ([] ++ ',' :: (w ++ (next ++ _))) :=
        .more .nil hw ih
      simpa using h
  rw [separated_cons, List.append_assoc]
  exact .first hbefore rest

theorem Blank.newline (depth : Nat) : Blank (newline depth) := by
  intro c hc
  simp only [Json.newline, List.mem_cons, List.mem_replicate] at hc
  rcases hc with rfl | ⟨-, rfl⟩ <;> decide

/-- Parts without blanks are held up to the bracket. -/
theorem held_compact (closing : Char) (parts : List (List Char)) :
    Held closing true parts (separated [','] parts ++ [closing]) := by
  cases parts with
  | nil => exact .close .nil
  | cons part parts => simpa using held_separated .nil .nil .nil part parts

/-- Parts on lines of their own are held up to the bracket. -/
theorem held_block (opening closing : Char) (depth : Nat) (parts : List (List Char)) :
    ∃ body, Held closing true parts body ∧ block opening closing depth parts = opening :: body := by
  cases parts with
  | nil => exact ⟨[closing], .close .nil, rfl⟩
  | cons part parts =>
    refine ⟨_, held_separated (.newline (depth + 1)) (.newline (depth + 1)) (.newline depth)
      part parts, ?_⟩
    simp [block]

mutual

theorem spells_print : (v : Value) → Spells v v.print
  | .scalar a => by
    rw [Spells, Value.print]
    exact spellsScalar_print a
  | .array items => by
    rw [Spells, Value.print]
    exact ⟨_, _, spellsItems_printItems items, held_compact ']' _, rfl⟩
  | .object entries => by
    rw [Spells, Value.print]
    exact ⟨_, _, spellsEntries_printEntries entries, held_compact '\x7d' _, rfl⟩

theorem spellsItems_printItems : (items : List Value) → SpellsItems items (printItems items)
  | [] => by simp [SpellsItems, printItems]
  | v :: items => by
    rw [SpellsItems, printItems]
    exact ⟨_, _, spells_print v, spellsItems_printItems items, rfl⟩

theorem spellsEntries_printEntries :
    (entries : List (String × Value)) → SpellsEntries entries (printEntries entries)
  | [] => by simp [SpellsEntries, printEntries]
  | (key, v) :: entries => by
    rw [SpellsEntries, printEntries]
    exact ⟨_, _, _, spells_print v, entryPart_quote key .nil _,
      spellsEntries_printEntries entries, rfl⟩

end

mutual

theorem spells_printPretty (depth : Nat) : (v : Value) → Spells v (v.printPretty depth)
  | .scalar a => by
    rw [Spells, Value.printPretty]
    exact spellsScalar_print a
  | .array items => by
    obtain ⟨body, hheld, htext⟩ := held_block '[' ']' depth (prettyItems (depth + 1) items)
    rw [Spells, Value.printPretty]
    exact ⟨_, body, spellsItems_prettyItems (depth + 1) items, hheld, htext⟩
  | .object entries => by
    obtain ⟨body, hheld, htext⟩ :=
      held_block '\x7b' '\x7d' depth (prettyEntries (depth + 1) entries)
    rw [Spells, Value.printPretty]
    exact ⟨_, body, spellsEntries_prettyEntries (depth + 1) entries, hheld, htext⟩

theorem spellsItems_prettyItems (depth : Nat) :
    (items : List Value) → SpellsItems items (prettyItems depth items)
  | [] => by simp [SpellsItems, prettyItems]
  | v :: items => by
    rw [SpellsItems, prettyItems]
    exact ⟨_, _, spells_printPretty depth v, spellsItems_prettyItems depth items, rfl⟩

theorem spellsEntries_prettyEntries (depth : Nat) :
    (entries : List (String × Value)) → SpellsEntries entries (prettyEntries depth entries)
  | [] => by simp [SpellsEntries, prettyEntries]
  | (key, v) :: entries => by
    have blank : Blank [' '] := by decide
    rw [SpellsEntries, prettyEntries]
    exact ⟨_, _, _, spells_printPretty depth v, entryPart_quote key blank _,
      spellsEntries_prettyEntries depth entries, rfl⟩

end

end SchemaRules.Json
