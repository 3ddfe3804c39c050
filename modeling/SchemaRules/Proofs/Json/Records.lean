import SchemaRules.Proofs.Json.Gathering
import SchemaRules.Proofs.Json.Skipping

/-!
# Ways to write a record

A record may be written as an object, with its fields in any order among entries that nobody asks
for, or as a list, with its fields in their own order. Either way what is empty may be left out,
which in a list can only be said of the last fields. All of these are read as one draft.

* `Column`: what a document has for one field of a record.
* `WritesRecord`: the texts of a record, as an object or as a list.
* `Layout.Takes`: the slots of a layout read the columns, in whatever order they come.
* `record_reads_written`: a record is read from every text that writes it.
-/

namespace SchemaRules

/-! ## What may have been read -/

theorem isSome_ite {α : Type} (p : Prop) [Decidable p] (a : α) :
    (if p then some a else none).isSome = decide p := by
  split <;> simp [*]

theorem getD_ite {α : Type} {p : Prop} [Decidable p] {a default : α} (h : p ∨ a = default) :
    (if p then some a else none).getD default = a := by
  split
  · rfl
  · next hp => exact (h.resolve_left hp).symm

theorem getD_ite_getD {α : Type} {p : Prop} [Decidable p] {a? : Option α} {default : α}
    (h : p ∨ a? = none) :
    (if p then some (a?.getD default) else none).getD default = a?.getD default :=
  getD_ite (h.imp_right fun hnone => by rw [hnone, Option.getD_none])

namespace Json

/-! ## Columns -/

/-- One field of a record in a document. -/
structure Column where
  key : String
  /-- The field may be left out. -/
  omissible : Prop
  /-- The texts that write the value of the field. -/
  texts : List Char → Prop

/-- A field that is left out if there is no value for it. -/
def Column.optional {α : Type} (key : String) (a? : Option α) (item : α → List Char → Prop) :
    Column where
  key := key
  omissible := a? = none
  texts text := ∃ a ∈ a?, item a text

/-- The keys that name a field, in their order. -/
def knownKeys (columns : List Column) (entries : List (String × List Char)) : List String :=
  (Entries.keys entries).filter fun key => key ∈ columns.map (·.key)

/-- Keys with the texts of their values give the fields of a record, in any order. -/
structure GivesFields (columns : List Column) (entries : List (String × List Char)) : Prop where
  /-- No field comes twice. -/
  once : (knownKeys columns entries).Nodup
  /-- The value of a field is written as such. -/
  known : ∀ e ∈ entries, ∀ column ∈ columns, column.key = e.1 → column.texts e.2
  /-- Any other key may come, also again, with any value. -/
  unknown : ∀ e ∈ entries, e.1 ∉ columns.map (·.key) → IsValue e.2
  /-- A field that does not come may be left out. -/
  complete : ∀ column ∈ columns, column.key ∈ Entries.keys entries ∨ column.omissible

/-- Texts write the first fields of a record in their order, and the others may be left out. -/
inductive GivesItems : List Column → List (List Char) → Prop where
  | nil {columns : List Column} (h : ∀ column ∈ columns, column.omissible) : GivesItems columns []
  | cons {column : Column} {columns : List Column} {text : List Char} {items : List (List Char)}
      (htext : column.texts text) (h : GivesItems columns items) :
      GivesItems (column :: columns) (text :: items)

theorem GivesItems.complete {columns : List Column} {items : List (List Char)}
    (h : GivesItems columns items) : ∀ column ∈ columns,
      column.key ∈ (columns.take items.length).map (·.key) ∨ column.omissible := by
  induction h with
  | nil h => exact fun column hcolumn => .inr (h column hcolumn)
  | cons _ _ ih =>
    rw [List.length_cons, List.take_succ_cons, List.map_cons, List.forall_mem_cons]
    exact ⟨.inl List.mem_cons_self, fun column hcolumn =>
      (ih column hcolumn).imp_left (List.mem_cons_of_mem _)⟩

/-- A text writes a record, as an object or as a list. -/
inductive WritesRecord (columns : List Column) : List Char → Prop where
  | object {entries : List (String × List Char)} {parts : List (List Char)} {body : List Char}
      (hgives : GivesFields columns entries)
      (hparts : List.Forall₂ (fun e part => EntryPart e.1 e.2 part) entries parts)
      (hheld : Held '\x7d' true parts body) : WritesRecord columns ('\x7b' :: body)
  | list {items : List (List Char)} {body : List Char} (hgives : GivesItems columns items)
      (hheld : Held ']' true items body) : WritesRecord columns ('[' :: body)

/-- A text writes a list if its items write the members one by one. -/
def WritesList {α : Type} (item : α → List Char → Prop) (as : List α) (text : List Char) : Prop :=
  ∃ items body, List.Forall₂ item as items ∧ Held ']' true items body ∧ text = '[' :: body

theorem listOf_reads_written {α β : Type} {wanted : String} {reader : Reader β}
    {item : α → List Char → Prop} {f : α → β}
    (hitem : ∀ a text, item a text → Reads reader text (f a)) {as : List α} {text : List Char}
    (h : WritesList item as text) : Reads (listOf wanted reader) text (as.map f) := by
  obtain ⟨items, body, hitems, hheld, rfl⟩ := h
  refine listOf_reads hheld ?_
  rw [List.forall₂_map_right_iff]
  exact hitems.flip.imp fun text a htext => hitem a text htext

/-! ## Drafts -/

/-- A slot reads a column into drafts that are told by the keys of the fields they have. -/
structure Slot.Takes {ρ : Type} (draft : List String → ρ) (slot : Slot ρ) (column : Column) :
    Prop where
  key : slot.key = column.key
  optional : column.omissible → slot.required = false
  filled : ∀ seen, slot.filled (draft seen) = decide (column.key ∈ seen)
  fill : ∀ seen, column.key ∉ seen → ∀ text, column.texts text →
    Reads (slot.fill (draft seen)) text (draft (column.key :: seen))

/-- A slot that puts what it reads into the draft. -/
theorem Slot.Takes.of_reads {ρ α : Type} {draft : List String → ρ} {key : String}
    {required : Bool} {filled : ρ → Bool} {reader : Reader α} {set : ρ → α → ρ} {omissible : Prop}
    {texts : List Char → Prop} {a : α} (hoptional : omissible → required = false)
    (hfilled : ∀ seen, filled (draft seen) = decide (key ∈ seen))
    (hread : ∀ text, texts text → Reads reader text a)
    (hset : ∀ seen, set (draft seen) a = draft (key :: seen)) :
    Slot.Takes draft ⟨key, required, filled, fun d => reader.map (set d)⟩
      ⟨key, omissible, texts⟩ where
  key := rfl
  optional := hoptional
  filled := hfilled
  fill seen _ text htext := by
    rw [← hset]
    exact (hread text htext).map (set (draft seen))

/-- A slot that puts what it reads into the draft, where a default stands for what is left out. -/
theorem Slot.Takes.of_reads_optional {ρ α : Type} {draft : List String → ρ} {key : String}
    {filled : ρ → Bool} {reader : Reader α} {set : ρ → α → ρ} {item : α → List Char → Prop}
    {a? : Option α} (default : α) (hfilled : ∀ seen, filled (draft seen) = decide (key ∈ seen))
    (hread : ∀ a text, item a text → Reads reader text a)
    (hset : ∀ seen, set (draft seen) (a?.getD default) = draft (key :: seen)) :
    Slot.Takes draft ⟨key, false, filled, fun d => reader.map (set d)⟩
      (.optional key a? item) := by
  refine .of_reads (fun _ => rfl) hfilled ?_ hset
  rintro text ⟨a, ha, htext⟩
  rw [Option.mem_def.1 ha, Option.getD_some]
  exact hread a text htext

/-- The slots of a layout read columns one by one. -/
structure Layout.Takes {ρ : Type} (l : Layout ρ) (columns : List Column)
    (draft : List String → ρ) : Prop where
  blank : draft [] = l.blank
  slots : List.Forall₂ (Slot.Takes draft) l.slots columns

namespace Layout

variable {ρ : Type} {l : Layout ρ} {columns : List Column} {draft : List String → ρ}
  {slots : List (Slot ρ)} {seen : List String}

/-- The slot of a key reads a column of the key. -/
theorem exists_takes (h : List.Forall₂ (Slot.Takes draft) slots columns) {key : String}
    {slot : Slot ρ} (hslot : slots.find? (·.key = key) = some slot) :
    ∃ column ∈ columns, column.key = key ∧ slot.Takes draft column := by
  induction h with
  | nil => cases hslot
  | @cons other column slots columns hother _ ih =>
    rw [List.find?_cons] at hslot
    split at hslot
    · next hkey =>
      cases hslot
      exact ⟨column, List.mem_cons_self, by simpa [hother.key] using hkey, hother⟩
    · obtain ⟨column, hcolumn, hrest⟩ := ih hslot
      exact ⟨column, List.mem_cons_of_mem _ hcolumn, hrest⟩

theorem keys_eq (h : List.Forall₂ (Slot.Takes draft) slots columns) :
    slots.map (·.key) = columns.map (·.key) := by
  induction h with
  | nil => rfl
  | cons hslot _ ih => rw [List.map_cons, List.map_cons, hslot.key, ih]

theorem find?_eq_none (h : List.Forall₂ (Slot.Takes draft) slots columns) {key : String} :
    slots.find? (·.key = key) = none ↔ key ∉ columns.map (·.key) := by
  rw [← keys_eq h]
  simp

/-! ### Objects -/

/-- An entry that nobody asks for leaves the draft as it is. -/
theorem feeds_unknown {state : ρ} {key : String} {text part : List Char}
    (hslot : l.slots.find? (·.key = key) = none) (hpart : EntryPart key text part)
    (hvalue : IsValue text) : Feeds l.member state part state := by
  refine hpart.feeds fun s w rest hw hrest hcolon => ?_
  obtain ⟨_, hcolon⟩ := hcolon
  obtain ⟨_, hskip⟩ := skip_yields hvalue hw hrest
  simp only [member, hslot, hcolon, hskip]
  exact .of_ok rfl rfl

/-- Entries lead to the draft that has their fields, whatever their order. -/
theorem gathers_given (h : l.Takes columns draft) {entries : List (String × List Char)}
    {parts : List (List Char)} (hknown : ∀ e ∈ entries, ∀ column ∈ columns,
      column.key = e.1 → column.texts e.2)
    (hunknown : ∀ e ∈ entries, e.1 ∉ columns.map (·.key) → IsValue e.2)
    (hparts : List.Forall₂ (fun e part => EntryPart e.1 e.2 part) entries parts)
    (hnew : (knownKeys columns entries ++ seen).Nodup) :
    Gathers l.member (draft seen) parts
      (draft ((knownKeys columns entries).reverse ++ seen)) := by
  -- By induction on the entries, whatever fields have been seen; an unknown key adds none to them.
  induction hparts generalizing seen with
  | nil => exact .nil
  | @cons e part entries parts hpart _ ih =>
    have hmore : ∀ seen, (knownKeys columns entries ++ seen).Nodup → Gathers l.member (draft seen)
        parts (draft ((knownKeys columns entries).reverse ++ seen)) := fun seen =>
      ih (fun other hother => hknown other (List.mem_cons_of_mem e hother))
        (fun other hother => hunknown other (List.mem_cons_of_mem e hother))
    by_cases hkey : e.1 ∈ columns.map (·.key)
    · have hkeys : knownKeys columns (e :: entries) = e.1 :: knownKeys columns entries := by
        rw [knownKeys, Entries.keys_cons, List.filter_cons_of_pos (by simpa using hkey)]
        rfl
      rw [hkeys] at hnew ⊢
      obtain ⟨slot, hslot⟩ : ∃ slot, l.slots.find? (·.key = e.1) = some slot := by
        rw [← Option.ne_none_iff_exists', ne_eq, find?_eq_none h.slots, not_not]
        exact hkey
      obtain ⟨column, hcolumn, hname, htakes⟩ := exists_takes h.slots hslot
      have hfresh : e.1 ∉ seen := fun hmem =>
        (List.nodup_cons.1 hnew).1 (List.mem_append_right _ hmem)
      have hfilled : slot.filled (draft seen) = false := by
        rw [htakes.filled, hname]
        exact decide_eq_false hfresh
      have hread := htakes.fill seen (hname ▸ hfresh) e.2
        (hknown e List.mem_cons_self column hcolumn hname)
      rw [hname] at hread
      have hrest : (knownKeys columns entries ++ e.1 :: seen).Nodup :=
        List.perm_middle.nodup_iff.2 hnew
      rw [List.reverse_cons, List.append_assoc, List.singleton_append]
      exact .cons (l.feeds hslot hfilled hpart hread) (hmore _ hrest)
    · have hkeys : knownKeys columns (e :: entries) = knownKeys columns entries := by
        rw [knownKeys, Entries.keys_cons, List.filter_cons_of_neg (by simpa using hkey)]
        rfl
      rw [hkeys] at hnew ⊢
      exact .cons (feeds_unknown ((find?_eq_none h.slots).2 hkey) hpart
        (hunknown e List.mem_cons_self hkey)) (hmore seen hnew)

/-- Nothing is missing from a draft that lacks only what may be left out. -/
theorem missing?_eq_none (h : l.Takes columns draft)
    (hseen : ∀ column ∈ columns, column.key ∈ seen ∨ column.omissible) :
    l.missing? (draft seen) = none := by
  rw [missing?, Option.map_eq_none_iff, List.find?_eq_none]
  obtain ⟨-, hslots⟩ := h
  generalize l.slots = slots at hslots
  induction hslots with
  | nil => simp
  | @cons slot column slots columns hslot _ ih =>
    rw [List.forall_mem_cons] at hseen ⊢
    refine ⟨?_, ih hseen.2⟩
    rcases hseen.1 with hkey | homissible
    · simp [hslot.filled, hkey]
    · simp [hslot.optional homissible]

theorem object_reads_written (h : l.Takes columns draft) {entries : List (String × List Char)}
    {parts : List (List Char)} {body : List Char} (hgives : GivesFields columns entries)
    (hparts : List.Forall₂ (fun e part => EntryPart e.1 e.2 part) entries parts)
    (hheld : Held '\x7d' true parts body) :
    ∃ seen, (∀ column ∈ columns, column.key ∈ seen ∨ column.omissible) ∧
      Reads (record l) ('\x7b' :: body) (draft seen) := by
  have hnew : (knownKeys columns entries ++ []).Nodup := by
    rw [List.append_nil]
    exact hgives.once
  have hgather := gathers_given h hgives.known hgives.unknown hparts hnew
  rw [h.blank, List.append_nil] at hgather
  have hseen : ∀ column ∈ columns,
      column.key ∈ (knownKeys columns entries).reverse ∨ column.omissible := by
    intro column hcolumn
    refine (hgives.complete column hcolumn).imp_left fun hkey => ?_
    have hname : column.key ∈ columns.map (·.key) := List.mem_map_of_mem hcolumn
    rw [List.mem_reverse, knownKeys, List.mem_filter]
    exact ⟨hkey, by simpa using hname⟩
  exact ⟨_, hseen, record_reads hheld hgather (missing?_eq_none h hseen)⟩

/-! ### Lists -/

theorem listEnd_yields {bound : Nat} {state : ρ} {first : Bool} {body : List Char}
    (hheld : Held ']' first [] body) (rest : List Char) (h : (body ++ rest).length ≤ bound) :
    Yields (listEnd state (body ++ rest) h) state rest := by
  cases hheld with
  | @close _ w hw =>
    have hs : skipBlank (w ++ [']'] ++ rest) = ']' :: rest := by
      rw [List.append_assoc]
      exact skipBlank_append hw (by decide) rest
    unfold listEnd
    split
    · next h => cases hs.symm.trans h
    · next c r h =>
      cases hs.symm.trans h
      rw [if_pos rfl]
      exact .of_ok rfl rfl

theorem required_eq_false (h : List.Forall₂ (Slot.Takes draft) slots columns)
    (homissible : ∀ column ∈ columns, column.omissible) : ∀ slot ∈ slots, slot.required = false := by
  induction h with
  | nil => simp
  | cons hslot _ ih =>
    rw [List.forall_mem_cons] at homissible ⊢
    exact ⟨hslot.optional homissible.1, ih homissible.2⟩

/-- Items lead to the draft that has their fields. -/
theorem fields_yields (hslots : List.Forall₂ (Slot.Takes draft) slots columns)
    {items : List (List Char)} (hgives : GivesItems columns items)
    (hnew : (columns.map (·.key) ++ seen).Nodup) {index : Nat} {body : List Char}
    (hheld : Held ']' (index == 0) items body) {bound : Nat} (rest : List Char)
    (h : (body ++ rest).length ≤ bound) :
    Yields (l.fields slots index (draft seen) (body ++ rest) h)
      (draft (((columns.take items.length).map (·.key)).reverse ++ seen)) rest := by
  induction hslots generalizing items seen index body with
  | nil =>
    cases hgives with
    | nil => exact listEnd_yields hheld rest h
  | @cons slot column slots columns hslot hslots ih =>
    cases hgives with
    | nil homissible =>
      obtain ⟨_, hturn⟩ := listTurn_close hheld rest
      have hrequired : (slot :: slots).findIdx? (·.required) = none :=
        List.findIdx?_eq_none_iff.2 (required_eq_false (.cons hslot hslots) homissible)
      -- `fields` holds proofs of its bounds, so it is opened by evaluation and not by its equations.
      conv => enter [1]; whnf
      split
      · next he => cases hturn.symm.trans he
      · next he =>
        cases hturn.symm.trans he
        split
        · next hi => cases hrequired.symm.trans hi
        · exact .of_ok rfl rfl
      · next he => cases hturn.symm.trans he
    | @cons _ _ text items htext hgives =>
      have hfresh : column.key ∉ seen := fun hkey =>
        (List.nodup_cons.1 hnew).1 (List.mem_append_right _ hkey)
      have hread := hslot.fill seen hfresh text htext
      obtain ⟨more, _, hmore, hturn⟩ := listTurn_item hheld hread.starts rest
      have hfill : Yields (slot.fill (draft seen) (text ++ (more ++ rest))) _ (more ++ rest) :=
        hread.yields [] _ .nil (hmore.ends (.inl rfl) rest)
      obtain ⟨_, hfill⟩ := hfill
      have hrest : (columns.map (·.key) ++ column.key :: seen).Nodup :=
        List.perm_middle.nodup_iff.2 hnew
      have hlater : Held ']' (index + 1 == 0) items more := hmore
      rw [List.length_cons, List.take_succ_cons, List.map_cons, List.reverse_cons,
        List.append_assoc, List.singleton_append]
      conv => enter [1]; whnf
      split
      · next he => cases hturn.symm.trans he
      · next he => cases hturn.symm.trans he
      · next he =>
        cases hturn.symm.trans he
        split
        · next hfailed => cases hfill.symm.trans hfailed
        · next hread =>
          cases hfill.symm.trans hread
          exact ih hgives hrest hlater _

theorem list_reads_written (h : l.Takes columns draft) (hkeys : (columns.map (·.key)).Nodup)
    {items : List (List Char)} {body : List Char} (hgives : GivesItems columns items)
    (hheld : Held ']' true items body) :
    ∃ seen, (∀ column ∈ columns, column.key ∈ seen ∨ column.omissible) ∧
      Reads (record l) ('[' :: body) (draft seen) := by
  refine ⟨((columns.take items.length).map (·.key)).reverse, ?_, ⟨_, _, rfl, by decide, by decide⟩,
    fun w rest hw _ => ?_⟩
  · intro column hcolumn
    exact (hgives.complete column hcolumn).imp_left List.mem_reverse.2
  · have hs := skipBlank_append hw (by decide : isBlank '[' = false) (body ++ rest)
    have hnew : (columns.map Column.key ++ []).Nodup := by
      rw [List.append_nil]
      exact hkeys
    have hlist : Yields (l.fields l.slots 0 (draft []) (body ++ rest) (Nat.le_refl _)) _ rest :=
      fields_yields h.slots hgives hnew (show Held ']' (0 == 0) items body from hheld) rest _
    rw [h.blank, List.append_nil] at hlist
    obtain ⟨_, hlist⟩ := hlist
    unfold record
    split
    · next h => cases hs.symm.trans h
    · next c r h =>
      cases hs.symm.trans h
      rw [if_neg (by decide), if_pos rfl, list, Loop.enter, hlist]
      exact .of_ok rfl rfl

end Layout

/-- A record is read from every text that writes it, as a draft that lacks only what may be left
out. -/
theorem record_reads_written {ρ : Type} {l : Layout ρ} {columns : List Column}
    {draft : List String → ρ} (h : l.Takes columns draft) (hkeys : (columns.map (·.key)).Nodup)
    {text : List Char} (htext : WritesRecord columns text) :
    ∃ seen, (∀ column ∈ columns, column.key ∈ seen ∨ column.omissible) ∧
      Reads (record l) text (draft seen) := by
  cases htext with
  | object hgives hparts hheld => exact Layout.object_reads_written h hgives hparts hheld
  | list hgives hheld => exact Layout.list_reads_written h hkeys hgives hheld

end Json

end SchemaRules
