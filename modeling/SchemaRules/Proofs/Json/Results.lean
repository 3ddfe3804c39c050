import SchemaRules.Json.Document
import SchemaRules.Json.Typed

/-!
# What readers give

A property of everything that a reader gives, whatever text it is used on: it holds of a list if
it holds of its items, and of a record if every field that is read keeps it.

* `Carries`: a property of a result, if it is one. `Gives`: of all results of a reader.
* `listOf_gives`: the items of a list.
* `record_gives`: an invariant of a record's draft.
* `value_gives`: the values of documents, by their shapes.
* `Carries.of_read`: what a text is read as.
-/

namespace SchemaRules.Json

variable {α β ρ σ : Type} {n k bound : Nat}

/-- A property of the value that was read, if one was. -/
def Carries (result : Except Failure (Step α n)) (P : α → Prop) : Prop :=
  ∀ st, result = .ok st → P st.value

/-- A property of all values that a reader gives. -/
def Gives (reader : Reader α) (P : α → Prop) : Prop :=
  ∀ s, Carries (reader s) P

section

variable {P : α → Prop} {Q : β → Prop} {result : Except Failure (Step α n)}

theorem Carries.error (e : Failure) : Carries (.error e : Except Failure (Step α n)) P := by
  intro st h
  cases h

theorem Carries.ok {st : Step α n} (h : P st.value) : Carries (.ok st) P := by
  intro st' h'
  cases h'
  exact h

theorem Carries.map {f : Step α n → Step β k} (h : Carries result P)
    (hf : ∀ st, P st.value → Q (f st).value) : Carries (result.map f) Q := by
  cases result with
  | error e => exact .error e
  | ok st => exact .ok (hf st (h st rfl))

theorem Gives.map {reader : Reader α} (f : α → β) (h : Gives reader fun a => Q (f a)) :
    Gives (reader.map f) Q :=
  fun s => (h s).map fun _ hst => hst

theorem Gives.of_forall {reader : Reader α} (h : ∀ a, P a) : Gives reader P :=
  fun _ st _ => h st.value

/-- A value of another type is never taken. -/
theorem mismatch_carries (wanted : String) (c : Char) (r : List Char) :
    Carries (mismatch wanted c r : Except Failure (Step α n)) P := by
  unfold mismatch
  split
  · exact .error _
  · exact .error _
  · split
    · exact .error _
    · split <;> exact .error _

/-! ## Lists -/

theorem itemsFrom_carries {item : Reader α} (hitem : Gives item P) {acc : List α} {first : Bool}
    {s : List Char} (h : s.length ≤ bound) (hacc : ∀ a ∈ acc, P a) :
    Carries (itemsFrom item acc first s h) fun l => ∀ a ∈ l, P a := by
  fun_induction itemsFrom item acc first s h with
  | case1 => exact .error _
  | case2 => exact .ok (by simpa using hacc)
  | case3 => exact .error _
  | case4 acc first s h t ht hturn st hst ih =>
    refine ih ?_
    intro a ha
    rcases List.mem_cons.1 ha with rfl | ha
    · exact hitem t st hst
    · exact hacc a ha

/-- Every item of a list has been read. -/
theorem listOf_gives {item : Reader α} (hitem : Gives item P) (wanted : String) :
    Gives (listOf wanted item) fun l => ∀ a ∈ l, P a := by
  intro s
  unfold listOf
  split
  · exact .error _
  · next c r h =>
    dsimp only
    split
    · exact (itemsFrom_carries hitem _ (by simp)).map fun _ hst => hst
    · exact mismatch_carries _ _ _

end

/-! ## Records -/

section

variable {P : σ → Prop}

theorem membersFrom_carries {member : σ → String → Reader σ}
    (hmember : ∀ state key, P state → Gives (member state key) P) {state : σ} {first : Bool}
    {s : List Char} (h : s.length ≤ bound) (hstate : P state) :
    Carries (membersFrom member state first s h) P := by
  fun_induction membersFrom member state first s h with
  | case1 => exact .error _
  | case2 => exact .ok hstate
  | case3 => exact .error _
  | case4 => exact .error _
  | case5 state first s h t ht hturn key hkey st hst entry ih =>
    exact ih (hmember state _ hstate _ st hst)

end

section

variable {l : Layout ρ} {P : ρ → Prop}

theorem Layout.member_gives (hslots : ∀ slot ∈ l.slots, ∀ draft, P draft → Gives (slot.fill draft) P)
    {draft : ρ} (hdraft : P draft) (key : String) : Gives (l.member draft key) P := by
  intro s
  unfold Layout.member
  split
  · next slot hslot =>
    split
    · exact .error _
    · split
      · exact .error _
      · next after _ =>
        have hfill := hslots slot (List.mem_of_find?_eq_some hslot) draft hdraft after.rest
        exact hfill.map fun _ hst => hst
  · split
    · exact .error _
    · exact Carries.map (P := fun _ => True) (fun _ _ => trivial) fun _ _ => hdraft

theorem Layout.listEnd_carries {draft : ρ} (hdraft : P draft) {s : List Char}
    (h : s.length ≤ bound) : Carries (listEnd draft s h) P := by
  unfold listEnd
  split
  · exact .error _
  · dsimp only
    split
    · exact .ok hdraft
    · split
      · split <;> exact .error _
      · exact .error _

theorem Layout.fields_carries (slots : List (Slot ρ))
    (hslots : ∀ slot ∈ slots, ∀ draft, P draft → Gives (slot.fill draft) P) (index : Nat)
    {draft : ρ} (hdraft : P draft) {s : List Char} (h : s.length ≤ bound) :
    Carries (l.fields slots index draft s h) P := by
  induction slots generalizing index draft s with
  | nil => exact listEnd_carries hdraft h
  | cons slot more ih =>
    -- One turn of the list, and the slots after it by induction.
    conv => enter [1]; whnf
    split
    · exact .error _
    · split
      · exact .error _
      · exact .ok hdraft
    · next t ht _ =>
      split
      · exact .error _
      · next st hst =>
        have hnext := hslots slot List.mem_cons_self draft hdraft t st hst
        exact ih (fun other hother => hslots other (List.mem_cons_of_mem slot hother)) _ hnext _

theorem Layout.object_gives (hblank : P l.blank)
    (hslots : ∀ slot ∈ l.slots, ∀ draft, P draft → Gives (slot.fill draft) P) :
    Gives l.object P := by
  intro s
  have hmembers : Carries (members l.member l.blank s) P :=
    membersFrom_carries (fun _ key hdraft => l.member_gives hslots hdraft key) _ hblank
  unfold Layout.object
  split
  · exact .error _
  · next st hst =>
    split
    · exact .error _
    · exact .ok (hmembers st hst)

/-- An invariant of a record's draft that the blank one has and every field keeps. -/
theorem record_gives (hblank : P l.blank)
    (hslots : ∀ slot ∈ l.slots, ∀ draft, P draft → Gives (slot.fill draft) P) :
    Gives (record l) P := by
  intro s
  unfold record
  split
  · exact .error _
  · next c r h =>
    dsimp only
    split
    · refine Carries.map ?_ fun _ hst => hst
      exact l.object_gives hblank hslots r
    · split
      · refine Carries.map ?_ fun _ hst => hst
        exact l.fields_carries _ hslots 0 hblank _
      · exact mismatch_carries _ _ _

end

/-! ## Documents -/

section

variable {P : Value → Prop}

theorem valueWith.entry_gives {value : Reader Value} (hvalue : Gives value P)
    {written : List (String × Value)} (hwritten : ∀ e ∈ written, P e.2) (key : String) :
    Gives (valueWith.entry value written key) fun written => ∀ e ∈ written, P e.2 := by
  intro s
  unfold valueWith.entry
  split
  · exact .error _
  · next after _ =>
    exact (hvalue after.rest).map fun st hst => List.forall_mem_cons.2 ⟨hst, hwritten⟩

theorem valueWith_gives (scalar : ∀ a, P (.scalar a))
    (array : ∀ items, (∀ v ∈ items, P v) → P (.array items))
    (object : ∀ entries, (Entries.keys entries).Nodup → (∀ e ∈ entries, P e.2) →
      P (.object entries))
    {inner : Option (Reader Value)} (hinner : ∀ value ∈ inner, Gives value P) :
    Gives (valueWith inner) P := by
  intro s
  unfold valueWith
  split
  · exact .error _
  · next c r h =>
    dsimp only
    split
    · exact Carries.map (P := fun _ => True) (fun _ _ => trivial) fun st _ => scalar st.value
    split
    · split
      · exact .error _
      · next value =>
        have hitems : Carries (sequence value r) fun items => ∀ v ∈ items, P v :=
          itemsFrom_carries (hinner value rfl) _ (by simp)
        exact hitems.map fun st hst => array st.value hst
    split
    · split
      · exact .error _
      · next value =>
        have hmembers : Carries (members (valueWith.entry value) [] r) fun written =>
            ∀ e ∈ written, P e.2 :=
          membersFrom_carries
            (fun _ key h => valueWith.entry_gives (hinner value rfl) h key) _ (by simp)
        refine hmembers.map fun st hst => object _ (Entries.nodup_keys_ofWritten _) ?_
        intro e he
        exact hst e (List.mem_reverse.1 (Entries.mem_of_mem_ofWritten he))
    · exact .error _

/-- What holds of every scalar, of an array if it holds of its items, and of an object if it holds
of its values and no key comes twice, holds of every value that is read. -/
theorem value_gives (scalar : ∀ a, P (.scalar a))
    (array : ∀ items, (∀ v ∈ items, P v) → P (.array items))
    (object : ∀ entries, (Entries.keys entries).Nodup → (∀ e ∈ entries, P e.2) →
      P (.object entries)) (depth : Nat) : Gives (value depth) P := by
  induction depth with
  | zero => exact valueWith_gives scalar array object (by simp)
  | succ depth ih =>
    refine valueWith_gives scalar array object fun value hvalue => ?_
    obtain rfl : Json.value depth = value := by simpa using hvalue
    exact ih

end

/-! ## Texts -/

/-- What a reader gives on a whole text is what the text is read as. -/
theorem Carries.of_read {reader : Reader α} {P : α → Prop} {source : String}
    (h : Carries (reader source.toList) P) {a : α} (hread : read reader source = .ok a) : P a := by
  unfold read whole at hread
  split at hread
  · cases hread
  · next st hst =>
    split at hread
    · cases hread
      exact h st hst
    · cases hread

end SchemaRules.Json
