import Mathlib.Data.List.Forall2
import SchemaRules.Schema.Node

/-!
# Values and nodes as trees

The functions on nodes and values recurse through lists of items and of entries. Here are the laws
with which a proof never meets that recursion: one induction principle for each tree, with
membership in place of the lists, and the conversions and the equality of lists told item by item.

* `Value.induct`, `Node.induct`: the induction principles.
* `ofItems_eq_map`, `ofEntries_eq_map`, `toItems_eq_map`, `toEntries_eq_map`: conversions of lists.
* `sameItems_iff`, `sameEntries_iff`: equality of lists.
* `Node.OccursIn`: a node stands somewhere in another; `Node.DistinctKeys`: no object that stands
  in a node has a key twice.
-/

namespace SchemaRules

open Json (Scalar Value)

/-- The value of a key is the one it stands with, if no key comes twice. -/
theorem Entries.lookup_of_mem {α : Type} {entries : List (String × α)}
    (h : (keys entries).Nodup) {e : String × α} (he : e ∈ entries) :
    entries.lookup e.1 = some e.2 := by
  induction entries with
  | nil => cases he
  | cons first rest ih =>
    obtain ⟨hnew, hrest⟩ := List.nodup_cons.1 h
    rw [lookup_cons_eq_ite]
    rcases List.mem_cons.1 he with rfl | he
    · exact if_pos rfl
    · have hne : e.1 ≠ first.1 := by
        intro heq
        exact hnew (heq ▸ List.mem_map_of_mem he)
      rw [if_neg hne, ih hrest he]

theorem Entries.lookup_eq_none_iff_notMem {α : Type} {entries : List (String × α)} {key : String} :
    entries.lookup key = none ↔ key ∉ keys entries := by
  induction entries with
  | nil => simp
  | cons first rest ih =>
    rw [lookup_cons_eq_ite, keys_cons, List.mem_cons]
    by_cases h : key = first.1 <;> simp [h, ih]

/-! ## Induction -/

/-- What holds of an array or an object if it holds of all values in it, holds of every value. -/
@[elab_as_elim, induction_eliminator]
theorem Json.Value.induct {motive : Value → Prop} (scalar : ∀ a, motive (.scalar a))
    (array : ∀ items, (∀ v ∈ items, motive v) → motive (.array items))
    (object : ∀ entries, (∀ e ∈ entries, motive e.2) → motive (.object entries)) (v : Value) :
    motive v := by
  refine @Value.rec motive (fun items => ∀ v ∈ items, motive v)
    (fun entries => ∀ e ∈ entries, motive e.2) (fun e => motive e.2) scalar array object
    ?_ ?_ ?_ ?_ (fun _ _ h => h) v
  · exact fun _ h => nomatch h
  · exact fun _ _ hfirst hrest => List.forall_mem_cons.2 ⟨hfirst, hrest⟩
  · exact fun _ h => nomatch h
  · exact fun _ _ hfirst hrest => List.forall_mem_cons.2 ⟨hfirst, hrest⟩

/-- What holds of an array or an object if it holds of all nodes in it, and of every scalar and
reference, holds of every node. -/
@[elab_as_elim, induction_eliminator]
theorem Node.induct {motive : Node → Prop} (scalar : ∀ a, motive (.scalar a))
    (array : ∀ items, (∀ n ∈ items, motive n) → motive (.array items))
    (object : ∀ entries, (∀ e ∈ entries, motive e.2) → motive (.object entries))
    (reference : ∀ target, motive (.reference target)) (n : Node) : motive n := by
  refine @Node.rec motive (fun items => ∀ n ∈ items, motive n)
    (fun entries => ∀ e ∈ entries, motive e.2) (fun e => motive e.2) scalar array object reference
    ?_ ?_ ?_ ?_ (fun _ _ h => h) n
  · exact fun _ h => nomatch h
  · exact fun _ _ hfirst hrest => List.forall_mem_cons.2 ⟨hfirst, hrest⟩
  · exact fun _ h => nomatch h
  · exact fun _ _ hfirst hrest => List.forall_mem_cons.2 ⟨hfirst, hrest⟩

namespace Node

/-! ## Conversions of lists -/

theorem ofItems_eq_map (items : List Value) : ofItems items = items.map ofValue := by
  induction items with
  | nil => rw [ofItems, List.map_nil]
  | cons v rest ih => rw [ofItems, ih, List.map_cons]

theorem ofEntries_eq_map (entries : List (String × Value)) :
    ofEntries entries = entries.map fun e => (e.1, ofValue e.2) := by
  induction entries with
  | nil => rw [ofEntries, List.map_nil]
  | cons e rest ih => rw [ofEntries, ih, List.map_cons]

theorem toItems_eq_map (items : List Node) : toItems items = items.map toValue := by
  induction items with
  | nil => rw [toItems, List.map_nil]
  | cons n rest ih => rw [toItems, ih, List.map_cons]

theorem toEntries_eq_map (entries : List (String × Node)) :
    toEntries entries = entries.map fun e => (e.1, toValue e.2) := by
  induction entries with
  | nil => rw [toEntries, List.map_nil]
  | cons e rest ih => rw [toEntries, ih, List.map_cons]

/-! ## Equality of lists -/

theorem sameItems_iff {a b : List Node} :
    sameItems a b = true ↔ List.Forall₂ (fun m n => m.same n = true) a b := by
  induction a generalizing b with
  | nil => cases b <;> simp [sameItems]
  | cons m rest ih => cases b <;> simp [sameItems, ih]

theorem sameEntries_iff {a b : List (String × Node)} :
    sameEntries a b = true ↔
      ∀ e ∈ a, ∃ n, b.lookup e.1 = some n ∧ e.2.same n = true := by
  induction a with
  | nil => simp [sameEntries]
  | cons e rest ih =>
    rw [sameEntries, Bool.and_eq_true, ih, List.forall_mem_cons]
    cases b.lookup e.1 <;> simp

/-! ## What stands in a node -/

/-- A node stands somewhere in another, or is the other. -/
inductive OccursIn (m : Node) : Node → Prop
  | here : OccursIn m m
  | item {items : List Node} {n : Node} (hn : n ∈ items) (h : OccursIn m n) :
    OccursIn m (.array items)
  | entry {entries : List (String × Node)} {e : String × Node} (he : e ∈ entries)
    (h : OccursIn m e.2) : OccursIn m (.object entries)

theorem occursIn_scalar_iff {m : Node} {a : Scalar} :
    m.OccursIn (.scalar a) ↔ m = .scalar a := by
  constructor
  · rintro ⟨⟩
    rfl
  · rintro rfl
    exact .here

theorem occursIn_reference_iff {m : Node} {target : String} :
    m.OccursIn (.reference target) ↔ m = .reference target := by
  constructor
  · rintro ⟨⟩
    rfl
  · rintro rfl
    exact .here

theorem occursIn_array_iff {m : Node} {items : List Node} :
    m.OccursIn (.array items) ↔ m = .array items ∨ ∃ n ∈ items, m.OccursIn n := by
  constructor
  · rintro (_ | ⟨hn, h⟩)
    · exact .inl rfl
    · exact .inr ⟨_, hn, h⟩
  · rintro (rfl | ⟨n, hn, h⟩)
    · exact .here
    · exact .item hn h

theorem occursIn_object_iff {m : Node} {entries : List (String × Node)} :
    m.OccursIn (.object entries) ↔ m = .object entries ∨ ∃ e ∈ entries, m.OccursIn e.2 := by
  constructor
  · rintro (_ | _ | ⟨he, h⟩)
    · exact .inl rfl
    · exact .inr ⟨_, he, h⟩
  · rintro (rfl | ⟨e, he, h⟩)
    · exact .here
    · exact .entry he h

/-- No object that stands in the node has a key twice. -/
def DistinctKeys (n : Node) : Prop :=
  ∀ entries, OccursIn (.object entries) n → (Entries.keys entries).Nodup

@[simp] theorem distinctKeys_scalar (a : Scalar) : DistinctKeys (.scalar a) := by
  intro entries h
  cases occursIn_scalar_iff.1 h

@[simp] theorem distinctKeys_reference (target : String) : DistinctKeys (.reference target) := by
  intro entries h
  cases occursIn_reference_iff.1 h

@[simp] theorem distinctKeys_array_iff {items : List Node} :
    DistinctKeys (.array items) ↔ ∀ n ∈ items, n.DistinctKeys := by
  constructor
  · intro h n hn entries hin
    exact h entries (.item hn hin)
  · intro h entries hin
    rcases occursIn_array_iff.1 hin with heq | ⟨n, hn, hin⟩
    · cases heq
    · exact h n hn entries hin

@[simp] theorem distinctKeys_object_iff {entries : List (String × Node)} :
    DistinctKeys (.object entries) ↔
      (Entries.keys entries).Nodup ∧ ∀ e ∈ entries, e.2.DistinctKeys := by
  constructor
  · intro h
    exact ⟨h entries .here, fun e he inner hin => h inner (.entry he hin)⟩
  · rintro ⟨hself, h⟩ inner hin
    rcases occursIn_object_iff.1 hin with heq | ⟨e, he, hin⟩
    · cases heq
      exact hself
    · exact h e he inner hin

end Node

end SchemaRules
