import Mathlib.Data.List.Perm.Subperm
import SchemaRules.Proofs.Schema.Tree

/-!
# Nodes that are equal but for the order of entries

Equality of nodes asks of every entry of one object whether the other object has an equal one under
its key, and of the two objects whether they are equally long. If no key comes twice, that makes the
keys of one object those of the other, and what stands in one node stands in the other.

* `Node.Alike`: the equality as a relation.
* `keys_perm_of_sameEntries`: the keys of equal objects.
* `rel_lookup`, `rel_get?`: direct children are none for both nodes, or equal.
* `DistinctKeys.of_alike`: a node equal to one whose keys are distinct has distinct keys.
* `exists_occursIn_of_alike`: each node that stands in one has an equal one in the other.
-/

namespace SchemaRules

namespace Node

/-- Two nodes are equal, the order of entries aside. -/
def Alike (m n : Node) : Prop :=
  m.same n = true

theorem alike_array_iff {items : List Node} {n : Node} :
    n.Alike (.array items) ↔ ∃ others, n = .array others ∧ List.Forall₂ Alike others items := by
  cases n with
  | array others => simp [Alike, same, sameItems_iff]; rfl
  | _ => simp [Alike, same]

theorem alike_object_iff {entries : List (String × Node)} {n : Node} :
    n.Alike (.object entries) ↔ ∃ others, n = .object others ∧
      others.length = entries.length ∧ sameEntries others entries = true := by
  cases n with
  | object others => simp [Alike, same]
  | _ => simp [Alike, same]

theorem string?_eq_of_alike {m n : Node} (h : m.Alike n) : m.string? = n.string? := by
  cases m with
  | scalar a =>
    cases n with
    | scalar b =>
      rw [Alike, same] at h
      cases a <;> cases b <;> simp_all [Json.Scalar.sameValue, string?]
    | _ => simp [Alike, same] at h
  | _ => cases n <;> simp_all [Alike, same, string?]

/-- Each item of one of two equal arrays has an equal one in the other. -/
theorem exists_mem_of_items {items others : List Node} (h : List.Forall₂ Alike others items)
    {n : Node} (hn : n ∈ items) : ∃ m ∈ others, m.Alike n := by
  induction h with
  | nil => cases hn
  | cons hfirst _ ih =>
    rcases List.mem_cons.1 hn with rfl | hn
    · exact ⟨_, List.mem_cons_self, hfirst⟩
    · obtain ⟨m, hm, halike⟩ := ih hn
      exact ⟨m, List.mem_cons_of_mem _ hm, halike⟩

/-! ## Objects -/

section

variable {a b : List (String × Node)}

/-- Equal objects have the same keys, each in an order of its own. -/
theorem keys_perm_of_sameEntries (hnodup : (Entries.keys a).Nodup) (hlength : a.length = b.length)
    (h : sameEntries a b = true) : (Entries.keys a).Perm (Entries.keys b) := by
  have hsub : Entries.keys a ⊆ Entries.keys b := by
    intro key hkey
    obtain ⟨e, he, rfl⟩ := List.mem_map.1 hkey
    obtain ⟨n, hn, -⟩ := sameEntries_iff.1 h e he
    by_contra hnone
    rw [Entries.lookup_eq_none_iff_notMem.2 hnone] at hn
    cases hn
  have hlen : (Entries.keys b).length ≤ (Entries.keys a).length := by
    simp [Entries.keys, hlength]
  exact (List.subperm_of_subset hnodup hsub).perm_of_length_le hlen

/-- Under each key equal objects have equal values, or none. -/
theorem rel_lookup (hnodup : (Entries.keys a).Nodup) (hlength : a.length = b.length)
    (h : sameEntries a b = true) (key : String) :
    Option.Rel Alike (a.lookup key) (b.lookup key) := by
  by_cases hkey : key ∈ Entries.keys a
  · obtain ⟨e, he, rfl⟩ := List.mem_map.1 hkey
    obtain ⟨n, hn, hsame⟩ := sameEntries_iff.1 h e he
    rw [Entries.lookup_of_mem hnodup he, hn]
    exact .some hsame
  · have hother : key ∉ Entries.keys b := fun hmem =>
      hkey ((keys_perm_of_sameEntries hnodup hlength h).mem_iff.2 hmem)
    rw [Entries.lookup_eq_none_iff_notMem.2 hkey, Entries.lookup_eq_none_iff_notMem.2 hother]
    exact .none

/-- Each entry of one of two equal objects has an equal one in the other. -/
theorem exists_mem_of_sameEntries (hnodup : (Entries.keys a).Nodup) (hlength : a.length = b.length)
    (h : sameEntries a b = true) {e : String × Node} (he : e ∈ b) :
    ∃ e' ∈ a, e'.1 = e.1 ∧ e'.2.Alike e.2 := by
  have hperm := keys_perm_of_sameEntries hnodup hlength h
  obtain ⟨e', he', hkey⟩ := List.mem_map.1 (hperm.mem_iff.2 (List.mem_map_of_mem he))
  obtain ⟨n, hn, hsame⟩ := sameEntries_iff.1 h e' he'
  rw [hkey, Entries.lookup_of_mem (hperm.nodup_iff.1 hnodup) he] at hn
  cases hn
  exact ⟨e', he', hkey, hsame⟩

end

/-! ## Nodes -/

variable {m n : Node}

/-- A direct child of equal nodes is none for both, or equal. -/
theorem rel_get? (hm : m.DistinctKeys) (h : m.Alike n) (name : String) :
    Option.Rel Alike (m.get? name) (n.get? name) := by
  cases n with
  | object entries =>
    obtain ⟨others, rfl, hlength, hsame⟩ := alike_object_iff.1 h
    exact rel_lookup (distinctKeys_object_iff.1 hm).1 hlength hsame name
  | _ =>
    cases m with
    | object others => simp [Alike, same] at h
    | _ => exact .none

theorem DistinctKeys.of_get? (hn : n.DistinctKeys) {name : String} (h : n.get? name = some m) :
    m.DistinctKeys := by
  cases n with
  | object entries =>
    obtain ⟨before, after, rfl, -⟩ := List.lookup_eq_some_iff.1 h
    exact (distinctKeys_object_iff.1 hn).2 (name, m) (by simp)
  | _ => cases h

/-- Each node that stands in one of two equal nodes has an equal one in the other. -/
theorem exists_occursIn_of_alike {inner : Node} (hm : m.DistinctKeys) (h : m.Alike n)
    (hinner : inner.OccursIn n) : ∃ other : Node, other.OccursIn m ∧ other.Alike inner := by
  induction hinner generalizing m with
  | here => exact ⟨m, .here, h⟩
  | @item items n hn _ ih =>
    obtain ⟨others, rfl, hsame⟩ := alike_array_iff.1 h
    obtain ⟨m', hm', halike⟩ := exists_mem_of_items hsame hn
    obtain ⟨other, hother, hin⟩ := ih (distinctKeys_array_iff.1 hm m' hm') halike
    exact ⟨other, .item hm' hother, hin⟩
  | @entry entries e he _ ih =>
    obtain ⟨others, rfl, hlength, hsame⟩ := alike_object_iff.1 h
    obtain ⟨hnodup, hkeys⟩ := distinctKeys_object_iff.1 hm
    obtain ⟨e', he', -, halike⟩ := exists_mem_of_sameEntries hnodup hlength hsame he
    obtain ⟨other, hother, hin⟩ := ih (hkeys e' he') halike
    exact ⟨other, .entry he' hother, hin⟩

/-- A node that is equal to one of distinct keys has distinct keys. -/
theorem DistinctKeys.of_alike (hm : m.DistinctKeys) (h : m.Alike n) : n.DistinctKeys := by
  intro entries hin
  obtain ⟨other, hother, halike⟩ := exists_occursIn_of_alike hm h hin
  obtain ⟨others, rfl, hlength, hsame⟩ := alike_object_iff.1 halike
  have hnodup := hm others hother
  exact (keys_perm_of_sameEntries hnodup hlength hsame).nodup_iff.1 hnodup

end Node

end SchemaRules
