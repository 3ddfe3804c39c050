import Mathlib.Data.List.Nodup
import Mathlib.Data.List.Perm.Subperm
import SchemaRules.Proofs.Json.Results
import SchemaRules.Proofs.Schema.Equality
import SchemaRules.Proofs.Schema.Search

/-!
# Rearranged nodes

Equality of nodes is decided by looking up the entries of one object in the other. Here it is told
as a relation: nodes are equal exactly if one becomes the other by rearranging the entries of
objects, wherever these stand, and by writing numbers otherwise. That needs distinct keys, which
every node has that is read of a text.

* `distinctKeys_of_read`: the nodes that are read.
* `Alike.symm`, `Alike.trans`: with `same_refl` equality is an equivalence relation.
* `Node.Rearranged`: the steps that keep a node equal, and all that they lead to.
* `alike_iff_rearranged`: they lead to the equal nodes.
* `same_equivalence_and_children`: all of it, and what the accessors give of equal nodes.
-/

namespace SchemaRules

open Json (Scalar)

namespace Node

/-! ## What is read -/

/-- The node of a value that a reader gives has no key twice in an object. -/
theorem value_gives_distinctKeys (depth : Nat) :
    Json.Gives (Json.value depth) fun v => (ofValue v).DistinctKeys := by
  refine Json.value_gives ?_ ?_ ?_ depth
  · intro a
    simp [ofValue]
  · intro items hitems
    rw [ofValue, ofItems_eq_map, distinctKeys_array_iff, List.forall_mem_map]
    exact hitems
  · intro entries hkeys hentries
    rw [ofValue]
    split
    · exact distinctKeys_reference _
    · rw [distinctKeys_object_iff, keys_ofEntries, ofEntries_eq_map, List.forall_mem_map]
      exact ⟨hkeys, hentries⟩

theorem distinctKeys_of_read {source : String} {n : Node} (hread : Node.read source = .ok n) :
    n.DistinctKeys := by
  obtain ⟨v, hv, rfl⟩ := read_eq_ok_iff_value.1 hread
  exact (value_gives_distinctKeys Json.maxDepth source.toList).of_read hv

/-! ## Equivalence -/

variable {l m n : Node}

/-- What equality of items entails for each pair of them, it entails for arrays. -/
theorem forall₂_of_items {R : Node → Node → Prop} {items others : List Node}
    (hothers : ∀ m ∈ others, m.DistinctKeys) (hsame : List.Forall₂ Alike others items)
    (h : ∀ n ∈ items, ∀ {m : Node}, m.DistinctKeys → m.Alike n → R m n) :
    List.Forall₂ R others items := by
  have hkeys := (List.forall₂_and_left _ _).2 ⟨hothers, hsame⟩
  have hpairs := (List.forall₂_and_left _ _).2 ⟨h, hkeys.flip⟩
  exact (hpairs.imp fun n m hpair => hpair.1 hpair.2.1 hpair.2.2).flip

theorem Alike.refl (hn : n.DistinctKeys) : n.Alike n :=
  same_refl hn

theorem Alike.symm (hm : m.DistinctKeys) (h : m.Alike n) : n.Alike m := by
  induction n generalizing m with
  | scalar a =>
    cases m with
    | scalar b =>
      rw [Alike, same] at h ⊢
      exact Scalar.sameValue_symm h
    | _ => simp [Alike, same] at h
  | array items ih =>
    obtain ⟨others, rfl, hsame⟩ := alike_array_iff.1 h
    have hothers := distinctKeys_array_iff.1 hm
    have hitems := forall₂_of_items (R := fun m n => n.Alike m) hothers hsame ih
    exact alike_array_iff.2 ⟨items, rfl, hitems.flip⟩
  | object entries ih =>
    obtain ⟨others, rfl, hlength, hsame⟩ := alike_object_iff.1 h
    obtain ⟨hnodup, hinner⟩ := distinctKeys_object_iff.1 hm
    refine alike_object_iff.2 ⟨entries, rfl, hlength.symm, sameEntries_iff.2 fun e he => ?_⟩
    obtain ⟨e', he', hkey, halike⟩ := exists_mem_of_sameEntries hnodup hlength hsame he
    exact ⟨e'.2, hkey ▸ Entries.lookup_of_mem hnodup he', ih e he (hinner e' he') halike⟩
  | reference target =>
    cases m with
    | reference other =>
      simp only [Alike, same, beq_iff_eq] at h ⊢
      exact h.symm
    | _ => simp [Alike, same] at h

theorem Alike.trans (h : l.Alike m) (k : m.Alike n) : l.Alike n := by
  induction n generalizing l m with
  | scalar a =>
    cases m with
    | scalar b =>
      cases l with
      | scalar c =>
        rw [Alike, same] at h k ⊢
        exact Scalar.sameValue_trans h k
      | _ => simp [Alike, same] at h
    | _ => simp [Alike, same] at k
  | array items ih =>
    obtain ⟨middle, rfl, hitems⟩ := alike_array_iff.1 k
    obtain ⟨others, rfl, hothers⟩ := alike_array_iff.1 h
    refine alike_array_iff.2 ⟨others, rfl, ?_⟩
    clear h k
    induction hitems generalizing others with
    | nil => exact hothers
    | cons hitem _ ihrest =>
      cases hothers with
      | cons hother hrest =>
        rw [List.forall_mem_cons] at ih
        exact .cons (ih.1 hother hitem) (ihrest ih.2 _ hrest)
  | object entries ih =>
    obtain ⟨middle, rfl, hlength, hsame⟩ := alike_object_iff.1 k
    obtain ⟨others, rfl, hlength', hsame'⟩ := alike_object_iff.1 h
    refine alike_object_iff.2 ⟨others, rfl, hlength'.trans hlength, ?_⟩
    refine sameEntries_iff.2 fun e he => ?_
    obtain ⟨m', hm', hfirst⟩ := sameEntries_iff.1 hsame' e he
    obtain ⟨n', hn', hsecond⟩ := sameEntries_iff.1 hsame (e.1, m') (Entries.mem_of_lookup hm')
    exact ⟨n', hn', ih (e.1, n') (Entries.mem_of_lookup hn') hfirst hsecond⟩
  | reference target =>
    cases m with
    | reference other =>
      obtain rfl : other = target := by simpa [Alike, same] using k
      exact h
    | _ => simp [Alike, same] at k

/-! ## Steps -/

/-- One step between equal nodes: the entries of an object are rearranged or a scalar is written
otherwise, in the node itself or somewhere in it. -/
inductive Rearranges : Node → Node → Prop where
  | entries {a b : List (String × Node)} (h : a.Perm b) : Rearranges (.object a) (.object b)
  | scalar {a b : Scalar} (h : a.sameValue b = true) : Rearranges (.scalar a) (.scalar b)
  | item {m n : Node} (front back : List Node) (h : Rearranges m n) :
    Rearranges (.array (front ++ m :: back)) (.array (front ++ n :: back))
  | entry {m n : Node} (front : List (String × Node)) (key : String)
    (back : List (String × Node)) (h : Rearranges m n) :
    Rearranges (.object (front ++ (key, m) :: back)) (.object (front ++ (key, n) :: back))

/-- Some steps lead from one node to the other. -/
def Rearranged : Node → Node → Prop :=
  Relation.ReflTransGen Rearranges

theorem Rearranges.alike (h : m.Rearranges n) (hm : m.DistinctKeys) : m.Alike n := by
  induction h with
  | @entries a b hperm =>
    obtain ⟨hnodup, hinner⟩ := distinctKeys_object_iff.1 hm
    refine alike_object_iff.2 ⟨a, rfl, hperm.length_eq, sameEntries_iff.2 fun e he => ?_⟩
    have hkeys : (Entries.keys b).Nodup := (hperm.map Prod.fst).nodup_iff.1 hnodup
    exact ⟨e.2, Entries.lookup_of_mem hkeys (hperm.mem_iff.1 he), same_refl (hinner e he)⟩
  | scalar h =>
    rw [Alike, same]
    exact h
  | @item m n front back _ ih =>
    simp only [distinctKeys_array_iff, List.forall_mem_append, List.forall_mem_cons] at hm
    obtain ⟨hfront, hitem, hback⟩ := hm
    refine alike_array_iff.2 ⟨_, rfl, List.rel_append ?_ (.cons (ih hitem) ?_)⟩
    · exact List.forall₂_same.2 fun n hn => .refl (hfront n hn)
    · exact List.forall₂_same.2 fun n hn => .refl (hback n hn)
  | @entry m n front key back _ ih =>
    obtain ⟨hnodup, hinner⟩ := distinctKeys_object_iff.1 hm
    refine alike_object_iff.2 ⟨_, rfl, by simp, sameEntries_iff.2 fun e he => ?_⟩
    have hkeys : (Entries.keys (front ++ (key, n) :: back)).Nodup := by
      simpa [Entries.keys] using hnodup
    have hsame := hinner e he
    simp only [List.mem_append, List.mem_cons] at he
    rcases he with he | rfl | he
    · exact ⟨e.2, Entries.lookup_of_mem hkeys (by simp [he]), same_refl hsame⟩
    · exact ⟨n, Entries.lookup_of_mem hkeys (e := (key, n)) (by simp), ih hsame⟩
    · exact ⟨e.2, Entries.lookup_of_mem hkeys (by simp [he]), same_refl hsame⟩

theorem Rearranged.alike (h : m.Rearranged n) (hm : m.DistinctKeys) : m.Alike n := by
  induction h with
  | refl => exact .refl hm
  | tail _ hstep ih => exact ih.trans (hstep.alike (hm.of_alike ih))

/-! ## Steps that lead to an equal node -/

theorem Rearranged.item (front back : List Node) (h : m.Rearranged n) :
    Rearranged (.array (front ++ m :: back)) (.array (front ++ n :: back)) := by
  induction h with
  | refl => exact .refl
  | tail _ hstep ih => exact ih.tail (.item front back hstep)

theorem Rearranged.entry (front : List (String × Node)) (key : String)
    (back : List (String × Node)) (h : m.Rearranged n) :
    Rearranged (.object (front ++ (key, m) :: back)) (.object (front ++ (key, n) :: back)) := by
  induction h with
  | refl => exact .refl
  | tail _ hstep ih => exact ih.tail (.entry front key back hstep)

/-- Items that are rearranged one by one. -/
theorem Rearranged.items {a b : List Node} (h : List.Forall₂ Rearranged a b) :
    Rearranged (.array a) (.array b) := by
  suffices hfront : ∀ front, Rearranged (.array (front ++ a)) (.array (front ++ b)) from hfront []
  induction h with
  | nil => exact fun front => .refl
  | @cons m n a b hfirst _ ih =>
    intro front
    have hrest := ih (front ++ [n])
    simp only [List.append_assoc, List.singleton_append] at hrest
    exact (hfirst.item front a).trans hrest

/-- Values that are rearranged under their keys. -/
theorem Rearranged.values {a : List (String × Node)} {value : String × Node → Node}
    (h : ∀ e ∈ a, e.2.Rearranged (value e)) :
    Rearranged (.object a) (.object (a.map fun e => (e.1, value e))) := by
  suffices hfront : ∀ front, Rearranged (.object (front ++ a))
      (.object (front ++ a.map fun e => (e.1, value e))) from hfront []
  induction a with
  | nil => exact fun front => .refl
  | cons e a ih =>
    intro front
    obtain ⟨hfirst, hrest⟩ := List.forall_mem_cons.1 h
    have hmore := ih hrest (front ++ [(e.1, value e)])
    simp only [List.append_assoc, List.singleton_append] at hmore
    exact (hfirst.entry front e.1 a).trans hmore

/-- The value that others have under the key of an entry. -/
def otherValue (others : List (String × Node)) (e : String × Node) : Node :=
  (others.lookup e.1).getD e.2

section

variable {a b : List (String × Node)}

theorem otherValue_of_sameEntries (h : sameEntries a b = true) {e : String × Node} (he : e ∈ a) :
    (e.1, otherValue b e) ∈ b ∧ e.2.Alike (otherValue b e) := by
  obtain ⟨n, hn, halike⟩ := sameEntries_iff.1 h e he
  rw [otherValue, hn, Option.getD_some]
  exact ⟨Entries.mem_of_lookup hn, halike⟩

/-- With the other's values the entries of one of two equal objects are those of the other. -/
theorem otherValues_perm (hnodup : (Entries.keys a).Nodup) (hlength : a.length = b.length)
    (h : sameEntries a b = true) : (a.map fun e => (e.1, otherValue b e)).Perm b := by
  have hkeys : ((a.map fun e => (e.1, otherValue b e)).map Prod.fst).Nodup := by
    rw [List.map_map]
    exact hnodup
  have hsub : (a.map fun e => (e.1, otherValue b e)) ⊆ b := by
    intro e' he'
    obtain ⟨e, he, rfl⟩ := List.mem_map.1 he'
    exact (otherValue_of_sameEntries h he).1
  have hnodup' := List.Nodup.of_map _ hkeys
  exact (List.subperm_of_subset hnodup' hsub).perm_of_length_le (by simp [hlength])

end

/-- Equal nodes are led to each other: items and values first, and then the entries are put in
order. -/
theorem Alike.rearranged (hm : m.DistinctKeys) (h : m.Alike n) : m.Rearranged n := by
  induction n generalizing m with
  | scalar a =>
    cases m with
    | scalar b =>
      rw [Alike, same] at h
      exact .single (.scalar h)
    | _ => simp [Alike, same] at h
  | array items ih =>
    obtain ⟨others, rfl, hsame⟩ := alike_array_iff.1 h
    exact .items (forall₂_of_items (distinctKeys_array_iff.1 hm) hsame ih)
  | object entries ih =>
    obtain ⟨others, rfl, hlength, hsame⟩ := alike_object_iff.1 h
    obtain ⟨hnodup, hinner⟩ := distinctKeys_object_iff.1 hm
    have hvalues : ∀ e ∈ others, e.2.Rearranged (otherValue entries e) := by
      intro e he
      obtain ⟨hmem, halike⟩ := otherValue_of_sameEntries hsame he
      exact ih _ hmem (hinner e he) halike
    exact (Rearranged.values hvalues).tail (.entries (otherValues_perm hnodup hlength hsame))
  | reference target =>
    cases m with
    | reference other =>
      obtain rfl : other = target := by simpa [Alike, same] using h
      exact .refl
    | _ => simp [Alike, same] at h

/-- Equality is decided: it is what some steps lead to. -/
theorem alike_iff_rearranged (hm : m.DistinctKeys) : m.Alike n ↔ m.Rearranged n :=
  ⟨fun h => h.rearranged hm, fun h => h.alike hm⟩

/-! ## Accessors -/

theorem items_of_alike (h : m.Alike n) : List.Forall₂ Alike m.elements n.elements := by
  cases n with
  | array items =>
    obtain ⟨others, rfl, hsame⟩ := alike_array_iff.1 h
    exact hsame
  | _ =>
    cases m with
    | array others => simp [Alike, same] at h
    | _ => exact .nil

theorem fieldNames_perm_of_alike (hm : m.DistinctKeys) (h : m.Alike n) :
    m.fieldNames.Perm n.fieldNames := by
  cases n with
  | object entries =>
    obtain ⟨others, rfl, hlength, hsame⟩ := alike_object_iff.1 h
    exact keys_perm_of_sameEntries (distinctKeys_object_iff.1 hm).1 hlength hsame
  | _ =>
    cases m with
    | object others => simp [Alike, same] at h
    | _ => exact .nil

/-- Nodes that are read have distinct keys. Among nodes of distinct keys equality is an equivalence
relation, equal are the nodes that are rearranged into each other, and the accessors give equal
nodes and the same names of equal nodes. -/
theorem same_equivalence_and_children :
    (∀ source n, Node.read source = .ok n → n.DistinctKeys) ∧
    Equivalence (fun m n : {n : Node // n.DistinctKeys} => m.1.same n.1 = true) ∧
    (∀ m n : Node, m.DistinctKeys → (m.same n = true ↔ m.Rearranged n)) ∧
    ∀ m n : Node, m.DistinctKeys → m.same n = true →
      (∀ name, Option.Rel (fun a b => a.same b = true) (m.get? name) (n.get? name)) ∧
      Option.Rel (fun a b => a.same b = true) m.properties? n.properties? ∧
      List.Forall₂ (fun a b => a.same b = true) m.elements n.elements ∧
      m.fieldNames.Perm n.fieldNames := by
  refine ⟨fun source n => distinctKeys_of_read, ⟨?_, ?_, ?_⟩, ?_, ?_⟩
  · exact fun n => Alike.refl n.2
  · exact fun {m n} h => Alike.symm m.2 h
  · exact fun h k => Alike.trans h k
  · exact fun m n hm => alike_iff_rearranged hm
  · intro m n hm h
    exact ⟨rel_get? hm h, rel_get? hm h "properties", items_of_alike h,
      fieldNames_perm_of_alike hm h⟩

/-- Two objects are put in another order, one of them in an array that the other holds. -/
theorem same_equivalence_and_children_nested :
    let inner : List (String × Node) :=
      [("x", .scalar .null), ("y", .scalar (.string "t"))]
    let m : Node :=
      .object [("properties", .array [.reference "#", .object inner]), ("b", .array [])]
    let n : Node :=
      .object [("b", .array []), ("properties", .array [.reference "#", .object inner.reverse])]
    m.DistinctKeys ∧ m.Rearranged n ∧ m.same n = true ∧ n.same m = true ∧
      Option.Rel (fun a b => a.same b = true) m.properties? n.properties? ∧
      m.fieldNames.Perm n.fieldNames := by
  intro inner m n
  have hm : m.DistinctKeys := by simp [m, inner]
  have hinner : Rearranged (.object inner) (.object inner.reverse) :=
    .single (.entries inner.reverse_perm.symm)
  have houter : m.Rearranged n :=
    ((hinner.item [.reference "#"] []).entry [] "properties" [("b", .array [])]).tail
      (.entries (.swap _ _ _))
  obtain ⟨-, hequivalence, hrearranged, hchildren⟩ := same_equivalence_and_children
  have hsame : m.same n = true := (hrearranged m n hm).2 houter
  have hn : n.DistinctKeys := by simp [n, inner]
  have hsymm := @Equivalence.symm _ _ hequivalence ⟨m, hm⟩ ⟨n, hn⟩ hsame
  obtain ⟨-, hproperties, -, hnames⟩ := hchildren m n hm hsame
  exact ⟨hm, houter, hsame, hsymm, hproperties, hnames⟩

end Node

end SchemaRules
