import SchemaRules.Proofs.Schema.Tree

/-!
# The entries below a node

All entries of the objects in a node can be listed in document order, each before the entries
inside its value. A search is a look-up in that list, so it finds the first entry of a name.

* `Node.listing`: the list; `Node.mem_listing_iff`: what is in it.
* `Node.find?_eq_lookup_listing`: the search; `Node.find?_eq_none_iff`: when it finds nothing.
-/

namespace SchemaRules

namespace Node

mutual

/-- The entries of all objects in a node in document order. An entry comes before those inside its
value. -/
def listing : Node → List (String × Node)
  | .object entries => listingOfEntries entries
  | .array items => listingOfItems items
  | _ => []

/-- The entries in the items of an array. -/
def listingOfItems : List Node → List (String × Node)
  | [] => []
  | n :: rest => listing n ++ listingOfItems rest

/-- The entries of an object with those inside their values. -/
def listingOfEntries : List (String × Node) → List (String × Node)
  | [] => []
  | (key, n) :: rest => (key, n) :: (listing n ++ listingOfEntries rest)

end

theorem findInItems_eq_lookup {name : String} {items : List Node}
    (h : ∀ n ∈ items, find? name n = (listing n).lookup name) :
    findInItems name items = (listingOfItems items).lookup name := by
  induction items with
  | nil => rfl
  | cons n rest ih =>
    obtain ⟨hfirst, hrest⟩ := List.forall_mem_cons.1 h
    rw [findInItems, listingOfItems, List.lookup_append, hfirst, ih hrest]

theorem findInEntries_eq_lookup {name : String} {entries : List (String × Node)}
    (h : ∀ e ∈ entries, find? name e.2 = (listing e.2).lookup name) :
    findInEntries name entries = (listingOfEntries entries).lookup name := by
  induction entries with
  | nil => rfl
  | cons e rest ih =>
    obtain ⟨key, n⟩ := e
    obtain ⟨hfirst, hrest⟩ := List.forall_mem_cons.1 h
    rw [findInEntries, listingOfEntries, Entries.lookup_cons_eq_ite, List.lookup_append, hfirst,
      ih hrest]
    by_cases hkey : key = name
    · rw [if_pos hkey, if_pos hkey.symm]
    · rw [if_neg hkey, if_neg (Ne.symm hkey)]

/-- A search finds the first entry of a name, in the order in which entries are listed. -/
theorem find?_eq_lookup_listing (name : String) (n : Node) :
    n.find? name = n.listing.lookup name := by
  induction n with
  | scalar a => rfl
  | array items ih =>
    rw [find?, listing]
    exact findInItems_eq_lookup ih
  | object entries ih =>
    rw [find?, listing]
    exact findInEntries_eq_lookup ih
  | reference target => rfl

/-! ## What is listed -/

theorem listingOfItems_eq_flatMap (items : List Node) :
    listingOfItems items = items.flatMap listing := by
  induction items with
  | nil => rfl
  | cons n rest ih => rw [listingOfItems, ih, List.flatMap_cons]

theorem listingOfEntries_eq_flatMap (entries : List (String × Node)) :
    listingOfEntries entries = entries.flatMap fun e => e :: listing e.2 := by
  induction entries with
  | nil => rfl
  | cons e rest ih => rw [listingOfEntries, ih, List.flatMap_cons, List.cons_append]

theorem mem_listingOfItems_iff {e : String × Node} {items : List Node} :
    e ∈ listingOfItems items ↔ ∃ n ∈ items, e ∈ n.listing := by
  rw [listingOfItems_eq_flatMap, List.mem_flatMap]

theorem mem_listingOfEntries_iff {e : String × Node} {entries : List (String × Node)} :
    e ∈ listingOfEntries entries ↔ e ∈ entries ∨ ∃ inner ∈ entries, e ∈ inner.2.listing := by
  simp [listingOfEntries_eq_flatMap, and_or_left, exists_or]

/-- The entries that are listed are those of the objects that stand in the node. -/
theorem mem_listing_iff {e : String × Node} {n : Node} :
    e ∈ n.listing ↔ ∃ entries, OccursIn (.object entries) n ∧ e ∈ entries := by
  induction n with
  | scalar a => simp [listing, occursIn_scalar_iff]
  | reference target => simp [listing, occursIn_reference_iff]
  | array items ih =>
    rw [listing, mem_listingOfItems_iff]
    constructor
    · rintro ⟨n, hn, he⟩
      obtain ⟨entries, hin, he⟩ := (ih n hn).1 he
      exact ⟨entries, .item hn hin, he⟩
    · rintro ⟨entries, hin, he⟩
      rcases occursIn_array_iff.1 hin with heq | ⟨n, hn, hin⟩
      · cases heq
      · exact ⟨n, hn, (ih n hn).2 ⟨entries, hin, he⟩⟩
  | object children ih =>
    rw [listing, mem_listingOfEntries_iff]
    constructor
    · rintro (he | ⟨inner, hinner, he⟩)
      · exact ⟨children, .here, he⟩
      · obtain ⟨entries, hin, he⟩ := (ih inner hinner).1 he
        exact ⟨entries, .entry hinner hin, he⟩
    · rintro ⟨entries, hin, he⟩
      rcases occursIn_object_iff.1 hin with heq | ⟨inner, hinner, hin⟩
      · cases heq
        exact .inl he
      · exact .inr ⟨inner, hinner, (ih inner hinner).2 ⟨entries, hin, he⟩⟩

/-- A search finds nothing if no object that stands in the node has the name for a key. -/
theorem find?_eq_none_iff {name : String} {n : Node} :
    n.find? name = none ↔
      ∀ entries, OccursIn (.object entries) n → name ∉ Entries.keys entries := by
  rw [find?_eq_lookup_listing, Entries.lookup_eq_none_iff_notMem]
  constructor
  · intro h entries hin hname
    obtain ⟨e, he, rfl⟩ := List.mem_map.1 hname
    exact h (List.mem_map_of_mem (mem_listing_iff.2 ⟨entries, hin, he⟩))
  · intro h hname
    obtain ⟨e, he, rfl⟩ := List.mem_map.1 hname
    obtain ⟨entries, hin, he⟩ := mem_listing_iff.1 he
    exact h entries hin (List.mem_map_of_mem he)

end Node

end SchemaRules
