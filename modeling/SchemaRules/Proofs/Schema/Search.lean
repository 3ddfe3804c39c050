import SchemaRules.Proofs.Schema.Conversion
import SchemaRules.Proofs.Schema.Listing

/-!
# Searching the node of a document

A search in the node of a document finds the first entry of a name in the document itself, in the
order in which all its entries are listed. Only references are hidden from it. Each is written as an
object with one entry, whose key is `$ref`, so a search for any other name misses nothing.

* `Json.Value.OccursIn`: a value stands somewhere in another.
* `Json.Value.listing`: the entries of a document in order, with or without some objects.
* `Node.listing_ofValue`: the entries of the node are those of the document, references aside.
* `Node.occursIn_object_ofValue_iff`: so are the objects.
* `Node.find?_ofValue`: the search.
-/

namespace SchemaRules

open Json (Scalar Value)

/-- The value of a key in mapped entries is the image of the one it had. -/
theorem Entries.lookup_map {α β : Type} (f : α → β) (entries : List (String × α)) (key : String) :
    (entries.map fun e => (e.1, f e.2)).lookup key = (entries.lookup key).map f := by
  induction entries with
  | nil => rfl
  | cons e rest ih =>
    rw [List.map_cons, lookup_cons_eq_ite, lookup_cons_eq_ite, ih]
    split <;> rfl

/-- Look-ups in lists that are joined in the same order agree if they do in each of them. -/
theorem Entries.lookup_flatMap_congr {α β : Type} {name : String} {l : List α}
    {f g : α → List (String × β)} (h : ∀ a ∈ l, (f a).lookup name = (g a).lookup name) :
    (l.flatMap f).lookup name = (l.flatMap g).lookup name := by
  induction l with
  | nil => rfl
  | cons a rest ih =>
    obtain ⟨hfirst, hrest⟩ := List.forall_mem_cons.1 h
    rw [List.flatMap_cons, List.flatMap_cons, List.lookup_append, List.lookup_append, hfirst,
      ih hrest]

namespace Json.Value

/-! ## What stands in a document -/

/-- A value stands somewhere in another, or is the other. -/
inductive OccursIn (w : Value) : Value → Prop
  | here : OccursIn w w
  | item {items : List Value} {v : Value} (hv : v ∈ items) (h : OccursIn w v) :
    OccursIn w (.array items)
  | entry {entries : List (String × Value)} {e : String × Value} (he : e ∈ entries)
    (h : OccursIn w e.2) : OccursIn w (.object entries)

theorem object_occursIn_scalar {entries : List (String × Value)} {a : Scalar} :
    ¬OccursIn (.object entries) (.scalar a) := by
  rintro ⟨⟩

theorem object_occursIn_array_iff {entries : List (String × Value)} {items : List Value} :
    OccursIn (.object entries) (.array items) ↔ ∃ v ∈ items, OccursIn (.object entries) v := by
  constructor
  · rintro (_ | ⟨hv, h⟩)
    exact ⟨_, hv, h⟩
  · rintro ⟨v, hv, h⟩
    exact .item hv h

theorem object_occursIn_object_iff {entries children : List (String × Value)} :
    OccursIn (.object entries) (.object children) ↔
      entries = children ∨ ∃ e ∈ children, OccursIn (.object entries) e.2 := by
  constructor
  · rintro (_ | _ | ⟨he, h⟩)
    · exact .inl rfl
    · exact .inr ⟨_, he, h⟩
  · rintro (rfl | ⟨e, he, h⟩)
    · exact .here
    · exact .entry he h

/-! ## The entries of a document -/

mutual

/-- The entries of all objects in a value in document order, but for objects that are left out with
all that is in them. An entry comes before those inside its value. -/
def listing (leftOut : List (String × Value) → Bool) : Value → List (String × Value)
  | .scalar _ => []
  | .array items => listingOfItems leftOut items
  | .object entries => if leftOut entries then [] else listingOfEntries leftOut entries

/-- The entries in the items of an array. -/
def listingOfItems (leftOut : List (String × Value) → Bool) :
    List Value → List (String × Value)
  | [] => []
  | v :: rest => listing leftOut v ++ listingOfItems leftOut rest

/-- The entries of an object with those inside their values. -/
def listingOfEntries (leftOut : List (String × Value) → Bool) :
    List (String × Value) → List (String × Value)
  | [] => []
  | (key, v) :: rest => (key, v) :: (listing leftOut v ++ listingOfEntries leftOut rest)

end

/-- Whether the only entry of an object is a `$ref` string. -/
def isReference : List (String × Value) → Bool
  | [(key, .scalar (.string _))] => key == "$ref"
  | _ => false

theorem isReference_iff {entries : List (String × Value)} :
    isReference entries = true ↔ ∃ target, entries = [("$ref", .scalar (.string target))] := by
  unfold isReference
  split <;> simp_all

variable {leftOut : List (String × Value) → Bool}

theorem listingOfItems_eq_flatMap (items : List Value) :
    listingOfItems leftOut items = items.flatMap (listing leftOut) := by
  induction items with
  | nil => rfl
  | cons v rest ih => rw [listingOfItems, ih, List.flatMap_cons]

theorem listingOfEntries_eq_flatMap (entries : List (String × Value)) :
    listingOfEntries leftOut entries = entries.flatMap fun e => e :: listing leftOut e.2 := by
  induction entries with
  | nil => rfl
  | cons e rest ih => rw [listingOfEntries, ih, List.flatMap_cons, List.cons_append]

/-- References have no entry of any other name. -/
theorem lookup_listing_isReference {name : String} (hname : name ≠ "$ref") (v : Value) :
    (v.listing isReference).lookup name = (v.listing fun _ => false).lookup name := by
  induction v with
  | scalar a => rfl
  | array items ih =>
    rw [listing, listing, listingOfItems_eq_flatMap, listingOfItems_eq_flatMap]
    exact Entries.lookup_flatMap_congr ih
  | object entries ih =>
    rw [listing, listing, if_neg Bool.false_ne_true, listingOfEntries_eq_flatMap,
      listingOfEntries_eq_flatMap]
    split
    · next href =>
      obtain ⟨target, rfl⟩ := isReference_iff.1 href
      simp [listing, Entries.lookup_cons_eq_ite, hname]
    · refine Entries.lookup_flatMap_congr fun e he => ?_
      rw [Entries.lookup_cons_eq_ite, Entries.lookup_cons_eq_ite, ih e he]

end Json.Value

namespace Node

/-! ## From a document to its node -/

/-- An object is read as a reference if its only entry is a `$ref` string. -/
theorem target?_eq_none_iff {entries : List (String × Value)} :
    target? entries = none ↔ Value.isReference entries = false := by
  rw [← Bool.not_eq_true, Value.isReference_iff, Option.eq_none_iff_forall_ne_some, not_exists]
  exact forall_congr' fun target => not_congr target?_eq_some_iff

/-- The entries of the node of a value are the nodes of the value's entries, references aside. -/
theorem listing_ofValue (v : Value) :
    (ofValue v).listing = (v.listing Value.isReference).map fun e => (e.1, ofValue e.2) := by
  induction v with
  | scalar a => rfl
  | array items ih =>
    rw [ofValue, listing, Value.listing, ofItems_eq_map, listingOfItems_eq_flatMap,
      Value.listingOfItems_eq_flatMap, List.flatMap_map, List.map_flatMap]
    exact List.flatMap_congr ih
  | object entries ih =>
    rw [ofValue, Value.listing]
    cases htarget : target? entries with
    | some target =>
      rw [if_pos (Value.isReference_iff.2 ⟨target, target?_eq_some_iff.1 htarget⟩)]
      rfl
    | none =>
      rw [if_neg (Bool.not_eq_true _ ▸ target?_eq_none_iff.1 htarget)]
      dsimp only
      rw [listing, ofEntries_eq_map, listingOfEntries_eq_flatMap,
        Value.listingOfEntries_eq_flatMap, List.flatMap_map, List.map_flatMap]
      exact List.flatMap_congr fun e he => by rw [List.map_cons, ih e he]

/-- The objects that stand in the node of a value are the nodes of those that stand in the value,
references aside. -/
theorem occursIn_object_ofValue_iff {children : List (String × Node)} {v : Value} :
    OccursIn (.object children) (ofValue v) ↔
      ∃ entries, Value.OccursIn (.object entries) v ∧ Value.isReference entries = false ∧
        children = ofEntries entries := by
  induction v with
  | scalar a => simp [ofValue, occursIn_scalar_iff, Value.object_occursIn_scalar]
  | array items ih =>
    rw [ofValue, ofItems_eq_map, occursIn_array_iff]
    simp only [reduceCtorEq, false_or, List.mem_map, Value.object_occursIn_array_iff]
    constructor
    · rintro ⟨_, ⟨v, hv, rfl⟩, hin⟩
      obtain ⟨entries, hoccurs, hrest⟩ := (ih v hv).1 hin
      exact ⟨entries, ⟨v, hv, hoccurs⟩, hrest⟩
    · rintro ⟨entries, ⟨v, hv, hoccurs⟩, hrest⟩
      exact ⟨_, ⟨v, hv, rfl⟩, (ih v hv).2 ⟨entries, hoccurs, hrest⟩⟩
  | object outer ih =>
    rw [ofValue]
    cases htarget : target? outer with
    | some target =>
      -- A reference holds no object, and what it is written as holds only itself.
      obtain rfl := target?_eq_some_iff.1 htarget
      constructor
      · intro hin
        cases occursIn_reference_iff.1 hin
      · rintro ⟨entries, hoccurs, href, -⟩
        rcases Value.object_occursIn_object_iff.1 hoccurs with rfl | ⟨e, he, hinner⟩
        · cases href
        · obtain rfl := List.mem_singleton.1 he
          exact absurd hinner Value.object_occursIn_scalar
    | none =>
      dsimp only
      rw [occursIn_object_iff, Node.object.injEq, ofEntries_eq_map]
      simp only [List.mem_map, exists_exists_and_eq_and, Value.object_occursIn_object_iff]
      constructor
      · rintro (rfl | ⟨e, he, hin⟩)
        · exact ⟨outer, .inl rfl, target?_eq_none_iff.1 htarget, (ofEntries_eq_map outer).symm⟩
        · obtain ⟨entries, hoccurs, hrest⟩ := (ih e he).1 hin
          exact ⟨entries, .inr ⟨e, he, hoccurs⟩, hrest⟩
      · rintro ⟨entries, rfl | ⟨e, he, hoccurs⟩, hrest⟩
        · exact .inl (hrest.2.trans (ofEntries_eq_map entries))
        · exact .inr ⟨e, he, (ih e he).2 ⟨entries, hoccurs, hrest⟩⟩

theorem keys_ofEntries (entries : List (String × Value)) :
    Entries.keys (ofEntries entries) = Entries.keys entries := by
  rw [ofEntries_eq_map, Entries.keys, List.map_map]
  rfl

/-! ## The search -/

/-- A search in the node of a value is a look-up in the listing of the value without references. -/
theorem find?_ofValue_eq_lookup (v : Value) (name : String) :
    (ofValue v).find? name = ((v.listing Value.isReference).lookup name).map ofValue := by
  rw [find?_eq_lookup_listing, listing_ofValue, Entries.lookup_map]

/-- A search in the node of a value finds nothing if no object that stands in the value has the name
for a key, references aside. -/
theorem find?_ofValue_eq_none_iff {v : Value} {name : String} :
    (ofValue v).find? name = none ↔ ∀ entries, Value.OccursIn (.object entries) v →
      Value.isReference entries = false → name ∉ Entries.keys entries := by
  rw [find?_eq_none_iff]
  constructor
  · intro h entries hoccurs href
    rw [← keys_ofEntries]
    exact h _ (occursIn_object_ofValue_iff.2 ⟨entries, hoccurs, href, rfl⟩)
  · intro h children hin
    obtain ⟨entries, hoccurs, href, rfl⟩ := occursIn_object_ofValue_iff.1 hin
    rw [keys_ofEntries]
    exact h entries hoccurs href

/-- A search for any name but `$ref` finds the first entry of the name among all entries of the
document, and nothing if no object in the document has the name for a key. For `$ref` that is so of
the entries beside those of objects with a `$ref` string and nothing else. -/
theorem find?_ofValue (v : Value) :
    (∀ name, name ≠ "$ref" →
      (ofValue v).find? name = ((v.listing fun _ => false).lookup name).map ofValue ∧
      ((ofValue v).find? name = none ↔
        ∀ entries, Value.OccursIn (.object entries) v → name ∉ Entries.keys entries)) ∧
    (ofValue v).find? "$ref" = ((v.listing Value.isReference).lookup "$ref").map ofValue ∧
    ((ofValue v).find? "$ref" = none ↔
      ∀ entries, Value.OccursIn (.object entries) v →
        (∀ target, entries ≠ [("$ref", .scalar (.string target))]) →
        "$ref" ∉ Entries.keys entries) := by
  refine ⟨fun name hname => ⟨?_, ?_⟩, find?_ofValue_eq_lookup v "$ref", ?_⟩
  · rw [find?_ofValue_eq_lookup, Value.lookup_listing_isReference hname]
  · rw [find?_ofValue_eq_none_iff]
    refine forall_congr' fun entries => forall_congr' fun _ => ⟨fun h => ?_, fun h _ => h⟩
    by_cases href : Value.isReference entries = true
    · obtain ⟨target, rfl⟩ := Value.isReference_iff.1 href
      simpa using hname
    · exact h (by simpa using href)
  · rw [find?_ofValue_eq_none_iff]
    refine forall_congr' fun entries => forall_congr' fun _ => imp_congr_left ?_
    rw [← Bool.not_eq_true, Value.isReference_iff, not_exists]

/-- A deeper entry that comes earlier is found. A reference is passed over, an object with a `$ref`
string and another entry is not. -/
theorem find?_ofValue_references :
    let document : Value := .object
      [("a", .array [.object [("$ref", .string "#/a")]]),
        ("b", .object [("$ref", .string "#/b"), ("id", .array [.object [("id", .string "c")]])]),
        ("id", .string "d")]
    "id" ≠ "$ref" ∧
      (ofValue document).find? "id" = some (.array [.object [("id", .scalar (.string "c"))]]) ∧
      (ofValue document).find? "$ref" = some (.scalar (.string "#/b")) := by
  intro document
  obtain ⟨hother, href, -⟩ := find?_ofValue document
  have hname : "id" ≠ "$ref" := by decide
  exact ⟨hname, (hother "id" hname).1.trans rfl, href.trans rfl⟩

end Node

end SchemaRules
