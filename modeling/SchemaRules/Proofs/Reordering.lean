import SchemaRules.Proofs.Marking
import SchemaRules.Proofs.Schema.Equality
import SchemaRules.Proofs.Schema.Listing

/-!
# Schemas whose entries are reordered

Two places of the rule look at the order of entries: an object in the list names its first key, and
the search below `properties` takes the first value of a name. Where every entry of the list is
settled, that is, has at most one key and names a property that the search is not asked for or does
not find, two schemas that are equal but for the order of entries mark the same fields.

* `Suppression.Placed`, `Suppression.Settled`: the properties and entries whose meaning has nothing
  to do with the order.
* `rel_propertyNode?`: the schema that is found for a property.
* `applyDirective_eq_of_alike`, `foldl_applyDirective_eq_of_alike`: one entry, and a whole list, for
  any resolver that is blind to the order of entries.
* `propertyName_eq_of_alike`: the names of a configuration are blind to it.
* `suppress_eq_of_alike`: the whole rule.
-/

namespace SchemaRules

open Node (Alike)

namespace Suppression

/-- A property's schema is a direct child of the object `properties`, or no object anywhere below
`properties` has the property's name for a key. -/
def Placed (root : Node) (name : String) : Prop :=
  (∃ children, root.get? "properties" = some (.object children) ∧ name ∈ Entries.keys children) ∨
    ∀ properties, root.get? "properties" = some properties →
      ∀ entries, Node.OccursIn (.object entries) properties → name ∉ Entries.keys entries

/-- An entry names no property, or it is a string or an object with one key, and the property that
it names is placed. -/
def Settled (root : Node) : Node → Prop
  | .scalar (.string name) => Placed root name
  | .object [] => True
  | .object [(name, _)] => Placed root name
  | .object _ => False
  | _ => True

section

variable {root other : Node}

/-- No key below `properties` is a name in one of two equal schemas if it is none in the other. -/
theorem find?_eq_none_of_alike {m n : Node} (hm : m.DistinctKeys) (h : m.Alike n) {name : String}
    (hnone : m.find? name = none) : n.find? name = none := by
  rw [Node.find?_eq_none_iff] at hnone ⊢
  intro entries hin hname
  obtain ⟨inner, hinner, halike⟩ := Node.exists_occursIn_of_alike hm h hin
  obtain ⟨others, rfl, hlength, hsame⟩ := Node.alike_object_iff.1 halike
  have hperm := Node.keys_perm_of_sameEntries (hm others hinner) hlength hsame
  exact hnone others hinner (hperm.mem_iff.2 hname)

theorem get?_eq_none_of_find? {n : Node} {name : String} (h : n.find? name = none) :
    n.get? name = none := by
  cases n with
  | object entries =>
    exact Entries.lookup_eq_none_iff_notMem.2 (Node.find?_eq_none_iff.1 h entries .here)
  | _ => rfl

/-- For a property that is placed, equal schemas have equal schemas of the property, or none. -/
theorem rel_propertyNode? (hroot : root.DistinctKeys) (h : root.Alike other) {name : String}
    (hplaced : Placed root name) :
    Option.Rel (fun m n => m.DistinctKeys ∧ m.Alike n)
      (propertyNode? root name) (propertyNode? other name) := by
  have hproperties := Node.rel_get? hroot h "properties"
  unfold propertyNode? Node.properties?
  unfold Placed at hplaced
  generalize hp : root.get? "properties" = p?, other.get? "properties" = q? at *
  cases hproperties with
  | none => exact .none
  | @some p q halike =>
    have hkeys : p.DistinctKeys := hroot.of_get? hp
    simp only [Option.bind_eq_bind, Option.bind_some]
    rcases hplaced with ⟨children, hchildren, hname⟩ | habsent
    · obtain rfl : p = .object children := Option.some.inj hchildren
      have hchild := Node.rel_get? hkeys halike name
      generalize hc : Node.get? (.object children) name = m?, q.get? name = n? at *
      cases hchild with
      | none => exact absurd hname (Entries.lookup_eq_none_iff_notMem.1 hc)
      | @some m n hmn => exact .some ⟨hkeys.of_get? hc, hmn⟩
    · have hnone : p.find? name = none := Node.find?_eq_none_iff.2 (habsent p rfl)
      have hother := find?_eq_none_of_alike hkeys halike hnone
      rw [get?_eq_none_of_find? hnone, get?_eq_none_of_find? hother, hnone, hother]
      exact .none

/-- An entry that is settled names the same property in whatever order it is written. -/
theorem directiveName?_eq_of_alike {entry entry' : Node} (hsettled : Settled root entry)
    (h : entry.Alike entry') : directiveName? entry = directiveName? entry' := by
  cases entry' with
  | object entries =>
    obtain ⟨others, rfl, hlength, hsame⟩ := Node.alike_object_iff.1 h
    match others, entries, hlength with
    | [], [], _ => rfl
    | [(key, m)], [(key', n)], _ =>
      have hkeys := Node.keys_perm_of_sameEntries (a := [(key, m)]) (b := [(key', n)])
        (by simp) rfl hsame
      obtain rfl : key = key' := by simpa [Entries.keys] using hkeys
      rfl
    | _ :: _ :: _, _, _ => exact hsettled.elim
  | array items =>
    obtain ⟨others, rfl, -⟩ := Node.alike_array_iff.1 h
    rfl
  | scalar a =>
    have hstring := Node.string?_eq_of_alike h
    cases entry with
    | scalar b => cases a <;> cases b <;> exact hstring
    | _ => cases h
  | reference target =>
    cases entry with
    | reference other => rfl
    | _ => cases h

/-- A property that a settled entry names is placed. -/
theorem placed_of_settled {entry : Node} (hsettled : Settled root entry) {name : String}
    (hname : directiveName? entry = some name) : Placed root name := by
  cases entry with
  | scalar a =>
    cases a with
    | string s =>
      obtain rfl : s = name := Option.some.inj hname
      exact hsettled
    | _ => cases hname
  | object entries =>
    match entries with
    | [(key, _)] =>
      obtain rfl : key = name := Option.some.inj hname
      exact hsettled
    | _ :: _ :: _ => exact hsettled.elim
  | _ => cases hname

/-- The entries listed under a keyword are the items of the child that has it for a key. -/
theorem listed_eq (keyword : String) (root : Node) :
    listed keyword root = ((root.get? keyword).map Node.elements).getD [] := by
  cases root with
  | object entries =>
    simp only [listed, Node.get?]
    cases entries.lookup keyword with
    | none => rfl
    | some list => cases list <;> rfl
  | _ => rfl

variable {resolve : String → Option Node → String}

/-- One entry marks the same field in equal schemas, if it is settled and the resolver is blind to
the order of entries. -/
theorem applyDirective_eq_of_alike (hroot : root.DistinctKeys) (h : root.Alike other)
    (hresolve : ∀ name m n, m.DistinctKeys → m.Alike n →
      resolve name (some m) = resolve name (some n))
    {entry entry' : Node} (hsettled : Settled root entry) (hentry : entry.Alike entry')
    (m : Model) :
    applyDirective (μ := Id) resolve root m entry =
      applyDirective (μ := Id) resolve other m entry' := by
  unfold applyDirective
  rw [← directiveName?_eq_of_alike hsettled hentry]
  cases hname : directiveName? entry with
  | none => rfl
  | some name =>
    have hnodes := rel_propertyNode? hroot h (placed_of_settled hsettled hname)
    have hfield : resolve name (propertyNode? root name) =
        resolve name (propertyNode? other name) := by
      generalize propertyNode? root name = m?, propertyNode? other name = n? at *
      cases hnodes with
      | none => rfl
      | some hmn => exact hresolve name _ _ hmn.1 hmn.2
    exact congrArg (mark m) hfield

/-- Entries one after the other mark the same fields in equal schemas, if each is settled. -/
theorem foldl_applyDirective_eq_of_alike (hroot : root.DistinctKeys) (h : root.Alike other)
    (hresolve : ∀ name m n, m.DistinctKeys → m.Alike n →
      resolve name (some m) = resolve name (some n))
    {entries entries' : List Node} (hentries : List.Forall₂ Alike entries entries')
    (hsettled : ∀ entry ∈ entries, Settled root entry) (m : Model) :
    entries.foldl (applyDirective (μ := Id) resolve root) m =
      entries'.foldl (applyDirective (μ := Id) resolve other) m := by
  induction hentries generalizing m with
  | nil => rfl
  | cons hentry _ ih =>
    obtain ⟨hfirst, hrest⟩ := List.forall_mem_cons.1 hsettled
    rw [List.foldl_cons, List.foldl_cons,
      applyDirective_eq_of_alike hroot h hresolve hfirst hentry, ih hrest]

/-- Equal schemas list equal entries under a keyword. -/
theorem listed_alike (hroot : root.DistinctKeys) (h : root.Alike other) (keyword : String) :
    List.Forall₂ Alike (listed keyword root) (listed keyword other) := by
  have hlist := Node.rel_get? hroot h keyword
  rw [listed_eq, listed_eq]
  generalize root.get? keyword = m?, other.get? keyword = n? at *
  cases hlist with
  | none => exact .nil
  | @some m n hmn =>
    cases n with
    | array items =>
      obtain ⟨others, rfl, hsame⟩ := Node.alike_array_iff.1 hmn
      exact hsame
    | _ =>
      cases m with
      | array others => cases hmn
      | _ => exact .nil

end

end Suppression

/-! ## The names of a configuration -/

theorem Naming.propertyName_eq_of_alike (delimiters : List Char) (name : String) {m n : Node}
    (hm : m.DistinctKeys) (h : m.Alike n) :
    propertyName delimiters name (some m) = propertyName delimiters name (some n) := by
  have hexplicit : explicitName? (some m) = explicitName? (some n) := by
    have hnode := Node.rel_get? hm h fieldNameKeyword
    simp only [explicitName?, Option.bind_eq_bind, Option.bind_some]
    generalize m.get? fieldNameKeyword = m?, n.get? fieldNameKeyword = n? at *
    cases hnode with
    | none => rfl
    | some hmn => exact Node.string?_eq_of_alike hmn
  rw [propertyName, propertyName, hexplicit]

/-- Two schemas that are equal but for the order of entries leave the same model, with keyword and
names as configured, if every entry of the list is settled. -/
theorem Suppression.suppress_eq_of_alike (c : Config) {root other : Node}
    (hroot : root.DistinctKeys) (h : root.same other = true)
    (hsettled : ∀ entry ∈ listed c.ignoreKeyword root, Settled root entry) (m : Model) :
    c.suppress root m = c.suppress other m := by
  have hresolve : ∀ name m n, m.DistinctKeys → m.Alike n →
      c.resolver name (some m) = c.resolver name (some n) := by
    intro name m n hm hmn
    exact Naming.propertyName_eq_of_alike c.wordDelimiters name hm hmn
  rw [Config.suppress, Config.suppress, suppress_eq_foldl, suppress_eq_foldl]
  exact foldl_applyDirective_eq_of_alike hroot h hresolve
    (listed_alike hroot h c.ignoreKeyword) hsettled m

/-- A direct child with a field name of its own that also stands deeper, and a property that is
nowhere: both schemas mark the same two fields, although the search would find the deeper `id` in
one of them first. -/
theorem Suppression.suppress_eq_of_alike_nested :
    let list : Node := .array [.scalar (.string "id"), .object [("missing", .array [])], .object []]
    let owner : Node := .object [("id", .scalar .null)]
    let root : Node := .object [("ignoredFields", list), ("properties", .object [("owner", owner),
      ("id", .object [("type", .scalar .null), ("fieldName", .scalar (.string "key"))])])]
    let other : Node := .object [("properties", .object [
      ("id", .object [("fieldName", .scalar (.string "key")), ("type", .scalar .null)]),
      ("owner", owner)]), ("ignoredFields", list)]
    let m : Model := ⟨"M", [⟨"id", "T", "", []⟩, ⟨"key", "T", "", []⟩, ⟨"missing", "T", "", []⟩]⟩
    (root.DistinctKeys ∧ root.same other = true ∧
        ∀ entry ∈ listed "ignoredFields" root, Settled root entry) ∧
      Config.suppress {} root m = Config.suppress {} other m := by
  intro list owner root other m
  have hkeys : root.DistinctKeys := by simp [root, list, owner]
  have hsame : root.same other = true := by decide +kernel
  have hsettled : ∀ entry ∈ listed "ignoredFields" root, Settled root entry := by
    have hid : Placed root "id" := .inl ⟨_, rfl, by simp⟩
    have hmissing : Placed root "missing" := by
      refine .inr fun properties hproperties => ?_
      obtain rfl := Option.some.inj hproperties
      exact Node.find?_eq_none_iff.1 rfl
    exact List.forall_mem_cons.2 ⟨hid, List.forall_mem_cons.2 ⟨hmissing,
      List.forall_mem_singleton.2 trivial⟩⟩
  exact ⟨⟨hkeys, hsame, hsettled⟩, suppress_eq_of_alike {} hkeys hsame hsettled m⟩

end SchemaRules
