import SchemaRules.Proofs.Json.Documents
import SchemaRules.Proofs.Schema.Tree

/-!
# From documents to nodes and back

A node has one shape more than a value: the reference. So a value always comes back from its node,
but a node may hold an object that, written as a value, is read as a reference. Such an object is
disguised. No node of a value has one, and the other nodes are the ones that come back.

* `Node.Undisguised`: no disguised object stands in a node.
* `toValue_ofValue`, `undisguised_ofValue`: from a value to its node.
* `ofValue_toValue_iff`: from a node to its value.
* `same_ofValue_toValue_iff`: the same where nodes are compared without the order of entries.
* `conversions_inverse`: all of it.
* `read_compact_of_read`: a node that is read of a text is read again from its compact text, in
  which blanks, needless escapes and overwritten entries are gone.
-/

namespace SchemaRules

open Json (Scalar Value)

namespace Node

/-- An object whose only entry is a `$ref` string. Its value is that of a reference. -/
def Disguised (n : Node) : Prop :=
  ∃ target, n = .object [("$ref", .scalar (.string target))]

/-- No disguised object stands in a node. -/
def Undisguised (n : Node) : Prop :=
  ∀ m : Node, m.OccursIn n → ¬m.Disguised

theorem undisguised_scalar (a : Scalar) : Undisguised (.scalar a) := by
  intro m hm
  rw [occursIn_scalar_iff.1 hm]
  rintro ⟨target, h⟩
  cases h

theorem undisguised_reference (target : String) : Undisguised (.reference target) := by
  intro m hm
  rw [occursIn_reference_iff.1 hm]
  rintro ⟨target, h⟩
  cases h

theorem undisguised_array_iff {items : List Node} :
    Undisguised (.array items) ↔ ∀ n ∈ items, n.Undisguised := by
  constructor
  · intro h n hn m hm
    exact h m (.item hn hm)
  · intro h m hm
    rcases occursIn_array_iff.1 hm with rfl | ⟨n, hn, hm⟩
    · rintro ⟨target, h⟩
      cases h
    · exact h n hn m hm

theorem undisguised_object_iff {entries : List (String × Node)} :
    Undisguised (.object entries) ↔
      ¬Disguised (.object entries) ∧ ∀ e ∈ entries, e.2.Undisguised := by
  constructor
  · intro h
    exact ⟨h _ .here, fun e he m hm => h m (.entry he hm)⟩
  · rintro ⟨hself, h⟩ m hm
    rcases occursIn_object_iff.1 hm with rfl | ⟨e, he, hm⟩
    · exact hself
    · exact h e he m hm

/-! ## References -/

theorem target?_eq_some_iff {entries : List (String × Value)} {target : String} :
    target? entries = some target ↔ entries = [("$ref", .scalar (.string target))] := by
  constructor
  · intro h
    unfold target? at h
    split at h
    · next key found =>
      split at h
      · next hkey =>
        obtain rfl : found = target := by simpa using h
        rw [hkey, refKey]
      · cases h
    · cases h
  · rintro rfl
    rfl

theorem toValue_eq_string_iff {n : Node} {s : String} :
    n.toValue = .scalar (.string s) ↔ n = .scalar (.string s) := by
  cases n with
  | scalar a => simp [toValue]
  | array items => simp [toValue]
  | object entries => simp [toValue]
  | reference target => simp [toValue]

/-- The value of an object is read as a reference if the object is disguised, and only then. -/
theorem target?_toEntries_eq_some_iff {entries : List (String × Node)} {target : String} :
    target? (toEntries entries) = some target ↔
      entries = [("$ref", .scalar (.string target))] := by
  rw [target?_eq_some_iff, toEntries_eq_map]
  constructor
  · intro h
    obtain ⟨e, rfl, he⟩ := List.map_eq_singleton_iff.1 h
    obtain ⟨key, n⟩ := e
    obtain ⟨hkey, hn⟩ := Prod.mk.inj he
    have hscalar : n = .scalar (.string target) := toValue_eq_string_iff.1 hn
    rw [hscalar, show key = "$ref" from hkey]
  · rintro rfl
    rfl

theorem target?_toEntries_eq_none {entries : List (String × Node)}
    (h : ¬Disguised (.object entries)) : target? (toEntries entries) = none := by
  cases htarget : target? (toEntries entries) with
  | none => rfl
  | some target =>
    have hentries := target?_toEntries_eq_some_iff.1 htarget
    exact absurd ⟨target, by rw [hentries]⟩ h

/-! ## From a value to its node -/

/-- Nothing of a value is lost in its node. -/
theorem toValue_ofValue (v : Value) : (ofValue v).toValue = v := by
  induction v with
  | scalar a => rfl
  | array items ih =>
    have hitems : items.map (fun v => (ofValue v).toValue) = items := by
      rw [List.map_congr_left ih, List.map_id']
    rw [ofValue, toValue, ofItems_eq_map, toItems_eq_map, List.map_map]
    exact congrArg Value.array hitems
  | object entries ih =>
    rw [ofValue]
    cases htarget : target? entries with
    | some target =>
      rw [target?_eq_some_iff.1 htarget]
      rfl
    | none =>
      have hentries : entries.map (fun e => (e.1, (ofValue e.2).toValue)) = entries := by
        rw [List.map_congr_left fun e he => by rw [ih e he], List.map_id']
      simp only [toValue, ofEntries_eq_map, toEntries_eq_map, List.map_map]
      exact congrArg Value.object hentries

/-- No disguised object stands in the node of a value. -/
theorem undisguised_ofValue (v : Value) : (ofValue v).Undisguised := by
  induction v with
  | scalar a => exact undisguised_scalar a
  | array items ih =>
    rw [ofValue, ofItems_eq_map, undisguised_array_iff]
    intro n hn
    obtain ⟨v, hv, rfl⟩ := List.mem_map.1 hn
    exact ih v hv
  | object entries ih =>
    rw [ofValue]
    cases htarget : target? entries with
    | some target => exact undisguised_reference target
    | none =>
      refine undisguised_object_iff.2 ⟨?_, ?_⟩
      · -- A disguised object would have the value of a reference, and that value was read.
        rintro ⟨target, hobject⟩
        have hentries := target?_toEntries_eq_some_iff.2 (Node.object.inj hobject)
        have hback := toValue_ofValue (.object entries)
        simp only [ofValue, htarget, toValue] at hback
        rw [Value.object.inj hback, htarget] at hentries
        cases hentries
      · intro e he
        rw [ofEntries_eq_map] at he
        obtain ⟨old, hold, rfl⟩ := List.mem_map.1 he
        exact ih old hold

/-! ## From a node to its value -/

theorem ofValue_toValue {n : Node} (h : n.Undisguised) : ofValue n.toValue = n := by
  induction n with
  | scalar a => rfl
  | array items ih =>
    have hitems : items.map (fun n => ofValue n.toValue) = items := by
      rw [List.map_congr_left fun n hn => ih n hn (undisguised_array_iff.1 h n hn), List.map_id']
    rw [toValue, ofValue, toItems_eq_map, ofItems_eq_map, List.map_map]
    exact congrArg Node.array hitems
  | object entries ih =>
    obtain ⟨hself, hinner⟩ := undisguised_object_iff.1 h
    have hentries : entries.map (fun e => (e.1, ofValue e.2.toValue)) = entries := by
      rw [List.map_congr_left fun e he => by rw [ih e he (hinner e he)], List.map_id']
    simp only [toValue, ofValue, target?_toEntries_eq_none hself]
    rw [toEntries_eq_map, ofEntries_eq_map, List.map_map]
    exact congrArg Node.object hentries
  | reference target => rfl

/-- A node comes back from its value if no disguised object stands in it, and only then. -/
theorem ofValue_toValue_iff (n : Node) : ofValue n.toValue = n ↔ n.Undisguised := by
  constructor
  · intro h
    rw [← h]
    exact undisguised_ofValue n.toValue
  · exact ofValue_toValue

/-! ## The order of entries aside -/

theorem same_refl {n : Node} (h : n.DistinctKeys) : n.same n = true := by
  induction n with
  | scalar a => exact a.sameValue_refl
  | array items ih =>
    rw [same, sameItems_iff, List.forall₂_same]
    exact fun n hn => ih n hn (distinctKeys_array_iff.1 h n hn)
  | object entries ih =>
    obtain ⟨hnodup, hinner⟩ := distinctKeys_object_iff.1 h
    rw [same, Bool.and_eq_true, sameEntries_iff]
    refine ⟨beq_self_eq_true _, fun e he => ⟨e.2, ?_, ih e he (hinner e he)⟩⟩
    exact Entries.lookup_of_mem hnodup he
  | reference target => exact beq_self_eq_true target

theorem undisguised_of_same {n : Node} (hkeys : n.DistinctKeys)
    (h : (ofValue n.toValue).same n = true) : n.Undisguised := by
  induction n with
  | scalar a => exact undisguised_scalar a
  | array items ih =>
    rw [toValue, ofValue, toItems_eq_map, ofItems_eq_map, List.map_map, same, sameItems_iff,
      List.forall₂_map_left_iff, List.forall₂_same] at h
    have hinner := distinctKeys_array_iff.1 hkeys
    exact undisguised_array_iff.2 fun n hn => ih n hn (hinner n hn) (h n hn)
  | object entries ih =>
    obtain ⟨hnodup, hinner⟩ := distinctKeys_object_iff.1 hkeys
    rw [toValue, ofValue] at h
    cases htarget : target? (toEntries entries) with
    | some target =>
      rw [htarget] at h
      cases h
    | none =>
      simp only [htarget, same, Bool.and_eq_true, sameEntries_iff] at h
      refine undisguised_object_iff.2 ⟨?_, fun e he => ?_⟩
      · rintro ⟨target, hobject⟩
        rw [target?_toEntries_eq_some_iff.2 (Node.object.inj hobject)] at htarget
        cases htarget
      · -- The keys are distinct, so the entry is compared with itself.
        have hmem : (e.1, ofValue e.2.toValue) ∈ ofEntries (toEntries entries) := by
          rw [toEntries_eq_map, ofEntries_eq_map, List.map_map]
          exact List.mem_map.2 ⟨e, he, rfl⟩
        obtain ⟨n, hlookup, hsame⟩ := h.2 _ hmem
        rw [Entries.lookup_of_mem hnodup he] at hlookup
        cases hlookup
        exact ih e he (hinner e he) hsame
  | reference target => exact undisguised_reference target

theorem same_ofValue_toValue_iff {n : Node} (hkeys : n.DistinctKeys) :
    (ofValue n.toValue).same n = true ↔ n.Undisguised := by
  constructor
  · exact undisguised_of_same hkeys
  · intro h
    rw [ofValue_toValue h]
    exact same_refl hkeys

/-! ## Both directions -/

/-- A value comes back from its node as it was, and no disguised object stands in the node. A node
comes back from its value if no disguised object stands in it, and only then: as it was, and also
if nodes without a key that comes twice are compared without the order of their entries. -/
theorem conversions_inverse :
    (∀ v : Value, (ofValue v).toValue = v ∧
      ∀ m target, OccursIn m (ofValue v) → m ≠ .object [("$ref", .scalar (.string target))]) ∧
    (∀ n : Node, ofValue n.toValue = n ↔
      ∀ m target, OccursIn m n → m ≠ .object [("$ref", .scalar (.string target))]) ∧
    ∀ n : Node, n.DistinctKeys → ((ofValue n.toValue).same n = true ↔
      ∀ m target, OccursIn m n → m ≠ .object [("$ref", .scalar (.string target))]) := by
  have hdisguised : ∀ n : Node, n.Undisguised ↔
      ∀ m target, OccursIn m n → m ≠ .object [("$ref", .scalar (.string target))] := by
    intro n
    exact ⟨fun h m target hm heq => h m hm ⟨target, heq⟩,
      fun h m hm ⟨target, heq⟩ => h m target hm heq⟩
  refine ⟨fun v => ⟨toValue_ofValue v, (hdisguised _).1 (undisguised_ofValue v)⟩,
    fun n => ?_, fun n hkeys => ?_⟩
  · rw [← hdisguised, ofValue_toValue_iff]
  · rw [← hdisguised, same_ofValue_toValue_iff hkeys]

/-- A reference comes back, and so does an object with a `$ref` string and another entry. A
disguised object does not, however deep it stands. -/
theorem conversions_inverse_deep :
    let plain : Node := .object [("a", .array [.reference "#/b"]), ("$ref", .scalar (.string "#"))]
    let deep : Node := .array [.object [("a", .object [("$ref", .scalar (.string "#/b"))])]]
    (plain.DistinctKeys ∧ (ofValue plain.toValue).same plain = true) ∧
      deep.DistinctKeys ∧ (ofValue deep.toValue).same deep = false := by
  intro plain deep
  have hplain : plain.DistinctKeys := by simp [plain]
  have hdeep : deep.DistinctKeys := by simp [deep]
  refine ⟨⟨hplain, (conversions_inverse.2.2 plain hplain).2 ?_⟩, hdeep, ?_⟩
  · intro m target hm
    simp only [plain, occursIn_object_iff, occursIn_array_iff, occursIn_reference_iff,
      occursIn_scalar_iff, List.mem_cons, List.not_mem_nil, or_false, exists_eq_or_imp,
      exists_eq_left] at hm
    rcases hm with rfl | (rfl | rfl) | rfl <;> simp
  · rw [← Bool.not_eq_true, conversions_inverse.2.2 deep hdeep]
    intro h
    exact h _ "#/b" (.item List.mem_cons_self (.entry List.mem_cons_self .here)) rfl

/-! ## Texts -/

/-- A text is read as the node of the value that it is read as. -/
theorem read_eq_ok_iff_value {source : String} {n : Node} :
    Node.read source = .ok n ↔ ∃ v, Json.Value.read source = .ok v ∧ ofValue v = n := by
  unfold Node.read
  cases Json.Value.read source with
  | error e => simp [Except.map]
  | ok v => simp [Except.map]

/-- A node that is read of a text in which every number is an integer of 64 bits is read again from
its compact text, with its keys in the same order at every depth, and is printed as the same
text. -/
theorem read_compact_of_read {source : String} {n : Node} (hread : Node.read source = .ok n)
    (hnumbers : Json.HasIntegers source.toList) :
    Node.read n.compact = .ok n ∧ (Node.read n.compact).map compact = .ok n.compact := by
  obtain ⟨v, hv, rfl⟩ := read_eq_ok_iff_value.1 hread
  have hexact : v.Exact Json.maxDepth := Json.exact_of_read hnumbers hv
  have hagain : Node.read (ofValue v).compact = .ok (ofValue v) := by
    rw [compact, toValue_ofValue, read_eq_ok_iff_value]
    exact ⟨v, Json.read_compact hexact, rfl⟩
  exact ⟨hagain, by rw [hagain]; rfl⟩

/-- The last value of a key stands in the place of the first. Escapes become characters, and a
reference stays apart from an object with a `$ref` string and another entry. -/
theorem read_compact_of_read_rewritten :
    let source := "\x7b\"b\": 1, \"a\\/\": [\x7b\"$ref\": \"\\u00e9\\ud83d\\ude00\\n\\u0001\"\x7d,
      -9223372036854775808], \"b\": \x7b\"$ref\": \"#\", \"\": [18446744073709551615, 0]\x7d\x7d"
    let node : Node := .object [
      ("b", .object [("$ref", .scalar (.string "#")),
        ("", .array [.scalar (.number (.int 18446744073709551615)), .scalar (.number (.int 0))])]),
      ("a/", .array [.reference "é😀\n\x01", .scalar (.number (.int (-9223372036854775808)))])]
    (Node.read source = .ok node ∧ Json.HasIntegers source.toList) ∧
      Node.read node.compact = .ok node ∧
      (Node.read node.compact).map compact = .ok node.compact := by
  intro source node
  have hread : Node.read source = .ok node := by
    simp only [source, node]
    decide +kernel
  have hnumerals : Json.numerals source.toList =
      [1, -9223372036854775808, 18446744073709551615, 0].map Json.Number.intText := by
    simp only [source]
    decide +kernel
  have hnumbers : Json.HasIntegers source.toList := by
    intro numeral hnumeral
    rw [hnumerals] at hnumeral
    obtain ⟨k, hk, rfl⟩ := List.mem_map.1 hnumeral
    have hall : ∀ k ∈ [1, -9223372036854775808, 18446744073709551615, 0], Json.IsInt64 k := by
      decide
    exact ⟨k, hall k hk, rfl⟩
  exact ⟨⟨hread, hnumbers⟩, read_compact_of_read hread hnumbers⟩

end Node

end SchemaRules
