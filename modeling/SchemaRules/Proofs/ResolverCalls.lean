import SchemaRules.Proofs.Schema.Listing
import SchemaRules.Suppression

/-!
# The calls of a resolver

Marking asks a resolver for the field of each property that the list names. Which calls it makes,
with which schemas and in which order, can be read off the schema and the list: it depends neither
on the model nor on the answers.

* `Suppression.calls`: the calls.
* `Suppression.applyDirectives_eq_mapM`: marking makes the calls, and then marks.
* `Suppression.run_applyDirectives_recorded`: a resolver that writes its calls down writes these.
-/

namespace SchemaRules

namespace Suppression

/-- A call of a resolver: the name of a property, and the schema of the property if there is
one. -/
abbrev Call := String × Option Node

/-- The property that an entry names: a string names itself, an object its first key, and no other
entry names a property. -/
def named? : Node → Option String
  | .scalar (.string name) => some name
  | .object ((name, _) :: _) => some name
  | _ => none

/-- The schema of a property: the child of its name directly in the object `properties`, else the
first entry of its name that is listed below `properties`. -/
def foundBelow (root : Node) (name : String) : Option Node :=
  match root.get? "properties" with
  | none => none
  | some properties =>
    match properties with
    | .object children => (children.lookup name).or (properties.listing.lookup name)
    | _ => properties.listing.lookup name

/-- The calls for a list: one for each entry that names a property, in the order of the entries. -/
def calls (root list : Node) : List Call :=
  (list.elements.filterMap named?).map fun name => (name, foundBelow root name)

theorem directiveName?_eq_named? (entry : Node) : directiveName? entry = named? entry := by
  cases entry with
  | scalar a => cases a <;> rfl
  | array items => rfl
  | object entries => cases entries <;> rfl
  | reference target => rfl

theorem propertyNode?_eq_foundBelow (root : Node) (name : String) :
    propertyNode? root name = foundBelow root name := by
  unfold propertyNode? foundBelow Node.properties?
  cases root.get? "properties" with
  | none => rfl
  | some properties =>
    simp only [Option.bind_eq_bind, Option.bind_some, Node.find?_eq_lookup_listing]
    cases properties with
    | object children => rfl
    | _ => exact Option.none_or

section

variable {μ : Type → Type} [Monad μ] [LawfulMonad μ]

/-- An entry that names a property makes one call, and no other entry makes any. -/
theorem applyDirective_eq_named (resolve : Resolver μ) (root : Node) (m : Model) (entry : Node) :
    applyDirective resolve root m entry =
      match named? entry with
      | none => pure m
      | some name => mark m <$> resolve name (foundBelow root name) := by
  rw [applyDirective, directiveName?_eq_named?]
  cases named? entry with
  | none => rfl
  | some name =>
    dsimp only
    rw [propertyNode?_eq_foundBelow, bind_pure_comp]

/-- Marking makes the calls in their order, whatever they answer, and marks the fields that they
answer. -/
theorem applyDirectives_eq_mapM (resolve : Resolver μ) (root list : Node) (m : Model) :
    applyDirectives resolve root list m =
      (fun fields => fields.foldl mark m) <$>
        (calls root list).mapM fun call => resolve call.1 call.2 := by
  unfold applyDirectives calls
  induction list.elements generalizing m with
  | nil => simp
  | cons entry rest ih =>
    rw [List.foldlM_cons, applyDirective_eq_named, List.filterMap_cons]
    cases named? entry with
    | none =>
      dsimp only
      rw [pure_bind, ih]
    | some name => simp [ih]

/-- A resolver that also writes its calls down, one after the other. -/
def recorded (resolve : Resolver μ) : Resolver (StateT (List Call) μ) := fun name node => do
  modify fun log => log ++ [(name, node)]
  resolve name node

theorem run_mapM_recorded (resolve : Resolver μ) (wanted log : List Call) :
    (wanted.mapM fun call => recorded resolve call.1 call.2).run log =
      (fun fields => (fields, log ++ wanted)) <$>
        wanted.mapM fun call => resolve call.1 call.2 := by
  induction wanted generalizing log with
  | nil => simp
  | cons call rest ih =>
    rw [List.mapM_cons, List.mapM_cons, StateT.run_bind, recorded]
    simp [ih]

end

/-- Whatever monad a resolver acts in, whatever it answers and whatever the model is, marking calls
it once for each entry that names a property, in the order of the list. A call has the schema that
is found for the property. -/
theorem run_applyDirectives_recorded {μ : Type → Type} [Monad μ] [LawfulMonad μ]
    (resolve : Resolver μ) (root list : Node) (m : Model) (log : List Call) :
    (applyDirectives (recorded resolve) root list m).run log =
      (fun last => (last, log ++ calls root list)) <$> applyDirectives resolve root list m := by
  rw [applyDirectives_eq_mapM, applyDirectives_eq_mapM, StateT.run_map, run_mapM_recorded,
    Functor.map_map, Functor.map_map]

/-- A resolver that numbers its answers. -/
def numbered : Resolver (StateM Nat) := fun name _ => do
  modify (· + 1)
  return name ++ Nat.repr (← get)

/-- A child of `properties` is found before an entry of its name that is listed earlier, a deeper
entry is found by the search, and four entries that name no property make no call. -/
theorem run_applyDirectives_recorded_numbered :
    let root : Node := .object [("properties", .object
      [("owner", .array [.object [("id", .scalar .null), ("token", .reference "#/token")]]),
        ("id", .scalar (.bool true))])]
    let list : Node := .array
      [.object [("id", .array []), ("owner", .scalar .null)], .scalar .null, .object [], .array [],
        .scalar (.string "token"), .reference "id", .scalar (.string "none"),
        .scalar (.string "id")]
    let m : Model := ⟨"M", [⟨"id1", "T", "", []⟩]⟩
    LawfulMonad (StateM Nat) ∧ (applyDirectives (recorded numbered) root list m).run [] =
      (fun last => (last, [("id", some (.scalar (.bool true))),
        ("token", some (.reference "#/token")), ("none", none),
        ("id", some (.scalar (.bool true)))])) <$> applyDirectives numbered root list m := by
  intro root list m
  exact ⟨inferInstance, run_applyDirectives_recorded numbered root list m []⟩

end Suppression

end SchemaRules
