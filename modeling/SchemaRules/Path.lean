import SchemaRules.Text.Utf8

/-!
# Paths

A path is a text of bytes; slashes separate its components. Empty components and the component
`.` name nothing, while `..` stays a component of its own.

* `Path.components_join`: a joined path has the components of both parts.
* `Path.components_absolute`: the path of a list of names has those names as components.
-/

namespace SchemaRules

/-- A path as it is written. -/
structure Path where
  bytes : List UInt8
  deriving DecidableEq, Repr

namespace Path

/-- The byte between components, `/`. -/
def separator : UInt8 := 0x2F

/-- The component `.`. -/
def here : List UInt8 := [0x2E]

/-- The component `..`. -/
def parent : List UInt8 := [0x2E, 0x2E]

/-- The path of a text. -/
def ofString (s : String) : Path :=
  ⟨Utf8.encode s.toList⟩

/-- The text of a path, with `U+FFFD` for what is not UTF-8. -/
def display (p : Path) : String :=
  Utf8.lossy p.bytes

/-- Whether the path begins at the root. -/
def isAbsolute (p : Path) : Bool :=
  p.bytes.head? == some separator

/-- The path's parts between slashes, the empty ones left out. -/
def steps (p : Path) : List (List UInt8) :=
  (p.bytes.splitOn separator).filter fun c => !c.isEmpty

/-- The path's parts that name something. -/
def components (p : Path) : List (List UInt8) :=
  p.steps.filter (· != here)

/-- Whether the last byte is a slash. -/
def endsInSlash (p : Path) : Bool :=
  p.bytes.getLast? == some separator

/-- The absolute path of a list of names. -/
def absolute (names : List (List UInt8)) : Path :=
  ⟨separator :: [separator].intercalate names⟩

/-- The path `p` as seen from `base`: an absolute path is itself. -/
def join (base p : Path) : Path :=
  if p.isAbsolute then p
  else if base.bytes.isEmpty || base.endsInSlash then ⟨base.bytes ++ p.bytes⟩
  else ⟨base.bytes ++ separator :: p.bytes⟩

theorem steps_append (a b : List UInt8) :
    (Path.mk (a ++ separator :: b)).steps = (Path.mk a).steps ++ (Path.mk b).steps := by
  simp [steps, List.splitOn_append_cons_self]

theorem steps_append_of_endsInSlash {a : List UInt8} (h : (Path.mk a).endsInSlash)
    (b : List UInt8) :
    (Path.mk (a ++ b)).steps = (Path.mk a).steps ++ (Path.mk b).steps := by
  simp only [endsInSlash, beq_iff_eq] at h
  obtain ⟨c, rfl⟩ := List.getLast?_eq_some_iff.1 h
  rw [List.append_assoc, List.singleton_append, steps_append, steps_append]
  simp [steps]

theorem steps_join (base p : Path) :
    (base.join p).steps = if p.isAbsolute then p.steps else base.steps ++ p.steps := by
  unfold join
  split
  · rfl
  · split
    · next h =>
      simp only [Bool.or_eq_true, List.isEmpty_iff] at h
      rcases h with h | h
      · simp [h, steps]
      · exact steps_append_of_endsInSlash h p.bytes
    · exact steps_append base.bytes p.bytes

theorem components_join (base p : Path) :
    (base.join p).components =
      if p.isAbsolute then p.components else base.components ++ p.components := by
  unfold components
  rw [steps_join]
  split <;> simp

theorem steps_absolute {names : List (List UInt8)}
    (h : ∀ n ∈ names, n ≠ [] ∧ separator ∉ n) : (absolute names).steps = names := by
  have nonempty : names.filter (fun n => !n.isEmpty) = names :=
    List.filter_eq_self.2 fun n hn => by simp [(h n hn).1]
  have split := steps_append [] ([separator].intercalate names)
  rw [List.nil_append] at split
  rw [absolute, split]
  by_cases hn : names = []
  · simp [hn, steps]
  · simp [steps, List.splitOn_intercalate separator (fun n hm => (h n hm).2) hn, nonempty]

theorem components_absolute {names : List (List UInt8)}
    (h : ∀ n ∈ names, n ≠ [] ∧ n ≠ here ∧ separator ∉ n) : (absolute names).components = names := by
  rw [components, steps_absolute fun n hn => ⟨(h n hn).1, (h n hn).2.2⟩]
  exact List.filter_eq_self.2 fun n hn => by simp [(h n hn).2.1]

end Path

end SchemaRules
