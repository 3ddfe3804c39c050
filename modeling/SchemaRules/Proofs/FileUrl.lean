import SchemaRules.Locator
import SchemaRules.Proofs.Splitting

/-!
# From a path to its URL and back

A path that is a locator becomes a file URL, one segment for each component, and the URL leads
back to the same components. Every byte may stand in a component: the escapes are undone, and no
byte that is left as it is can be taken for an escape or a slash.

* `Path.components_absolute_components`: components are names, so they can be made a path again.
* `Url.toPath?_ofPath`: the path of the URL of a path, byte by byte.
* `Locator.filePath_resolve_bare`: a locator without protocol leads to its own components, seen
  from the base.
-/

namespace SchemaRules

namespace Path

/-- What a component is: it is not empty, it is not `.`, and it has no slash. -/
theorem mem_components {p : Path} {name : List UInt8} (h : name ∈ p.components) :
    name ≠ [] ∧ name ≠ here ∧ separator ∉ name := by
  simp only [components, steps, List.mem_filter] at h
  obtain ⟨⟨hsplit, hne⟩, hhere⟩ := h
  refine ⟨?_, by simpa using hhere, Splitting.not_mem_of_mem_splitOn hsplit⟩
  rintro rfl
  simp at hne

theorem components_absolute_components (p : Path) :
    (absolute p.components).components = p.components :=
  components_absolute fun _ h => mem_components h

/-- A slash at the end names nothing. -/
theorem components_append_separator (bytes : List UInt8) :
    (Path.mk (bytes ++ [separator])).components = (Path.mk bytes).components := by
  simp only [components, steps_append bytes []]
  simp [steps]

/-- What is seen from an absolute path is absolute. -/
theorem isAbsolute_join {base : Path} (h : base.isAbsolute) (p : Path) :
    (base.join p).isAbsolute := by
  obtain ⟨rest, hrest⟩ : ∃ rest, base.bytes = separator :: rest := by
    simp only [isAbsolute, beq_iff_eq] at h
    exact List.head?_eq_some_iff.1 h
  unfold join
  split
  · assumption
  · split <;> simp [isAbsolute, hrest]

/-- The absolute path of names has a slash before each of them. -/
theorem bytes_absolute {names : List (List UInt8)} (h : names ≠ []) :
    (absolute names).bytes = names.flatMap (separator :: ·) := by
  induction names with
  | nil => exact absurd rfl h
  | cons name rest ih =>
    cases rest with
    | nil => simp [absolute]
    | cons next more =>
      have tail := ih (List.cons_ne_nil _ _)
      simp only [absolute] at tail
      rw [List.flatMap_cons, ← tail, absolute, List.intercalate_cons_cons]
      simp

end Path

open SchemaRules.Path (separator)

namespace Url

/-- A name that is written as a segment is read back, whatever bytes it has. -/
theorem decode_encode_fileName (name : List UInt8) :
    Percent.decode (Percent.encode Reserved.fileName name) = name :=
  Percent.decode_encode (by decide) name

/-- The path of the URL of a path: its components after slashes, with one more slash after a
drive letter at the end. -/
theorem toPath?_ofPath (p : Path) :
    (ofPath p).toPath? =
      let bytes := (Path.absolute p.components).bytes
      some ⟨if endsInDrive bytes then bytes ++ [separator] else bytes⟩ := by
  cases h : p.components with
  | nil =>
    simp only [toPath?, ofPath, host, h, List.map_nil, List.isEmpty_nil, toPath?.pathOf]
    rfl
  | cons name rest =>
    have bytes : (name :: rest).flatMap (fun n =>
        separator :: Percent.decode (Percent.encode Reserved.fileName n))
        = (Path.absolute (name :: rest)).bytes := by
      simp only [decode_encode_fileName]
      exact (Path.bytes_absolute (List.cons_ne_nil _ _)).symm
    simp only [toPath?, ofPath, host, h, List.map_cons, List.isEmpty_cons, toPath?.pathOf]
    simp [← bytes, List.flatMap_map]

/-- A path and the path of its URL have the same components. -/
theorem exists_toPath?_ofPath (p : Path) :
    ∃ q, (ofPath p).toPath? = some q ∧ q.isAbsolute = true ∧ q.components = p.components := by
  refine ⟨_, toPath?_ofPath p, ?_, ?_⟩
  · split <;> rfl
  · split
    · rw [Path.components_append_separator]
      exact Path.components_absolute_components p
    · exact Path.components_absolute_components p

end Url

namespace Locator

/-- A locator without protocol, seen from an absolute base, is an absolute path. It becomes a file
URL, and the URL leads to an absolute path with the same components. -/
theorem filePath_resolve_bare {base : Path} {locator : String}
    (hbase : base.isAbsolute) (h : Protocol.ofLocator locator = .bare) :
    (base.join (Path.ofString locator)).isAbsolute ∧
      ∃ url path, resolve base locator = .ok url ∧ url.scheme = "file".toList ∧
        filePath url = .ok path ∧ path.isAbsolute ∧
        path.components =
          if (Path.ofString locator).isAbsolute then (Path.ofString locator).components
          else base.components ++ (Path.ofString locator).components := by
  obtain ⟨path, hpath, habs, hcomp⟩ :=
    Url.exists_toPath?_ofPath (base.join (Path.ofString locator))
  refine ⟨Path.isAbsolute_join hbase _, _, path, resolve_bare h base, rfl, ?_, habs, ?_⟩
  · rw [filePath, if_neg (by simp [Url.ofPath]), hpath]
  · rw [hcomp, Path.components_join]

/-- A relative locator with an escape, a parent, a query mark and a drive letter at its end. -/
theorem filePath_resolve_bare_escapes :
    (Path.ofString "/tmp").isAbsolute ∧ Protocol.ofLocator "a%2F/..//é ?#\\/C:" = .bare ∧
      ((Path.ofString "/tmp").join (Path.ofString "a%2F/..//é ?#\\/C:")).isAbsolute ∧
      ∃ url path, resolve (Path.ofString "/tmp") "a%2F/..//é ?#\\/C:" = .ok url ∧
        url.scheme = "file".toList ∧ filePath url = .ok path ∧ path.isAbsolute ∧
        path.components =
          if (Path.ofString "a%2F/..//é ?#\\/C:").isAbsolute then
            (Path.ofString "a%2F/..//é ?#\\/C:").components
          else (Path.ofString "/tmp").components
            ++ (Path.ofString "a%2F/..//é ?#\\/C:").components :=
  ⟨by decide, by decide, filePath_resolve_bare (by decide) (by decide)⟩

end Locator

end SchemaRules
