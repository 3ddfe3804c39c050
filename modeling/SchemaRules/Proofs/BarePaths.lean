import Mathlib.Data.List.Induction
import SchemaRules.Proofs.FileUrl
import SchemaRules.Proofs.Files
import SchemaRules.Proofs.Loading

/-!
# Bare paths to files

A locator that is an absolute path is taken through a URL before the file is opened. Every name
comes back from its segment as it was, whatever bytes it has, but a path that ends like a drive,
in a letter with a colon or a bar, comes back with a slash at its end, and a path with a slash at
its end leads to no file.

* `Path.EndsLikeDrive`, `Url.endsInDrive_absolute`: the names after which a slash is put.
* `FileSystem.read_absolute_iff`, `read_absolute_withSlash`: a file, without a slash after it and
  with one.
* `Locator.IsPathOf`: a bare path and its names; `Source.locate_bare`: the path that is opened.
* `FileSystem.schemaAt_bare`: the schema in the file, or the fault.
-/

namespace SchemaRules

namespace Path

/-! ## Names -/

/-- A name that a file can have. -/
structure IsName (name : List UInt8) : Prop where
  nonempty : name ≠ []
  not_here : name ≠ here
  not_parent : name ≠ parent
  no_slash : separator ∉ name
  no_nul : 0 ∉ name

instance (name : List UInt8) : Decidable (IsName name) :=
  decidable_of_iff
    (name ≠ [] ∧ name ≠ here ∧ name ≠ parent ∧ separator ∉ name ∧ 0 ∉ name)
    ⟨fun ⟨h₁, h₂, h₃, h₄, h₅⟩ => ⟨h₁, h₂, h₃, h₄, h₅⟩,
      fun h => ⟨h.nonempty, h.not_here, h.not_parent, h.no_slash, h.no_nul⟩⟩

section

variable {names : List (List UInt8)}

theorem components_absolute_names (h : ∀ name ∈ names, IsName name) :
    (absolute names).components = names :=
  components_absolute fun name hname =>
    ⟨(h name hname).nonempty, (h name hname).not_here, (h name hname).no_slash⟩

theorem steps_absolute_names (h : ∀ name ∈ names, IsName name) : (absolute names).steps = names :=
  steps_absolute fun name hname => ⟨(h name hname).nonempty, (h name hname).no_slash⟩

theorem zero_notMem_absolute (h : ∀ name ∈ names, IsName name) : 0 ∉ (absolute names).bytes := by
  by_cases hnames : names = []
  · rw [hnames]
    decide
  · rw [bytes_absolute hnames, List.mem_flatMap]
    rintro ⟨name, hname, hmem⟩
    rcases List.mem_cons.1 hmem with hzero | hzero
    · exact absurd hzero (by decide)
    · exact (h name hname).no_nul hzero

end

theorem bytes_absolute_concat (front : List (List UInt8)) (name : List UInt8) :
    (absolute (front ++ [name])).bytes = front.flatMap (separator :: ·) ++ separator :: name := by
  rw [bytes_absolute (by simp), List.flatMap_append, List.flatMap_singleton]

theorem endsInSlash_absolute {front : List (List UInt8)} {name : List UInt8} (h : IsName name) :
    (absolute (front ++ [name])).endsInSlash = false := by
  obtain ⟨start, last, rfl⟩ := (List.eq_nil_or_concat name).resolve_left h.nonempty
  have hlast : last ≠ separator := fun heq => h.no_slash (by simp [heq])
  rw [endsInSlash, bytes_absolute_concat, List.concat_eq_append, ← List.cons_append,
    ← List.append_assoc, List.getLast?_concat]
  simpa using hlast

/-! ## Slashes at the end -/

/-- A path with one more slash at its end. -/
def withSlash (p : Path) : Path :=
  ⟨p.bytes ++ [separator]⟩

theorem steps_withSlash (p : Path) : p.withSlash.steps = p.steps := by
  rw [withSlash, steps_append]
  simp [steps]

theorem endsInSlash_withSlash (p : Path) : p.withSlash.endsInSlash = true := by
  simp [withSlash, endsInSlash]

/-! ## Drives -/

/-- The last bytes are an ASCII letter and a colon or a bar. -/
def EndsLikeDrive (name : List UInt8) : Prop :=
  ∃ front letter mark, name = front ++ [letter, mark] ∧
    (0x41 ≤ letter ∧ letter ≤ 0x5A ∨ 0x61 ≤ letter ∧ letter ≤ 0x7A) ∧ (mark = 0x3A ∨ mark = 0x7C)

theorem endsLikeDrive_append_iff {front : List UInt8} {letter mark : UInt8} :
    EndsLikeDrive (front ++ [letter, mark]) ↔
      (0x41 ≤ letter ∧ letter ≤ 0x5A ∨ 0x61 ≤ letter ∧ letter ≤ 0x7A) ∧
        (mark = 0x3A ∨ mark = 0x7C) := by
  constructor
  · rintro ⟨front', letter', mark', heq, h⟩
    obtain ⟨-, hlast⟩ := List.append_inj' heq rfl
    cases hlast
    exact h
  · exact fun h => ⟨front, letter, mark, rfl, h⟩

/-- Neither byte of a drive is a slash, so what comes before a slash does not matter. -/
theorem endsLikeDrive_slash_iff {before name : List UInt8} :
    EndsLikeDrive (before ++ separator :: name) ↔ EndsLikeDrive name := by
  constructor
  · rintro ⟨front, letter, mark, heq, hletter, hmark⟩
    have hdrive : separator ∉ [letter, mark] := by
      simp only [separator, List.mem_cons, List.not_mem_nil, or_false]
      rintro (rfl | rfl) <;> simp at hletter hmark
    rcases List.append_eq_append_iff.1 heq with ⟨more, rfl, hname⟩ | ⟨more, rfl, hlast⟩
    · cases more with
      | nil =>
        cases hname
        exact absurd List.mem_cons_self hdrive
      | cons slash more =>
        cases hname
        exact ⟨more, letter, mark, rfl, hletter, hmark⟩
    · exact absurd (by simp [hlast]) hdrive
  · rintro ⟨front, letter, mark, rfl, h⟩
    exact ⟨before ++ separator :: front, letter, mark, by simp, h⟩

end Path

namespace Url

theorem endsInDrive_iff {bytes : List UInt8} :
    endsInDrive bytes = true ↔ Path.EndsLikeDrive bytes ∧ 2 < bytes.length := by
  unfold endsInDrive
  split
  · next mark letter first rest heq =>
    obtain rfl : bytes = (first :: rest).reverse ++ [letter, mark] := by
      rw [← List.reverse_reverse bytes, heq]
      simp
    rw [Path.endsLikeDrive_append_iff]
    simp [and_comm]
  · next hshort =>
    refine ⟨fun h => absurd h Bool.false_ne_true, ?_⟩
    rintro ⟨⟨front, letter, mark, rfl, -⟩, hlength⟩
    cases hfront : front.reverse with
    | nil => simp_all
    | cons first rest => exact absurd (by simp [hfront]) (hshort mark letter first rest)

/-- A slash is put at the end of a path exactly if its last name ends like a drive. -/
theorem endsInDrive_absolute (front : List (List UInt8)) (name : List UInt8) :
    endsInDrive (Path.absolute (front ++ [name])).bytes = true ↔ Path.EndsLikeDrive name := by
  rw [endsInDrive_iff, Path.bytes_absolute_concat, Path.endsLikeDrive_slash_iff, and_iff_left_iff_imp]
  rintro ⟨start, letter, mark, rfl, -⟩
  simp only [List.length_append, List.length_cons, List.length_nil]
  omega

end Url

instance (name : List UInt8) : Decidable (Path.EndsLikeDrive name) :=
  decidable_of_iff _ (Url.endsInDrive_absolute [] name)

namespace FileSystem

/-! ## Files -/

variable {fs : FileSystem} {front : List (List UInt8)} {name : List UInt8} {content : ByteArray}

/-- Names lead nowhere but to the place that they name. -/
theorem eq_of_walk_names {names : List (List UInt8)} (h : ∀ name ∈ names, Path.IsName name)
    {l k : Location} (hwalk : fs.walk l names = .ok k) : k = l ++ names := by
  induction names generalizing l with
  | nil =>
    cases hwalk
    exact (List.append_nil _).symm
  | cons name rest ih =>
    obtain ⟨hname, hrest⟩ := List.forall_mem_cons.1 h
    obtain ⟨next, hstep, hwalk⟩ := walk_cons_eq_ok_iff.1 hwalk
    obtain ⟨-, -, hleads⟩ := step_eq_ok_iff.1 hstep
    cases hleads with
    | here => exact absurd rfl hname.not_here
    | parent => exact absurd rfl hname.not_parent
    | name => rw [ih hrest hwalk, List.append_assoc, List.singleton_append]

/-- A name leads to what stands there, if its directory may be entered. -/
theorem step_name_iff {l : Location} (hname : Path.IsName name)
    (hthere : fs.get? (l ++ [name]) ≠ none) :
    fs.step l name = .ok (l ++ [name]) ↔ (fs.permission l).toRead = .ok () := by
  obtain ⟨e, he⟩ := Option.ne_none_iff_exists'.1 hthere
  have hlength := (fits_of_get? (by simp) he).1 name (by simp)
  rw [step_eq_ok_iff]
  exact ⟨fun h => h.2.1, fun h =>
    ⟨get?_of_append he, h, .name hname.not_here hname.not_parent hlength hthere⟩⟩

/-- Names lead from the root to what stands there, if every directory on the way may be entered. -/
theorem walk_names_iff {names : List (List UInt8)} (h : ∀ name ∈ names, Path.IsName name)
    (hthere : fs.get? names ≠ none) :
    fs.walk [] names = .ok names ↔
      ∀ l, l <+: names → l ≠ names → (fs.permission l).toRead = .ok () := by
  induction names using List.reverseRecOn with
  | nil => exact iff_of_true rfl fun l hl hne => absurd (List.prefix_nil.1 hl) hne
  | append_singleton front name ih =>
    obtain ⟨hfront, hname⟩ := List.forall_mem_append.1 h
    obtain ⟨e, he⟩ := Option.ne_none_iff_exists'.1 hthere
    have hbefore := ih hfront (by simp [get?_of_append he])
    have hlast := step_name_iff (hname name List.mem_cons_self) hthere
    constructor
    · intro hwalk l hl hne
      obtain ⟨next, hnext, hstep⟩ := walk_append_eq_ok_iff.1 hwalk
      obtain rfl : next = front := eq_of_walk_names hfront hnext
      rw [walk_singleton, hlast] at hstep
      by_cases heq : l = next
      · rwa [heq]
      · exact hbefore.1 hnext l ((List.prefix_concat_iff.1 hl).resolve_left hne) heq
    · intro hall
      have hfirst : fs.walk [] front = .ok front := hbefore.2 fun l hl hne =>
        hall l (hl.trans (List.prefix_append _ _)) fun heq => by
          have hlength := hl.length_le
          rw [heq, List.length_append, List.length_singleton] at hlength
          omega
      refine walk_append_eq_ok_iff.2 ⟨front, hfirst, (walk_singleton ..).trans (hlast.2 ?_)⟩
      exact hall front (List.prefix_append _ _) (by simp)

/-- The absolute path of something that is there is no path that names nothing. -/
theorem checkPath_absolute {names : List (List UInt8)} (hne : names ≠ [])
    (h : ∀ name ∈ names, Path.IsName name) {e : Entry} (hthere : fs.get? names = some e) :
    checkPath (.absolute names) = .ok () := by
  obtain ⟨-, hlength⟩ := fits_of_get? hne hthere
  rw [checkPath, if_neg (Path.zero_notMem_absolute h), if_neg (by simp [Path.absolute]),
    if_neg (Nat.not_lt.2 hlength)]

/-- An absolute path is read by following its names. -/
theorem read_absolute_iff_walk (h : ∀ n ∈ front ++ [name], Path.IsName n) :
    fs.read (.absolute (front ++ [name])) = .ok content ↔
      fs.get? (front ++ [name]) = some (.file content) ∧
        fs.walk [] (front ++ [name]) = .ok (front ++ [name]) ∧
        (fs.permission (front ++ [name])).toRead = .ok () := by
  have hplace : ∀ l, fs.placeOf (.absolute (front ++ [name])) = .ok l ↔
      checkPath (.absolute (front ++ [name])) = .ok () ∧ fs.walk [] (front ++ [name]) = .ok l := by
    intro l
    rw [placeOf_eq_ok_iff, Path.endsInSlash_absolute (h name (by simp)),
      if_neg Bool.false_ne_true, Path.steps_absolute_names h]
    rfl
  rw [read_eq_ok_iff]
  constructor
  · rintro ⟨l, hl, hpermitted, hfile⟩
    obtain ⟨-, hwalk⟩ := (hplace l).1 hl
    obtain rfl : l = front ++ [name] := eq_of_walk_names h hwalk
    exact ⟨hfile, hwalk, hpermitted⟩
  · rintro ⟨hfile, hwalk, hpermitted⟩
    have hcheck := checkPath_absolute (by simp) h hfile
    exact ⟨_, (hplace _).2 ⟨hcheck, hwalk⟩, hpermitted, hfile⟩

/-- A file is read at its absolute path, unless the system refuses something on the way. -/
theorem read_absolute_iff (h : ∀ n ∈ front ++ [name], Path.IsName n) :
    fs.read (.absolute (front ++ [name])) = .ok content ↔
      fs.get? (front ++ [name]) = some (.file content) ∧
        ∀ l, l <+: front ++ [name] → (fs.permission l).toRead = .ok () := by
  rw [read_absolute_iff_walk h]
  refine and_congr_right fun hfile => ?_
  rw [walk_names_iff h (by simp [hfile])]
  constructor
  · rintro ⟨hbefore, hlast⟩ l hl
    by_cases heq : l = front ++ [name]
    · rwa [heq]
    · exact hbefore l hl heq
  · exact fun hall => ⟨fun l hl _ => hall l hl, hall _ List.prefix_rfl⟩

/-- The fault of a path to a file that has a slash at its end. -/
def slashFault (p : Path) : FileFault :=
  if p.bytes.length < maxPath then .notDirectory else .nameTooLong

theorem checkPath_withSlash {p : Path} (hzero : 0 ∉ p.bytes) :
    checkPath p.withSlash = if p.bytes.length < maxPath then .ok () else .error .nameTooLong := by
  have hlength : p.withSlash.bytes.length = p.bytes.length + 1 := by simp [Path.withSlash]
  rw [checkPath, if_neg (by simpa [Path.withSlash, Path.separator] using hzero),
    if_neg (by simp [Path.withSlash]), hlength]
  by_cases hfits : p.bytes.length < maxPath
  · rw [if_neg (Nat.not_lt.2 hfits), if_pos hfits]
  · rw [if_pos (Nat.lt_succ_of_le (Nat.not_lt.1 hfits)), if_neg hfits]

/-- With a slash at the end of its path a file is not read: what is wanted is a directory. -/
theorem read_absolute_withSlash (h : ∀ n ∈ front ++ [name], Path.IsName n)
    (hfile : fs.read (.absolute (front ++ [name])) = .ok content) :
    fs.read (Path.absolute (front ++ [name])).withSlash =
      .error (slashFault (.absolute (front ++ [name]))) := by
  obtain ⟨hthere, hnames, -⟩ := (read_absolute_iff_walk h).1 hfile
  have hcheck := checkPath_withSlash (Path.zero_notMem_absolute h)
  have hstart : fs.start (Path.absolute (front ++ [name])).withSlash = [] := rfl
  have hstop : fs.step (front ++ [name]) Path.here = .error .notDirectory := by
    rw [step, if_pos (by simp [hthere])]
  have hwalk : fs.walk [] (front ++ [name] ++ [Path.here]) = .error .notDirectory := by
    have hback := (walk_singleton (front ++ [name]) Path.here).trans hstop
    unfold walk at hnames hback ⊢
    rw [List.foldlM_append, hnames]
    exact hback
  have hplace : fs.placeOf (Path.absolute (front ++ [name])).withSlash =
      .error (slashFault (.absolute (front ++ [name]))) := by
    rw [placeOf, hcheck, Path.endsInSlash_withSlash, if_pos rfl, Path.steps_withSlash,
      Path.steps_absolute_names h, hstart, hwalk, slashFault]
    split <;> rfl
  rw [read, hplace]
  rfl

end FileSystem

/-! ## Locators -/

theorem Path.join_of_isAbsolute (base : Path) {p : Path} (h : p.isAbsolute) : base.join p = p :=
  if_pos h

/-- A path as it comes back from its URL. -/
def Url.returned (p : Path) : Path :=
  if endsInDrive p.bytes then p.withSlash else p

/-- A locator without protocol is the absolute path of names. -/
structure Locator.IsPathOf (locator : String) (names : List (List UInt8)) : Prop where
  bare : Protocol.ofLocator locator = .bare
  path : Path.ofString locator = .absolute names
  isName : ∀ name ∈ names, Path.IsName name

/-- An absolute path leads to itself, but for a slash at its end. -/
theorem Source.locate_bare {m : Type → Type} (s : Source m) {locator : String}
    {names : List (List UInt8)} (h : Locator.IsPathOf locator names) :
    s.locate locator = .ok (Url.ofPath (.absolute names), Url.returned (.absolute names)) := by
  have hurl : Locator.resolve s.base locator = .ok (Url.ofPath (.absolute names)) := by
    rw [Locator.resolve_bare h.bare, h.path, Path.join_of_isAbsolute _ rfl]
  have hlocal : Locator.filePath (Url.ofPath (.absolute names)) =
      .ok (Url.returned (.absolute names)) := by
    rw [Locator.filePath, if_neg (by simp [Url.ofPath]), Url.toPath?_ofPath,
      Path.components_absolute_names h.isName, Url.returned]
    dsimp only
    split <;> rfl
  have hscheme : (Url.ofPath (.absolute names)).scheme = Url.fileScheme := rfl
  rw [locate, hurl, h.bare]
  simp only [Except.mapError, Protocol.isRemote, bind, Except.bind, hscheme, hlocal]
  rfl

/-! ## Schemas -/

namespace FileSystem

variable {fs : FileSystem} {limit : UInt64} {locator : String} {front : List (List UInt8)}
  {name : List UInt8} {text : String} {document : Node}

/-- The schema that an absolute path leads to is what is made of the file at the path that comes
back. -/
theorem schemaAt_eq_of_bare {names : List (List UInt8)} (h : Locator.IsPathOf locator names) :
    fs.schemaAt limit locator =
      (Source.documentOf limit (Url.returned (.absolute names))
        (Source.textOf (fs.read (Url.returned (.absolute names))))).bind
          (Source.schemaOf (Url.ofPath (.absolute names))) := by
  rw [schemaAt_eq, fs.source.locate_bare h]

/-- A name that does not end like a drive: the document is loaded. -/
theorem schemaAt_of_not_drive (h : Locator.IsPathOf locator (front ++ [name]))
    (hfile : fs.read (.absolute (front ++ [name])) = .ok text.toUTF8)
    (hread : Node.read text = .ok document) (hsize : text.utf8ByteSize ≤ limit.toNat)
    (hdrive : ¬Path.EndsLikeDrive name) :
    fs.schemaAt limit locator = .ok ⟨Url.ofPath (Path.ofString locator), document⟩ := by
  have hreturned : Url.returned (.absolute (front ++ [name])) = .absolute (front ++ [name]) :=
    if_neg (by rwa [Url.endsInDrive_absolute])
  have hlocate := fs.source.locate_bare h
  rw [hreturned] at hlocate
  rw [schemaAt_eq_ok_iff hlocate, h.path]
  exact ⟨text, hfile, hsize, rfl, hread⟩

/-- A name that ends like a drive: whatever the file holds, it is not opened. -/
theorem schemaAt_of_drive {content : ByteArray} (h : Locator.IsPathOf locator (front ++ [name]))
    (hfile : fs.read (.absolute (front ++ [name])) = .ok content)
    (hdrive : Path.EndsLikeDrive name) :
    fs.schemaAt limit locator =
      .error (.unreadable (Path.ofString locator).withSlash (slashFault (Path.ofString locator))) := by
  have hreturned : Url.returned (.absolute (front ++ [name])) =
      (Path.absolute (front ++ [name])).withSlash :=
    if_pos ((Url.endsInDrive_absolute front name).2 hdrive)
  rw [schemaAt_eq_of_bare h, hreturned, read_absolute_withSlash h.isName hfile, h.path]
  rfl

/-- A bare path at which a file is read leads to the document in it if the name of the file does
not end like a drive. Otherwise the path is opened with a slash at its end, and no file is found
there. -/
theorem schemaAt_bare (fs : FileSystem) (front : List (List UInt8)) (name : List UInt8)
    (locator : String) (limit : UInt64) (text : String) (document : Node)
    (h : Locator.IsPathOf locator (front ++ [name]))
    (hfile : fs.read (.absolute (front ++ [name])) = .ok text.toUTF8)
    (hread : Node.read text = .ok document) (hsize : text.utf8ByteSize ≤ limit.toNat) :
    (¬Path.EndsLikeDrive name →
      fs.schemaAt limit locator = .ok ⟨Url.ofPath (Path.ofString locator), document⟩) ∧
    (Path.EndsLikeDrive name →
      fs.schemaAt limit locator =
        .error (.unreadable (Path.ofString locator).withSlash (slashFault (Path.ofString locator)))) :=
  ⟨schemaAt_of_not_drive h hfile hread hsize, schemaAt_of_drive h hfile⟩

/-- A directory that is called like a drive, a file in it with a name that needs escapes, and a
file that ends like a drive. -/
def drives : FileSystem where
  entries :=
    [([[0x43, 0x3A]], .directory),
      ([[0x43, 0x3A], [0x25, 0x32, 0x65, 0x23, 0x3F, 0xC3, 0xA9, 0x5C]], .file "null".toUTF8),
      ([[0x61, 0x7C]], .file "null".toUTF8)]
  workingDirectory := []
  sound := by decide
  working := rfl

theorem schemaAt_bare_drives :
    drives.schemaAt 4 "/C:/%2e#?é\\" =
        .ok ⟨Url.ofPath (Path.ofString "/C:/%2e#?é\\"), .scalar .null⟩ ∧
      drives.schemaAt 4 "/a|" = .error (.unreadable (Path.ofString "/a|/") .notDirectory) := by
  have hread : Node.read "null" = .ok (.scalar .null) := by rfl
  have hinner := drives.schemaAt_bare [[0x43, 0x3A]]
    [0x25, 0x32, 0x65, 0x23, 0x3F, 0xC3, 0xA9, 0x5C] "/C:/%2e#?é\\" 4 "null" (.scalar .null)
    ⟨by decide, by decide, by decide⟩
    ((read_absolute_iff (by decide)).2 ⟨rfl, fun _ _ => rfl⟩) hread (by decide)
  have hbar := drives.schemaAt_bare [] [0x61, 0x7C] "/a|" 4 "null" (.scalar .null)
    ⟨by decide, by decide, by decide⟩
    ((read_absolute_iff (by decide)).2 ⟨rfl, fun _ _ => rfl⟩) hread (by decide)
  exact ⟨hinner.1 (by decide), hbar.2 (by decide)⟩

/-- Not every bare path at which a document is read leads to the document. -/
theorem not_forall_schemaAt_bare :
    ¬∀ (fs : FileSystem) (names : List (List UInt8)) (locator : String) (limit : UInt64)
      (text : String) (document : Node), Locator.IsPathOf locator names →
      fs.read (.absolute names) = .ok text.toUTF8 → Node.read text = .ok document →
      text.utf8ByteSize ≤ limit.toNat →
      ∃ s, fs.schemaAt limit locator = .ok s ∧ s.root = document := by
  intro h
  have hread : Node.read "null" = .ok (.scalar .null) := by rfl
  have hpath : Locator.IsPathOf "/a|" ([] ++ [[0x61, 0x7C]]) := ⟨by decide, by decide, by decide⟩
  have hfile : drives.read (.absolute ([] ++ [[0x61, 0x7C]])) = .ok "null".toUTF8 :=
    (read_absolute_iff (by decide)).2 ⟨rfl, fun _ _ => rfl⟩
  obtain ⟨s, hs, -⟩ := h drives _ "/a|" 4 "null" (.scalar .null) hpath hfile hread (by decide)
  have hdrive : drives.schemaAt 4 "/a|" = _ := schemaAt_of_drive hpath hfile (by decide)
  rw [hs] at hdrive
  cases hdrive

end FileSystem

end SchemaRules
