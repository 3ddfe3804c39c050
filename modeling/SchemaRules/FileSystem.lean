import SchemaRules.Entries
import SchemaRules.Path

/-!
# File systems

A file system is a tree of directories and files with a working directory in it, and at each place
something may be refused. `FileSystem.read` and `FileSystem.write` take paths: they follow the
steps of the path from the root or from the working directory, and say what is in the way.

* `bind_eq_ok_iff`, `check_bind_eq_ok_iff`: when one computation after another gives a value.
* `Permission`: what may be done at a place.
* `FileSystem.step`, `walk`, `placeOf`: where one step, several steps and a path lead.
* `FileSystem.Writable`: the places at which a file may be written; `target`: that of a path.
* `FileSystem.get?_writeAt`: after a write one place holds the content, and every other place what
  it held.
-/

namespace SchemaRules

/-- Why a file cannot be read or written. -/
inductive FileFault where
  | notFound
  | notDirectory
  | isDirectory
  | nameTooLong
  /-- The path has a byte that no name has. -/
  | nulInPath
  | notUtf8
  /-- The system refuses for a reason of its own. -/
  | refused (reason : String)
  deriving DecidableEq, Repr

/-- The wording of a fault. -/
def FileFault.message : FileFault → String
  | notFound => "No such file or directory (os error 2)"
  | notDirectory => "Not a directory (os error 20)"
  | isDirectory => "Is a directory (os error 21)"
  | nameTooLong => "File name too long (os error 36)"
  | nulInPath => "file name contained an unexpected NUL byte"
  | notUtf8 => "stream did not contain valid UTF-8"
  | refused reason => reason

section

variable {ε α β : Type} {b : β}

/-- The second of two computations gives a value from what the first one gives. -/
theorem bind_eq_ok_iff {x : Except ε α} {f : α → Except ε β} :
    (x >>= f) = .ok b ↔ ∃ a, x = .ok a ∧ f a = .ok b := by
  cases x <;> simp [bind, Except.bind]

/-- A check before a computation is one that succeeds. -/
theorem check_bind_eq_ok_iff {check : Except ε Unit} {x : Except ε β} :
    (check >>= fun _ => x) = .ok b ↔ check = .ok () ∧ x = .ok b :=
  bind_eq_ok_iff.trans ⟨fun ⟨_, h⟩ => h, fun h => ⟨(), h⟩⟩

end

/-- What may be done at a place: a directory is entered, and a file is read, written or made. -/
inductive Permission where
  | all
  /-- Nothing is written, for a reason of the system's. -/
  | readOnly (reason : String)
  | nothing (reason : String)
  deriving DecidableEq, Repr

namespace Permission

/-- A directory may be entered, or a file read. -/
def toRead : Permission → Except FileFault Unit
  | nothing reason => .error (.refused reason)
  | _ => .ok ()

/-- A file may be written. -/
def toWrite : Permission → Except FileFault Unit
  | all => .ok ()
  | readOnly reason => .error (.refused reason)
  | nothing reason => .error (.refused reason)

/-- What may be written may be read. -/
theorem toRead_of_toWrite {permission : Permission} (h : permission.toWrite = .ok ()) :
    permission.toRead = .ok () := by
  cases permission with
  | all => rfl
  | readOnly reason => rfl
  | nothing reason => cases h

end Permission

/-- The names from the root to a place. -/
abbrev Location := List (List UInt8)

namespace FileSystem

/-- What stands at a place. -/
inductive Entry where
  | file (content : ByteArray)
  | directory

/-- Files are equal when they have the same bytes. -/
instance : DecidableEq Entry
  | .file a, .file b =>
    if h : a.data.toList = b.data.toList then
      isTrue (by cases a; cases b; simpa [Array.toList_inj] using h)
    else isFalse fun e => h (by rw [Entry.file.inj e])
  | .directory, .directory => isTrue rfl
  | .file _, .directory => isFalse fun e => nomatch e
  | .directory, .file _ => isFalse fun e => nomatch e

/-- The greatest length of a name in bytes. -/
def maxName : Nat := 255

/-- The greatest length of a path in bytes. -/
def maxPath : Nat := 4095

/-- Whether a place can be named. -/
def Fits (l : Location) : Prop :=
  (∀ name ∈ l, name.length ≤ maxName) ∧ (Path.absolute l).bytes.length ≤ maxPath

instance (l : Location) : Decidable (Fits l) :=
  inferInstanceAs (Decidable (_ ∧ _))

/-- What stands at a place among entries. The root is a directory. -/
def entryIn (entries : List (Location × Entry)) (l : Location) : Option Entry :=
  if l = [] then some .directory else entries.lookup l

/-- Every entry has a name that fits, and stands in a directory. -/
def Sound (entries : List (Location × Entry)) : Prop :=
  ∀ e ∈ entries, e.1 ≠ [] ∧ Fits e.1 ∧ entryIn entries e.1.dropLast = some .directory

instance (entries : List (Location × Entry)) : Decidable (Sound entries) :=
  inferInstanceAs (Decidable (∀ e ∈ entries, _))

end FileSystem

/-- A tree of directories and files, and the directory from which relative paths are followed. -/
structure FileSystem where
  /-- What stands below the root. -/
  entries : List (Location × FileSystem.Entry)
  workingDirectory : Location
  /-- What may be done at a place, whether something stands there or not. -/
  permission : Location → Permission := fun _ => .all
  sound : FileSystem.Sound entries
  working : FileSystem.entryIn entries workingDirectory = some .directory

namespace FileSystem

/-- The file system of a list of entries, if each of them stands in a directory. All is
permitted. -/
def ofEntries? (entries : List (Location × Entry)) (workingDirectory : Location) :
    Option FileSystem :=
  if h : Sound entries ∧ entryIn entries workingDirectory = some .directory then
    some { entries, workingDirectory, sound := h.1, working := h.2 }
  else none

/-- What stands at a place. -/
def get? (fs : FileSystem) (l : Location) : Option Entry :=
  entryIn fs.entries l

/-- The path of the working directory. -/
def workingPath (fs : FileSystem) : Path :=
  .absolute fs.workingDirectory

theorem mem_of_get? {fs : FileSystem} {l : Location} {e : Entry} (hl : l ≠ [])
    (h : fs.get? l = some e) : (l, e) ∈ fs.entries := by
  rw [get?, entryIn, if_neg hl] at h
  exact Entries.mem_of_lookup h

/-- A place that is not empty is in a directory. -/
theorem get?_of_append {fs : FileSystem} {l : Location} {name : List UInt8} {e : Entry}
    (h : fs.get? (l ++ [name]) = some e) : fs.get? l = some .directory := by
  simpa [get?] using (fs.sound _ (mem_of_get? (by simp) h)).2.2

/-- A place that is not empty can be named. -/
theorem fits_of_get? {fs : FileSystem} {l : Location} {e : Entry} (hl : l ≠ [])
    (h : fs.get? l = some e) : Fits l :=
  (fs.sound _ (mem_of_get? hl h)).2.1

/-- The place to which one step leads from a place, which must be a directory that may be
entered. -/
def step (fs : FileSystem) (l : Location) (name : List UInt8) : Except FileFault Location :=
  if fs.get? l ≠ some .directory then .error .notDirectory
  else do
    (fs.permission l).toRead
    if name = Path.here then .ok l
    else if name = Path.parent then .ok l.dropLast
    else if maxName < name.length then .error .nameTooLong
    else if fs.get? (l ++ [name]) = none then .error .notFound
    else .ok (l ++ [name])

/-- The place to which steps lead from a place. -/
def walk (fs : FileSystem) (l : Location) (steps : List (List UInt8)) :
    Except FileFault Location :=
  steps.foldlM fs.step l

/-- The fault of a path that names nothing in any file system. -/
def checkPath (p : Path) : Except FileFault Unit :=
  if 0 ∈ p.bytes then .error .nulInPath
  else if p.bytes.isEmpty then .error .notFound
  else if maxPath < p.bytes.length then .error .nameTooLong
  else .ok ()

/-- Where the first step of a path is taken. -/
def start (fs : FileSystem) (p : Path) : Location :=
  if p.isAbsolute then [] else fs.workingDirectory

/-- The place to which a path leads. With a slash at its end it leads to a directory only. -/
def placeOf (fs : FileSystem) (p : Path) : Except FileFault Location := do
  checkPath p
  fs.walk (fs.start p) (if p.endsInSlash then p.steps ++ [Path.here] else p.steps)

/-- The content of the file that a path leads to. -/
def read (fs : FileSystem) (p : Path) : Except FileFault ByteArray := do
  let l ← fs.placeOf p
  (fs.permission l).toRead
  match fs.get? l with
  | some (.file content) => .ok content
  | some .directory => .error .isDirectory
  | none => .error .notFound

/-- A place at which a file can be written. -/
structure Writable (fs : FileSystem) (l : Location) : Prop where
  not_root : l ≠ []
  fits : Fits l
  in_directory : fs.get? l.dropLast = some .directory
  not_directory : fs.get? l ≠ some .directory
  permitted : (fs.permission l).toWrite = .ok ()

/-- The place of a name in a directory, which must be one that may be entered, if a file can be
written there. -/
def targetIn (fs : FileSystem) (l : Location) (name : List UInt8) (slash : Bool) :
    Except FileFault { l : Location // fs.Writable l } :=
  if hl : fs.get? l = some .directory then do
    (fs.permission l).toRead
    if name = Path.here ∨ name = Path.parent ∨ slash then .error .isDirectory
    else if hf : Fits (l ++ [name]) then
      if hd : fs.get? (l ++ [name]) = some .directory then .error .isDirectory
      else
        match hp : (fs.permission (l ++ [name])).toWrite with
        | .error fault => .error fault
        | .ok _ => .ok ⟨l ++ [name], by simp, hf, by simpa using hl, hd, hp⟩
    else .error .nameTooLong
  else .error .notDirectory

/-- The place at which a path lets a file be written: it need not hold a file yet, but its
directory must be there. -/
def target (fs : FileSystem) (p : Path) : Except FileFault { l : Location // fs.Writable l } := do
  checkPath p
  match p.steps.getLast? with
  | none => .error .isDirectory
  | some name =>
    let l ← fs.walk (fs.start p) p.steps.dropLast
    fs.targetIn l name p.endsInSlash

theorem Writable.entryIn_put {fs : FileSystem} {l : Location} (h : fs.Writable l) (e : Entry)
    (k : Location) :
    entryIn (Entries.put fs.entries l e) k = if k = l then some e else fs.get? k := by
  unfold get? entryIn
  by_cases hk : k = []
  · simp [hk, h.not_root.symm]
  · simp [hk, Entries.lookup_put]

theorem Writable.sound_put {fs : FileSystem} {l : Location} (h : fs.Writable l) (e : Entry) :
    Sound (Entries.put fs.entries l e) := by
  have keeps : ∀ k, fs.get? k = some .directory →
      entryIn (Entries.put fs.entries l e) k = some .directory := by
    intro k hk
    rw [h.entryIn_put, if_neg (by rintro rfl; exact h.not_directory hk)]
    exact hk
  intro entry hmem
  have hkey : entry.1 ∈ Entries.keys (Entries.put fs.entries l e) :=
    List.mem_map_of_mem hmem
  by_cases hentry : entry.1 = l
  · rw [hentry]
    exact ⟨h.not_root, h.fits, keeps _ h.in_directory⟩
  · have hold : entry.1 ∈ Entries.keys fs.entries := by
      rw [Entries.keys_put] at hkey
      split at hkey
      · exact hkey
      · simpa [hentry] using hkey
    obtain ⟨old, hin, hfst⟩ := List.mem_map.1 hold
    have sound := fs.sound old hin
    rw [← hfst]
    exact ⟨sound.1, sound.2.1, keeps _ sound.2.2⟩

/-- The file system with a content at a place. -/
def writeAt (fs : FileSystem) (l : { l : Location // fs.Writable l }) (content : ByteArray) :
    FileSystem where
  entries := Entries.put fs.entries l.1 (.file content)
  workingDirectory := fs.workingDirectory
  permission := fs.permission
  sound := l.2.sound_put _
  working := by
    rw [l.2.entryIn_put, if_neg fun h => l.2.not_directory (by rw [← h]; exact fs.working)]
    exact fs.working

/-- Writes a file: it is made, or its content is replaced. -/
def write (fs : FileSystem) (p : Path) (content : ByteArray) : Except FileFault FileSystem :=
  (fs.target p).map fun l => fs.writeAt l content

theorem get?_writeAt (fs : FileSystem) (l : { l : Location // fs.Writable l })
    (content : ByteArray) (k : Location) :
    (fs.writeAt l content).get? k = if k = l.1 then some (.file content) else fs.get? k :=
  l.2.entryIn_put _ k

end FileSystem

end SchemaRules
