import Mathlib.Tactic.SplitIfs
import SchemaRules.FileSystem

/-!
# Files before and after a write

A write changes what stands at one place, and makes no directory and removes none. So a path that
leads to a place leads there after the write too, and all that can be told apart is the content of
the one file.

* `FileSystem.read_eq_ok_iff`: reading is looking at the place to which the path leads.
* `Leads`, `step_eq_ok_iff`, `walk_cons_eq_ok_iff`: where steps lead.
* `target_eq_ok_iff`: the paths at which a file can be written.
* `step_writeAt`, `walk_writeAt`, `placeOf_writeAt`, `target_writeAt`: paths lead where they led.
* `read_writeAt`, `read_writeAt_of_ne`: the file that was written, and all others.
-/

namespace SchemaRules

namespace FileSystem

variable {fs : FileSystem} {p : Path} {content : ByteArray}

theorem placeOf_eq_ok_iff {l : Location} :
    fs.placeOf p = .ok l ↔
      checkPath p = .ok () ∧
        fs.walk (fs.start p) (if p.endsInSlash then p.steps ++ [Path.here] else p.steps) = .ok l :=
  check_bind_eq_ok_iff

/-- Reading is looking at the place to which the path leads, if that is permitted. -/
theorem read_eq_ok_iff :
    fs.read p = .ok content ↔
      ∃ l, fs.placeOf p = .ok l ∧ (fs.permission l).toRead = .ok () ∧
        fs.get? l = some (.file content) := by
  unfold read
  rw [bind_eq_ok_iff]
  refine exists_congr fun l => and_congr_right fun _ => ?_
  rw [check_bind_eq_ok_iff]
  refine and_congr_right fun _ => ?_
  cases fs.get? l with
  | none => simp
  | some entry => cases entry <;> simp

/-! ## Steps -/

/-- Where a step may lead from a directory: to the directory itself, to the one around it, or to
what stands in it. -/
inductive Leads (fs : FileSystem) (l : Location) : List UInt8 → Location → Prop
  | here : Leads fs l Path.here l
  | parent : Leads fs l Path.parent l.dropLast
  | name {name : List UInt8} (hhere : name ≠ Path.here) (hparent : name ≠ Path.parent)
      (hlength : name.length ≤ maxName) (hthere : fs.get? (l ++ [name]) ≠ none) :
      Leads fs l name (l ++ [name])

theorem step_eq_ok_iff {l k : Location} {name : List UInt8} :
    fs.step l name = .ok k ↔
      fs.get? l = some .directory ∧ (fs.permission l).toRead = .ok () ∧ Leads fs l name k := by
  unfold step
  by_cases hl : fs.get? l = some .directory
  · rw [if_neg fun hne => hne hl, check_bind_eq_ok_iff, and_iff_right hl]
    refine and_congr_right fun _ => ⟨fun h => ?_, fun hleads => ?_⟩
    · split_ifs at h with hhere hparent hlength hthere <;> cases h
      · exact hhere ▸ .here
      · exact hparent ▸ .parent
      · exact .name hhere hparent (Nat.not_lt.1 hlength) hthere
    · cases hleads with
      | here => rfl
      | parent => rfl
      | name hhere hparent hlength hthere =>
        rw [if_neg hhere, if_neg hparent, if_neg (Nat.not_lt.2 hlength), if_neg hthere]
  · rw [if_pos hl]
    exact ⟨fun h => (nomatch h), fun h => absurd h.1 hl⟩

/-- Steps in two parts lead where the second part leads from the place of the first. -/
theorem walk_append_eq_ok_iff {l k : Location} {front back : List (List UInt8)} :
    fs.walk l (front ++ back) = .ok k ↔
      ∃ next, fs.walk l front = .ok next ∧ fs.walk next back = .ok k := by
  rw [walk, List.foldlM_append]
  exact bind_eq_ok_iff

theorem walk_cons_eq_ok_iff {l k : Location} {name : List UInt8} {rest : List (List UInt8)} :
    fs.walk l (name :: rest) = .ok k ↔
      ∃ next, fs.step l name = .ok next ∧ fs.walk next rest = .ok k := by
  rw [walk, List.foldlM_cons]
  exact bind_eq_ok_iff

theorem walk_singleton (l : Location) (name : List UInt8) :
    fs.walk l [name] = fs.step l name := by
  unfold walk
  rw [List.foldlM_cons]
  cases fs.step l name <;> rfl

/-! ## Places to write at -/

theorem targetIn_eq_ok_iff {l : Location} {name : List UInt8} {slash : Bool}
    {place : { l : Location // fs.Writable l }} :
    fs.targetIn l name slash = .ok place ↔
      (fs.permission l).toRead = .ok () ∧ name ≠ Path.here ∧ name ≠ Path.parent ∧
        slash = false ∧ place.1 = l ++ [name] := by
  obtain ⟨k, hk⟩ := place
  unfold targetIn
  by_cases hl : fs.get? l = some .directory
  · rw [dif_pos hl, check_bind_eq_ok_iff]
    refine and_congr_right fun _ => ⟨fun h => ?_, ?_⟩
    · split_ifs at h with hdots hfits hdirectory
      split at h <;> cases h
      obtain ⟨hhere, hparent, hslash⟩ := not_or.1 hdots |>.imp_right not_or.1
      exact ⟨hhere, hparent, Bool.eq_false_iff.2 hslash, rfl⟩
    · rintro ⟨hhere, hparent, rfl, rfl⟩
      simp only [hhere, hparent, hk.fits, hk.not_directory, dite_true, dite_false, or_self,
        Bool.false_eq_true, if_false]
      split
      · next hfault => cases hk.permitted.symm.trans hfault
      · rfl
  · rw [dif_neg hl]
    refine ⟨fun h => (nomatch h), ?_⟩
    rintro ⟨-, -, -, -, rfl⟩
    exact absurd (by simpa using hk.in_directory) hl

/-- A path at which a file can be written ends in a name, and all that comes before it leads to a
directory that may be entered. -/
theorem target_eq_ok_iff {place : { l : Location // fs.Writable l }} :
    fs.target p = .ok place ↔
      checkPath p = .ok () ∧ p.endsInSlash = false ∧ ∃ front name l, p.steps = front ++ [name] ∧
        fs.walk (fs.start p) front = .ok l ∧ (fs.permission l).toRead = .ok () ∧
        name ≠ Path.here ∧ name ≠ Path.parent ∧ place.1 = l ++ [name] := by
  unfold target
  rw [check_bind_eq_ok_iff]
  refine and_congr_right fun _ => ?_
  rcases List.eq_nil_or_concat p.steps with hsteps | ⟨front, name, hsteps⟩
  · simp [hsteps]
  · rw [List.concat_eq_append] at hsteps
    simp only [hsteps, List.getLast?_concat, List.dropLast_concat, bind_eq_ok_iff]
    constructor
    · rintro ⟨l, hwalk, htarget⟩
      obtain ⟨hread, hhere, hparent, hslash, hplace⟩ := targetIn_eq_ok_iff.1 htarget
      exact ⟨hslash, front, name, l, rfl, hwalk, hread, hhere, hparent, hplace⟩
    · rintro ⟨hslash, front', name', l, hsame, hwalk, hread, hhere, hparent, hplace⟩
      obtain ⟨rfl, hname⟩ := List.append_inj' hsame rfl
      cases hname
      exact ⟨l, hwalk, targetIn_eq_ok_iff.2 ⟨hread, hhere, hparent, hslash, hplace⟩⟩

/-! ## After a write -/

section

variable {place : { l : Location // fs.Writable l }}

theorem directory_writeAt_iff {k : Location} :
    (fs.writeAt place content).get? k = some .directory ↔ fs.get? k = some .directory := by
  rw [get?_writeAt]
  by_cases hk : k = place.1
  · rw [if_pos hk, hk]
    simp [place.2.not_directory]
  · rw [if_neg hk]

theorem get?_writeAt_ne_none {k : Location} (hk : fs.get? k ≠ none) :
    (fs.writeAt place content).get? k ≠ none := by
  rw [get?_writeAt]
  split_ifs
  · simp
  · exact hk

theorem step_writeAt {l k : Location} {name : List UInt8} (h : fs.step l name = .ok k) :
    (fs.writeAt place content).step l name = .ok k := by
  obtain ⟨hl, hread, hleads⟩ := step_eq_ok_iff.1 h
  refine step_eq_ok_iff.2 ⟨directory_writeAt_iff.2 hl, hread, ?_⟩
  cases hleads with
  | here => exact .here
  | parent => exact .parent
  | name hhere hparent hlength hthere =>
    exact .name hhere hparent hlength (get?_writeAt_ne_none hthere)

/-- Steps that lead to a place lead there after the write. -/
theorem walk_writeAt {l k : Location} {steps : List (List UInt8)} (h : fs.walk l steps = .ok k) :
    (fs.writeAt place content).walk l steps = .ok k := by
  induction steps generalizing l with
  | nil => exact h
  | cons name rest ih =>
    obtain ⟨next, hstep, hrest⟩ := walk_cons_eq_ok_iff.1 h
    exact walk_cons_eq_ok_iff.2 ⟨next, step_writeAt hstep, ih hrest⟩

theorem placeOf_writeAt {l : Location} (h : fs.placeOf p = .ok l) :
    (fs.writeAt place content).placeOf p = .ok l := by
  obtain ⟨hcheck, hwalk⟩ := placeOf_eq_ok_iff.1 h
  exact placeOf_eq_ok_iff.2 ⟨hcheck, walk_writeAt hwalk⟩

theorem Writable.writeAt {l : Location} (h : fs.Writable l) :
    (fs.writeAt place content).Writable l where
  not_root := h.not_root
  fits := h.fits
  in_directory := directory_writeAt_iff.2 h.in_directory
  not_directory := fun hd => h.not_directory (directory_writeAt_iff.1 hd)
  permitted := h.permitted

/-- A path at which a file can be written lets it be written at the same place after the
write. -/
theorem target_writeAt {p : Path} {other : { l : Location // fs.Writable l }}
    (h : fs.target p = .ok other) :
    (fs.writeAt place content).target p = .ok ⟨other.1, other.2.writeAt⟩ := by
  obtain ⟨hcheck, hslash, front, name, l, hsteps, hwalk, hname⟩ := target_eq_ok_iff.1 h
  exact target_eq_ok_iff.2 ⟨hcheck, hslash, front, name, l, hsteps, walk_writeAt hwalk, hname⟩

/-- What was written is read. -/
theorem read_writeAt (h : fs.target p = .ok place) :
    (fs.writeAt place content).read p = .ok content := by
  obtain ⟨hcheck, hslash, front, name, l, hsteps, hwalk, hread, hhere, hparent, hplace⟩ :=
    target_eq_ok_iff.1 h
  have hcontent : (fs.writeAt place content).get? (l ++ [name]) = some (.file content) := by
    rw [get?_writeAt, hplace, if_pos rfl]
  have hfits : Fits (l ++ [name]) := hplace ▸ place.2.fits
  have hlast : (fs.writeAt place content).step l name = .ok (l ++ [name]) :=
    step_eq_ok_iff.2 ⟨get?_of_append hcontent, hread,
      .name hhere hparent (hfits.1 name (by simp)) (by simp [hcontent])⟩
  have hplaceOf : (fs.writeAt place content).placeOf p = .ok (l ++ [name]) := by
    refine placeOf_eq_ok_iff.2 ⟨hcheck, ?_⟩
    rw [hslash, hsteps, if_neg Bool.false_ne_true]
    exact walk_append_eq_ok_iff.2 ⟨l, walk_writeAt hwalk, (walk_singleton ..).trans hlast⟩
  have hpermitted : (fs.permission (l ++ [name])).toRead = .ok () :=
    Permission.toRead_of_toWrite (hplace ▸ place.2.permitted)
  exact read_eq_ok_iff.2 ⟨_, hplaceOf, hpermitted, hcontent⟩

/-- Every other file is read as before. -/
theorem read_writeAt_of_ne {old : ByteArray} (h : fs.read p = .ok old)
    (hne : fs.placeOf p ≠ .ok place.1) : (fs.writeAt place content).read p = .ok old := by
  obtain ⟨l, hl, hpermitted, hold⟩ := read_eq_ok_iff.1 h
  have hother : l ≠ place.1 := fun heq => hne (heq ▸ hl)
  refine read_eq_ok_iff.2 ⟨l, placeOf_writeAt hl, hpermitted, ?_⟩
  rw [get?_writeAt, if_neg hother, hold]

end

end FileSystem

end SchemaRules
