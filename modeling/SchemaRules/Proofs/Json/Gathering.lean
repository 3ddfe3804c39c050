import SchemaRules.Proofs.Json.Reading

/-!
# Reading records and variants

An object is read by gathering: each entry takes what has been gathered before it one step on. A
record is read when its entries gather a draft that lacks nothing, and a variant when its payload
is.

* `Gathers`: the entries of an object, one step each.
* `membersFrom_held`, `record_reads`: an object is read as what its entries gather.
* `Layout.Fills`, `record_reads_spelled`: what spells an object is read field by field.
* `variant_reads_bare`, `variant_reads_spelled`: both ways to write a variant.
-/

namespace SchemaRules.Json

variable {α ρ σ : Type} {w r rest part body : List Char} {parts : List (List Char)}

/-! ## Objects -/

/-- A part of an object takes what has been gathered one step on: after its key, the rest of it is
read, whatever follows. -/
def Feeds (member : σ → String → Reader σ) (state : σ) (part : List Char) (next : σ) : Prop :=
  ∃ key literal tail, Literal key literal ∧ part = literal ++ tail ∧
    ∀ rest, Ends rest → Yields (member state key (tail ++ rest)) next rest

/-- The parts of an object gather a state, one step each. -/
inductive Gathers (member : σ → String → Reader σ) : σ → List (List Char) → σ → Prop where
  | nil {state : σ} : Gathers member state [] state
  | cons {state next last : σ} {part : List Char} {parts : List (List Char)}
      (hpart : Feeds member state part next) (h : Gathers member next parts last) :
      Gathers member state (part :: parts) last

/-- A part with a key and a value is fed, if the value is read after the colon. -/
theorem EntryPart.feeds {member : σ → String → Reader σ} {state next : σ} {key : String}
    {text : List Char} (h : EntryPart key text part)
    (hread : ∀ s w rest, Blank w → Ends rest → Yields (colon s) () (w ++ (text ++ rest)) →
      Yields (member state key s) next rest) : Feeds member state part next := by
  obtain ⟨literal, w, w', hkey, hw, hw', rfl⟩ := h
  refine ⟨key, literal, _, hkey, rfl, fun rest hrest => hread _ w' rest hw' hrest ?_⟩
  have htail : w ++ ':' :: (w' ++ text) ++ rest = w ++ ':' :: (w' ++ (text ++ rest)) := by simp
  rw [htail]
  exact colon_yields hw _

/-- An object that holds no part more is closed. -/
theorem objectTurn_close {first : Bool} (h : Held '\x7d' first [] body) (rest : List Char) :
    ∃ hr, objectTurn first (body ++ rest) = .ok (.close rest hr) := by
  cases h with
  | @close _ w hw =>
    have hs := skipBlank_append hw (by decide : isBlank '\x7d' = false) rest
    rw [List.append_assoc, List.cons_append, List.nil_append]
    unfold objectTurn
    split
    · next h => cases hs.symm.trans h
    · next c t h =>
      cases hs.symm.trans h
      rw [if_pos rfl]
      exact ⟨length_lt_of_skipBlank h, rfl⟩

/-- The next part of an object is given after its opening quote. -/
theorem objectTurn_item {first : Bool} (h : Held '\x7d' first (('"' :: r) :: parts) body)
    (rest : List Char) :
    ∃ more ht, Held '\x7d' false parts more ∧
      objectTurn first (body ++ rest) = .ok (.item (r ++ (more ++ rest)) ht) := by
  cases h with
  | @first w _ more _ hw hmore =>
    have hs := skipBlank_append hw (by decide : isBlank '"' = false) (r ++ (more ++ rest))
    refine ⟨more, ?_⟩
    rw [List.append_assoc, List.append_assoc]
    unfold objectTurn
    split
    · next h => cases hs.symm.trans h
    · next d t h =>
      cases hs.symm.trans h
      rw [if_neg (by decide), if_pos rfl, if_pos rfl]
      exact ⟨Nat.le_of_lt (length_lt_of_skipBlank h), hmore, rfl⟩
  | @more w w' _ more _ hw hw' hmore =>
    have hs := skipBlank_append hw (by decide : isBlank ',' = false)
      (w' ++ '"' :: (r ++ (more ++ rest)))
    have hs' := skipBlank_append hw' (by decide : isBlank '"' = false) (r ++ (more ++ rest))
    have hbody : w ++ ',' :: (w' ++ ('"' :: r ++ more)) ++ rest =
        w ++ ',' :: (w' ++ '"' :: (r ++ (more ++ rest))) := by simp
    refine ⟨more, ?_⟩
    rw [hbody]
    unfold objectTurn
    split
    · next h => cases hs.symm.trans h
    · next d t h =>
      cases hs.symm.trans h
      rw [if_neg (by decide), if_neg Bool.false_ne_true, if_pos rfl]
      split
      · next k => cases hs'.symm.trans k
      · next k =>
        cases hs'.symm.trans k
        rw [if_pos rfl]
        have short := Nat.lt_trans (length_lt_of_skipBlank k) (length_lt_of_skipBlank h)
        exact ⟨Nat.le_of_lt short, hmore, rfl⟩

section

variable {bound : Nat} {member : σ → String → Reader σ} {state next last : σ}

theorem membersFrom_close {first : Bool} {s : List Char} {hr}
    (hturn : objectTurn first s = .ok (.close r hr)) (h : s.length ≤ bound) :
    Yields (membersFrom member state first s h) state r := by
  rw [membersFrom]
  simp only [hturn]
  exact .of_ok rfl rfl

/-- One entry more has been read. -/
theorem membersFrom_item {key : String} {first : Bool} {s t u v : List Char} {ht}
    (hturn : objectTurn first s = .ok (.item t ht)) (hkey : Yields (text t) key u)
    (hmember : Yields (member state key u) next v)
    (hmore : ∀ h : v.length ≤ bound, Yields (membersFrom member next false v h) last rest)
    (h : s.length ≤ bound) : Yields (membersFrom member state first s h) last rest := by
  obtain ⟨_, hkey⟩ := hkey
  obtain ⟨_, hmember⟩ := hmember
  rw [membersFrom]
  simp only [hturn, hkey, hmember]
  exact hmore _

/-- The parts of an object are read one by one, up to the closing bracket. -/
theorem membersFrom_held {first : Bool} (hheld : Held '\x7d' first parts body)
    (hgather : Gathers member state parts last) (rest : List Char)
    (h : (body ++ rest).length ≤ bound) :
    Yields (membersFrom member state first (body ++ rest) h) last rest := by
  induction hgather generalizing first body with
  | nil =>
    obtain ⟨_, hturn⟩ := objectTurn_close hheld rest
    exact membersFrom_close hturn h
  | cons hpart _ ih =>
    obtain ⟨key, literal, tail, hkey, rfl, hmember⟩ := hpart
    obtain ⟨r, rfl, hread⟩ := text_literal hkey
    rw [List.cons_append] at hheld
    obtain ⟨more, _, hmore, hturn⟩ := objectTurn_item hheld rest
    have hnext := hmember _ (hmore.ends (.inr rfl) rest)
    refine membersFrom_item hturn ?_ hnext (ih hmore) h
    rw [List.append_assoc]
    exact hread (tail ++ (more ++ rest))

end

/-! ## Records -/

section

variable {l : Layout ρ} {draft next : ρ}

/-- An entry whose key names a field that the draft has not, feeds the field's value to it. -/
theorem Layout.feeds {slot : Slot ρ} {key : String} {text : List Char}
    (hslot : l.slots.find? (·.key = key) = some slot) (hnew : slot.filled draft = false)
    (hpart : EntryPart key text part) (hread : Reads (slot.fill draft) text next) :
    Feeds l.member draft part next := by
  refine hpart.feeds fun s w rest hw hrest hcolon => ?_
  obtain ⟨_, hcolon⟩ := hcolon
  obtain ⟨_, hfill⟩ := hread.yields w rest hw hrest
  simp only [Layout.member, hslot, hnew]
  rw [if_neg Bool.false_ne_true, hcolon]
  simp only [hfill]
  exact .of_ok rfl rfl

/-- A record is read as the draft that its entries gather, if it lacks no field. -/
theorem record_reads (hheld : Held '\x7d' true parts body)
    (hgather : Gathers l.member l.blank parts draft) (hfull : l.missing? draft = none) :
    Reads (record l) ('\x7b' :: body) draft := by
  refine ⟨⟨_, _, rfl, by decide, by decide⟩, fun w rest hw _ => ?_⟩
  have hs := skipBlank_append hw (by decide : isBlank '\x7b' = false) (body ++ rest)
  obtain ⟨_, hmembers⟩ := membersFrom_held hheld hgather rest (Nat.le_refl _)
  unfold record
  split
  · next h => cases hs.symm.trans h
  · next c r h =>
    cases hs.symm.trans h
    rw [if_pos rfl, Layout.object, members, Loop.enter, hmembers]
    simp only [hfull]
    exact .of_ok rfl rfl

end

/-- Entries take a draft to another one: each key names a field that is still missing, and what
spells the value is read into it. -/
inductive Layout.Fills (l : Layout ρ) : ρ → List (String × Value) → ρ → Prop where
  | nil {draft : ρ} : Fills l draft [] draft
  | cons {draft next last : ρ} {slot : Slot ρ} {key : String} {v : Value}
      {entries : List (String × Value)} (hslot : l.slots.find? (·.key = key) = some slot)
      (hnew : slot.filled draft = false)
      (hread : ∀ text, Spells v text → Reads (slot.fill draft) text next)
      (h : Fills l next entries last) : Fills l draft ((key, v) :: entries) last

theorem Layout.Fills.gathers {l : Layout ρ} {draft last : ρ} {entries : List (String × Value)}
    (hfills : l.Fills draft entries last) (hparts : SpellsEntries entries parts) :
    Gathers l.member draft parts last := by
  induction hfills generalizing parts with
  | nil =>
    rw [SpellsEntries] at hparts
    rw [hparts]
    exact .nil
  | cons hslot hnew hread _ ih =>
    rw [SpellsEntries] at hparts
    obtain ⟨text, part, more, htext, hpart, hmore, rfl⟩ := hparts
    exact .cons (l.feeds hslot hnew hpart (hread text htext)) (ih hmore)

/-- What spells an object is read as the record that its entries fill. -/
theorem record_reads_spelled {l : Layout ρ} {draft : ρ} {entries : List (String × Value)}
    (hfills : l.Fills l.blank entries draft) (hfull : l.missing? draft = none)
    {text : List Char} (h : Spells (.object entries) text) : Reads (record l) text draft := by
  rw [Spells] at h
  obtain ⟨parts, body, hparts, hheld, rfl⟩ := h
  exact record_reads hheld (hfills.gathers hparts) hfull

/-! ## Variants -/

section

variable {variants : List (Variant α)} {v : Variant α} {name : String} {a : α}

theorem findVariant_of_find? (hfind : variants.find? (·.name = name) = some v)
    (rest : List Char) : findVariant variants name rest = .ok v := by
  simp only [findVariant, hfind]

/-- A variant that may stand alone is read from its name. -/
theorem variant_reads_bare (hfind : variants.find? (·.name = name) = some v)
    (hbare : v.bare = some a) {text : List Char} (h : Literal name text) :
    Reads (variant variants) text a := by
  obtain ⟨r, rfl, hname⟩ := text_literal h
  refine ⟨⟨_, _, rfl, by decide, by decide⟩, fun w rest hw _ => ?_⟩
  have hs := skipBlank_append hw (by decide : isBlank '"' = false) (r ++ rest)
  obtain ⟨_, hname⟩ := hname rest
  rw [List.cons_append]
  unfold variant
  split
  · next h => cases hs.symm.trans h
  · next c r h =>
    cases hs.symm.trans h
    rw [if_pos rfl, hname]
    simp only [findVariant_of_find? hfind, hbare]
    exact .of_ok rfl rfl

theorem variantEnd_yields (hw : Blank w) (rest : List Char) :
    Yields (variantEnd (w ++ '\x7d' :: rest)) () rest := by
  have hs := skipBlank_append hw (by decide : isBlank '\x7d' = false) rest
  unfold variantEnd
  split
  · next h => cases hs.symm.trans h
  · next c r h =>
    cases hs.symm.trans h
    rw [if_pos rfl]
    exact .of_ok rfl rfl

/-- The object is read after its opening bracket. -/
theorem variantObject_yields (hfind : variants.find? (·.name = name) = some v)
    {text : List Char} (hpart : EntryPart name text part) (hheld : Held '\x7d' true [part] body)
    (hread : Reads v.payload text a) (rest : List Char) :
    Yields (variantObject variants (body ++ rest)) a rest := by
  obtain ⟨literal, before, after, hliteral, hbefore, hafter, rfl⟩ := hpart
  obtain ⟨r, rfl, hname⟩ := text_literal hliteral
  cases hheld with
  | @first w _ closing _ hw hclosing =>
    cases hclosing with
    | @close _ w' hw' =>
      have hbody : w ++ ('"' :: r ++ (before ++ ':' :: (after ++ text)) ++ (w' ++ ['\x7d'])) ++
          rest = w ++ '"' :: (r ++
            (before ++ ':' :: (after ++ (text ++ (w' ++ '\x7d' :: rest))))) := by
        simp
      rw [hbody]
      obtain ⟨_, hend⟩ := variantEnd_yields hw' rest
      have hends : Ends (w' ++ '\x7d' :: rest) := .append hw' (.inr (.inr rfl))
      obtain ⟨_, hpayload⟩ := hread.yields after _ hafter hends
      obtain ⟨_, hcolon⟩ := colon_yields hbefore (after ++ (text ++ (w' ++ '\x7d' :: rest)))
      obtain ⟨_, hname⟩ := hname (before ++ ':' :: (after ++ (text ++ (w' ++ '\x7d' :: rest))))
      have hs := fun r => skipBlank_append hw (by decide : isBlank '"' = false) r
      unfold variantObject
      split
      · next h => cases (hs _).symm.trans h
      · next c r h =>
        cases (hs _).symm.trans h
        rw [if_pos rfl, hname]
        simp only [bind, Except.bind, findVariant_of_find? hfind, hcolon, hpayload, hend]
        exact .of_ok rfl rfl

/-- A variant is read from an object with its name for the only key. -/
theorem variant_reads_object (hfind : variants.find? (·.name = name) = some v)
    {text : List Char} (hpart : EntryPart name text part) (hheld : Held '\x7d' true [part] body)
    (hread : Reads v.payload text a) : Reads (variant variants) ('\x7b' :: body) a := by
  refine ⟨⟨_, _, rfl, by decide, by decide⟩, fun w rest hw _ => ?_⟩
  have hs := skipBlank_append hw (by decide : isBlank '\x7b' = false) (body ++ rest)
  obtain ⟨_, hobject⟩ := variantObject_yields hfind hpart hheld hread rest
  unfold variant
  split
  · next h => cases hs.symm.trans h
  · next c r h =>
    cases hs.symm.trans h
    rw [if_neg (by decide), if_pos rfl, hobject]
    exact .of_ok rfl rfl

/-- What spells an object of one entry is read as the variant of its key. -/
theorem variant_reads_spelled (hfind : variants.find? (·.name = name) = some v)
    {payload : Value} (hread : ∀ text, Spells payload text → Reads v.payload text a)
    {text : List Char} (h : Spells (.object [(name, payload)]) text) :
    Reads (variant variants) text a := by
  simp only [Spells, SpellsEntries] at h
  obtain ⟨_, body, ⟨text, part, _, htext, hpart, rfl, rfl⟩, hheld, rfl⟩ := h
  exact variant_reads_object hfind hpart hheld (hread text htext)

end

end SchemaRules.Json
