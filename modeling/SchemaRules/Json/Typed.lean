import SchemaRules.Json.Document
import SchemaRules.Json.Skip

/-!
# Reading values of a known type

A document of a known type is read without building a tree, so that its failures are found in
the order of the text, whether they are of form or of type. A record is written as an object or,
by position, as a list; a variant as its name or as an object with its name for a key.

* `record`: a record from the description of its fields (`Layout`).
* `variant`: one of several named variants.
-/

namespace SchemaRules.Json

/-- A failure at a reason, or the value. -/
def checked {α : Type} (result : Except Reason α) (rest : List Char) : Except Failure α :=
  match result with
  | .ok a => .ok a
  | .error reason => failHere reason rest

/-- The failure that a value is not of the wanted type. A scalar is read first; an array or an
object is not. -/
def mismatch {α : Type} (wanted : String) (c : Char) (r : List Char) : Except Failure α :=
  match scalar? c r with
  | some (.error e) => .error e
  | some (.ok st) => failHere (.invalidType (.scalar st.value) wanted) st.rest
  | none =>
    if c = '[' then failHere (.invalidType .sequence wanted) (c :: r)
    else if c = '\x7b' then failHere (.invalidType .map wanted) (c :: r)
    else failAhead .expectedValue (c :: r)

/-- A string that passes a check. -/
def stringWith {α : Type} (wanted : String) (check : String → Except Reason α) : Reader α :=
  fun s =>
    match h : skipBlank s with
    | [] => failAhead .endInValue []
    | c :: r =>
      have hs : r.length < s.length := length_lt_of_skipBlank h
      if c = '"' then
        match text r with
        | .error e => .error e
        | .ok st =>
          (checked (check st.value) st.rest).map fun a => (st.map fun _ => a).within hs
      else mismatch wanted c r

/-- Any string. -/
def string : Reader String :=
  stringWith "a string" .ok

/-- A string of one character. -/
def character : Reader Char :=
  stringWith "a character" fun s =>
    match s.toList with
    | [c] => .ok c
    | _ => .error (.invalidValue (.scalar (.string s)) "a character")

/-- The value `null`. -/
def unit : Reader Unit := fun s =>
  match h : skipBlank s with
  | [] => failAhead .endInValue []
  | c :: r =>
    have hs : r.length < s.length := length_lt_of_skipBlank h
    if c = 'n' then (word ['u', 'l', 'l'] r).map (·.upTo hs)
    else mismatch "unit" c r

/-- What a number must be to count something, in 64 bits. -/
def toCount : Number → Except Reason UInt64
  | .int n =>
    if 0 ≤ n then .ok (UInt64.ofNat n.toNat)
    else .error (.invalidValue (.scalar (.number (.int n))) "usize")
  | .float x => .error (.invalidType (.scalar (.number (.float x))) "usize")

/-- A whole number that is not negative. -/
def count : Reader UInt64 := fun s =>
  match h : skipBlank s with
  | [] => failAhead .endInValue []
  | c :: r =>
    have hs : r.length < s.length := length_lt_of_skipBlank h
    if c = '-' then
      match numeral true r with
      | .error e => .error e
      | .ok st => (checked (toCount st.value) st.rest).map fun n => (st.map fun _ => n).within hs
    else if c.isDigit then
      match numeral false (c :: r) with
      | .error e => .error e
      | .ok st => (checked (toCount st.value) st.rest).map fun n => (st.map fun _ => n).upTo hs
    else mismatch "usize" c r

/-- A list of values of one type. -/
def listOf {α : Type} (wanted : String) (item : Reader α) : Reader (List α) := fun s =>
  match h : skipBlank s with
  | [] => failAhead .endInValue []
  | c :: r =>
    have hs : r.length < s.length := length_lt_of_skipBlank h
    if c = '[' then (sequence item r).map (·.within hs)
    else mismatch wanted c r

/-- One of the variants of a type. -/
structure Variant (α : Type) where
  name : String
  /-- What the bare name stands for, if it may stand alone. -/
  bare : Option α
  /-- The value of an object with the name for a key. -/
  payload : Reader α

/-- The variant of a name. -/
def findVariant {α : Type} (variants : List (Variant α)) (name : String) (rest : List Char) :
    Except Failure (Variant α) :=
  match variants.find? (·.name = name) with
  | some v => .ok v
  | none => failHere (.unknownVariant name (variants.map (·.name))) rest

/-- The end of a variant written as an object, which holds nothing else. -/
def variantEnd (s : List Char) : Except Failure (Step Unit s.length) :=
  match h : skipBlank s with
  | [] => failHere .endInObject []
  | c :: r =>
    if c = '\x7d' then .ok ⟨(), r, length_lt_of_skipBlank h⟩
    else failHere .expectedValue (c :: r)

/-- A variant written as an object, after its opening bracket. -/
def variantObject {α : Type} (variants : List (Variant α)) : Reader α := fun s =>
  match h : skipBlank s with
  | [] => failAhead .endInObject []
  | c :: r =>
    have hs : r.length < s.length := length_lt_of_skipBlank h
    if c = '"' then do
      let name ← text r
      let v ← findVariant variants name.value name.rest
      let after ← colon name.rest
      let payload ← v.payload after.rest
      let stop ← variantEnd payload.rest
      let all := name.andThen (after.andThen (payload.andThen stop))
      return (all.map fun _ => payload.value).within hs
    else if c = '\x7d' then failAhead .expectedValue (c :: r)
    else failAhead .keyNotString (c :: r)

/-- One of several variants. A bare name whose variant needs a value is a failure that the value
around it places. -/
def variant {α : Type} (variants : List (Variant α)) : Reader α := fun s =>
  match h : skipBlank s with
  | [] => failAhead .endInValue []
  | c :: r =>
    have hs : r.length < s.length := length_lt_of_skipBlank h
    if c = '"' then
      match text r with
      | .error e => .error e
      | .ok name =>
        match findVariant variants name.value name.rest with
        | .error e => .error e
        | .ok v =>
          match v.bare with
          | some a => .ok ((name.map fun _ => a).within hs)
          | none => .error (.unplaced (.invalidType .unitVariant "newtype variant") name.rest)
    else if c = '\x7b' then (variantObject variants r).map (·.within hs)
    else failAhead .expectedValue (c :: r)

/-- A field of a record that is gathered in a draft. -/
structure Slot (ρ : Type) where
  key : String
  required : Bool
  /-- Whether the draft has the field. -/
  filled : ρ → Bool
  /-- Reads the field into the draft. -/
  fill : ρ → Reader ρ

/-- What a record looks like. -/
structure Layout (ρ : Type) where
  /-- What messages call the record. -/
  name : String
  /-- A draft without any field. -/
  blank : ρ
  /-- The fields, in their order in a list. -/
  slots : List (Slot ρ)

namespace Layout

variable {ρ : Type}

/-- How messages describe the record. -/
def wanted (l : Layout ρ) : String :=
  "struct " ++ l.name

/-- How messages describe the record's list. -/
def wantedLength (l : Layout ρ) : String :=
  l.wanted ++ " with " ++ toString l.slots.length ++ " elements"

/-- Reads what follows a key: a field, which must be new, or a value that nobody asks for. -/
def member (l : Layout ρ) (draft : ρ) (key : String) : Reader ρ := fun s =>
  match l.slots.find? (·.key = key) with
  | some slot =>
    if slot.filled draft then .error (.unplaced (.duplicateField key) s)
    else
      match colon s with
      | .error e => .error e
      | .ok after => (slot.fill draft after.rest).map after.andThen
  | none =>
    match colon s with
    | .error e => .error e
    | .ok after => (skip after.rest).map fun st => (after.andThen st).map fun _ => draft

/-- The first field that a draft needs and does not have. -/
def missing? (l : Layout ρ) (draft : ρ) : Option String :=
  (l.slots.find? fun slot => slot.required && !slot.filled draft).map (·.key)

/-- A record written as an object, after its opening bracket. -/
def object (l : Layout ρ) : Reader ρ := fun s =>
  match members l.member l.blank s with
  | .error e => .error e
  | .ok st =>
    match l.missing? st.value with
    | some key => failHere (.missingField key) st.rest
    | none => .ok st

/-- The end of a record's list, when all fields have been read. -/
def listEnd {bound : Nat} (draft : ρ) (s : List Char) (h : s.length ≤ bound) :
    Except Failure (Step ρ bound) :=
  match k : skipBlank s with
  | [] => failAhead .endInList []
  | c :: r =>
    have hr : r.length < s.length := length_lt_of_skipBlank k
    if c = ']' then .ok (Step.bounded ⟨draft, r, hr⟩ h)
    else if c = ',' then
      match skipBlank r with
      | ']' :: t => failAhead .trailingComma (']' :: t)
      | t => failAhead .trailingCharacters t
    else failAhead .trailingCharacters (c :: r)

/-- The fields of a record's list from the one at an index, up to and with the closing bracket.
A list may end early if no field after it is required. -/
def fields {bound : Nat} (l : Layout ρ) (slots : List (Slot ρ)) (index : Nat) (draft : ρ)
    (s : List Char) (h : s.length ≤ bound) : Except Failure (Step ρ bound) :=
  match slots with
  | [] => listEnd draft s h
  | slot :: more =>
    match listTurn (index == 0) s with
    | .error e => .error e
    | .ok (.close r hr) =>
      match (slot :: more).findIdx? (·.required) with
      | some i => failHere (.invalidLength (index + i) l.wantedLength) r
      | none => .ok (Step.bounded ⟨draft, r, hr⟩ h)
    | .ok (.item t ht) =>
      match slot.fill draft t with
      | .error e => .error (e.settle .list)
      | .ok st => fields l more (index + 1) st.value st.rest (st.rest_le (Nat.le_trans ht h))

/-- A record written as a list, after its opening bracket. -/
def list (l : Layout ρ) : Reader ρ :=
  Loop.enter (l.fields l.slots 0 l.blank)

end Layout

/-- A record. -/
def record {ρ : Type} (l : Layout ρ) : Reader ρ := fun s =>
  match h : skipBlank s with
  | [] => failAhead .endInValue []
  | c :: r =>
    have hs : r.length < s.length := length_lt_of_skipBlank h
    if c = '\x7b' then (l.object r).map (·.within hs)
    else if c = '[' then (l.list r).map (·.within hs)
    else mismatch l.wanted c r

/-- A reader followed by a function. -/
def Reader.map {α β : Type} (f : α → β) (reader : Reader α) : Reader β := fun s =>
  (reader s).map (·.map f)

end SchemaRules.Json
