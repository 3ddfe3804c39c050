import SchemaRules.Json.Failure

/-!
# Readers

A reader takes a value off the front of a text and returns what is left, with a proof that this
is shorter: a loop over the items of an array ends because the text does.

* `Step`: a value with what is left, and the ways in which one step follows another.
* `Loop`: a reader that goes round, with one bound for all its rounds.
* `Turn`: what comes next between brackets, the closing one or another item.
* `sequence`: the items of a list, with any reader for one item.
* `members`: the entries of an object, with any reader for the value after a key.
* `word`, `text`: the words `null`, `true`, `false`, and the rest of a string after its quote.
-/

namespace SchemaRules.Json

/-- A value and the text after it, which is shorter than a bound. -/
structure Step (α : Type) (bound : Nat) where
  value : α
  rest : List Char
  short : rest.length < bound

namespace Step

variable {α β : Type} {n bound : Nat} {r s : List Char}

/-- A value with the text that is left after it. -/
def leaving (a : α) (rest : List Char) : Step α (rest.length + 1) :=
  ⟨a, rest, Nat.lt_succ_self _⟩

/-- A value with the text that is left after the first characters of a class. -/
def leavingAfter (a : α) (p : Char → Bool) (text : List Char) : Step α (text.length + 1) :=
  ⟨a, text.dropWhile p, Nat.lt_succ_of_le (List.dropWhile_suffix p).length_le⟩

/-- Another value with the same text after it. -/
def map (f : α → β) (st : Step α n) : Step β n :=
  ⟨f st.value, st.rest, st.short⟩

/-- The same step in a text with one character more. -/
def succ (st : Step α n) : Step α (n + 1) :=
  ⟨st.value, st.rest, Nat.lt_succ_of_lt st.short⟩

/-- The same step in a text with more characters. -/
def within (st : Step α r.length) (h : r.length < s.length) : Step α s.length :=
  ⟨st.value, st.rest, Nat.lt_trans st.short h⟩

/-- A step that may have taken nothing, in a text with more characters. -/
def upTo (st : Step α (r.length + 1)) (h : r.length < s.length) : Step α s.length :=
  ⟨st.value, st.rest, Nat.lt_of_lt_of_le st.short h⟩

/-- The same step under a greater bound. -/
def bounded (st : Step α s.length) (h : s.length ≤ bound) : Step α bound :=
  ⟨st.value, st.rest, Nat.lt_of_lt_of_le st.short h⟩

/-- One step and the next. -/
def andThen (st : Step α n) (next : Step β st.rest.length) : Step β n :=
  ⟨next.value, next.rest, Nat.lt_trans next.short st.short⟩

/-- One step and the next, which may have taken nothing. -/
def andScan (st : Step α n) (next : Step β (st.rest.length + 1)) : Step β n :=
  ⟨next.value, next.rest, Nat.lt_of_lt_of_le next.short st.short⟩

@[simp] theorem bounded_value (st : Step α s.length) (h : s.length ≤ bound) :
    (st.bounded h).value = st.value := rfl

theorem rest_lt (st : Step α s.length) (h : s.length ≤ bound) : st.rest.length < bound :=
  Nat.lt_of_lt_of_le st.short h

theorem rest_le (st : Step α s.length) (h : s.length ≤ bound) : st.rest.length ≤ bound :=
  Nat.le_of_lt (st.rest_lt h)

theorem rest_le_of_lt (st : Step α r.length) (h : r.length < bound) : st.rest.length ≤ bound :=
  st.rest_le (Nat.le_of_lt h)

end Step

/-- A reader takes at least one character. -/
abbrev Reader (α : Type) := (s : List Char) → Except Failure (Step α s.length)

/-- A scanner may take none. -/
abbrev Scanner (α : Type) := (s : List Char) → Except Failure (Step α (s.length + 1))

/-- A loop reads on in a text that is not longer than a bound. The bound stays from round to
round, so that the last round can end the loop with a step in the whole text. -/
abbrev Loop (α : Type) :=
  {bound : Nat} → (s : List Char) → s.length ≤ bound → Except Failure (Step α bound)

/-- Enters a loop with a whole text. -/
def Loop.enter {α : Type} (loop : Loop α) : Reader α := fun s =>
  loop s (Nat.le_refl s.length)

/-- The rest of a word whose first letter has been read. -/
def word : List Char → Scanner Unit
  | [], s => .ok (.leaving () s)
  | _ :: _, [] => failHere .endInValue []
  | e :: more, c :: r =>
    if c = e then (word more r).map (·.succ) else failAhead .expectedWord (c :: r)

/-- The value of a hexadecimal digit. -/
def hexValue? (c : Char) : Option Nat :=
  if '0' ≤ c ∧ c ≤ '9' then some (c.toNat - 48)
  else if 'a' ≤ c ∧ c ≤ 'f' then some (c.toNat - 87)
  else if 'A' ≤ c ∧ c ≤ 'F' then some (c.toNat - 55)
  else none

/-- The number that four hexadecimal digits write. -/
def hex4? (a b c d : Char) : Option Nat := do
  return ((← hexValue? a) * 16 + (← hexValue? b)) * 256 + (← hexValue? c) * 16 + (← hexValue? d)

/-- The four digits of an escaped code. They are taken as four bytes: with fewer left the text
ends in the string, and bytes that are no digits are taken before they are refused. -/
def hexCode (s : List Char) : Except Failure (Step Nat s.length) :=
  if Utf8.byteCount (s.take 4) < 4 then .error (.placed .endInString 0)
  else match s with
    | a :: b :: c :: d :: r =>
      match hex4? a b c d with
      | some n => .ok ⟨n, r, by simp; omega⟩
      | none => .error (.placed .invalidEscape (Utf8.byteCount (a :: b :: c :: d :: r) - 4))
    | s => .error (.placed .invalidEscape (Utf8.byteCount s - 4))

/-- Takes one wanted character of a surrogate pair; another one is taken and refused. -/
def pairMark (wanted : Char) (s : List Char) : Except Failure (Step Unit s.length) :=
  match s with
  | [] => failHere .endInString []
  | c :: r => if c = wanted then .ok (.leaving () r) else failAhead .endOfHexEscape (c :: r)

/-- The character of an escaped code. Half of a surrogate pair needs the other half, leading half
first. -/
def unicodeEscape (s : List Char) : Except Failure (Step Char s.length) := do
  let first ← hexCode s
  if 0xDC00 ≤ first.value ∧ first.value ≤ 0xDFFF then failHere .loneSurrogate first.rest
  else if first.value < 0xD800 ∨ 0xDBFF < first.value then
    return first.map Char.ofNat
  else
    let slash ← pairMark '\\' first.rest
    let mark ← pairMark 'u' slash.rest
    let second ← hexCode mark.rest
    if second.value < 0xDC00 ∨ 0xDFFF < second.value then failHere .loneSurrogate second.rest
    else
      let code := (first.value - 0xD800) * 1024 + (second.value - 0xDC00) + 0x10000
      return (first.andThen (slash.andThen (mark.andThen second))).map fun _ => Char.ofNat code

/-- The character that stands for itself or for a control after a backslash. -/
def shortEscape? (c : Char) : Option Char :=
  if c = '"' ∨ c = '\\' ∨ c = '/' then some c
  else if c = 'b' then some '\x08'
  else if c = 'f' then some '\x0c'
  else if c = 'n' then some '\n'
  else if c = 'r' then some '\r'
  else if c = 't' then some '\t'
  else none

/-- The character of an escape after its backslash. -/
def escape (s : List Char) : Except Failure (Step Char s.length) :=
  match s with
  | [] => failHere .endInString []
  | c :: r =>
    if c = 'u' then (unicodeEscape r).map (·.succ)
    else match shortEscape? c with
      | some x => .ok (.leaving x r)
      | none => failAhead .invalidEscape (c :: r)

/-- The rest of a string after its opening quote; `acc` holds what has been read, backwards. -/
def textTail {bound : Nat} (acc : List Char) (s : List Char) (h : s.length ≤ bound) :
    Except Failure (Step String bound) :=
  match s with
  | [] => failHere .endInString []
  | c :: r =>
    if c = '"' then .ok ⟨String.ofList acc.reverse, r, h⟩
    else if c = '\\' then
      match escape r with
      | .error e => .error e
      | .ok st => textTail (st.value :: acc) st.rest (st.rest_le_of_lt h)
    else if c.toNat < 32 then failHere .controlInString r
    else textTail (c :: acc) r (Nat.le_of_lt h)
termination_by s.length
decreasing_by
  · have := st.short; simp; omega
  · simp

/-- The rest of a string after its opening quote. -/
def text : Reader String :=
  Loop.enter (textTail [])

/-- What comes next between brackets. -/
inductive Turn (bound : Nat) where
  /-- The closing bracket, with the text after it. -/
  | close (rest : List Char) (short : rest.length < bound)
  /-- Another item, with the text that begins with it. -/
  | item (rest : List Char) (le : rest.length ≤ bound)

/-- The next turn in a list. -/
def listTurn (first : Bool) (s : List Char) : Except Failure (Turn s.length) :=
  match h : skipBlank s with
  | [] => failAhead .endInList []
  | c :: r =>
    have hr : r.length < s.length := length_lt_of_skipBlank h
    if c = ']' then .ok (.close r hr)
    else if first then .ok (.item (c :: r) hr)
    else if c = ',' then
      match k : skipBlank r with
      | [] => failAhead .endInValue []
      | d :: t =>
        have ht : t.length < r.length := length_lt_of_skipBlank k
        if d = ']' then failAhead .trailingComma (d :: t)
        else .ok (.item (d :: t) (Nat.lt_trans ht hr))
    else failAhead .expectedListComma (c :: r)

/-- The next turn in an object. An entry is given after the opening quote of its key. -/
def objectTurn (first : Bool) (s : List Char) : Except Failure (Turn s.length) :=
  match h : skipBlank s with
  | [] => failAhead .endInObject []
  | c :: r =>
    have hr : r.length < s.length := length_lt_of_skipBlank h
    if c = '\x7d' then .ok (.close r hr)
    else if first then
      if c = '"' then .ok (.item r (Nat.le_of_lt hr)) else failAhead .keyNotString (c :: r)
    else if c = ',' then
      match k : skipBlank r with
      | [] => failAhead .endInValue []
      | d :: t =>
        have ht : t.length < s.length := Nat.lt_trans (length_lt_of_skipBlank k) hr
        if d = '"' then .ok (.item t (Nat.le_of_lt ht))
        else if d = '\x7d' then failAhead .trailingComma (d :: t)
        else failAhead .keyNotString (d :: t)
    else failAhead .expectedObjectComma (c :: r)

/-- The colon between a key and its value. -/
def colon (s : List Char) : Except Failure (Step Unit s.length) :=
  match h : skipBlank s with
  | [] => failAhead .endInObject []
  | c :: r =>
    if c = ':' then .ok ⟨(), r, length_lt_of_skipBlank h⟩
    else failAhead .expectedColon (c :: r)

/-- The items of a list after those that have been read, up to and with the closing bracket. -/
def itemsFrom {α : Type} {bound : Nat} (item : Reader α) (acc : List α) (first : Bool)
    (s : List Char) (h : s.length ≤ bound) : Except Failure (Step (List α) bound) :=
  match listTurn first s with
  | .error e => .error e
  | .ok (.close r hr) => .ok (Step.bounded ⟨acc.reverse, r, hr⟩ h)
  | .ok (.item t ht) =>
    match item t with
    | .error e => .error (e.settle .list)
    | .ok st => itemsFrom item (st.value :: acc) false st.rest (st.rest_le (Nat.le_trans ht h))
termination_by s.length
decreasing_by exact st.rest_lt ht

/-- The items of a list after its opening bracket, up to and with the closing one. -/
def sequence {α : Type} (item : Reader α) : Reader (List α) :=
  Loop.enter (itemsFrom item [] true)

/-- The entries of an object after those that have been read, up to and with the closing
bracket. -/
def membersFrom {σ : Type} {bound : Nat} (member : σ → String → Reader σ) (state : σ)
    (first : Bool) (s : List Char) (h : s.length ≤ bound) : Except Failure (Step σ bound) :=
  match objectTurn first s with
  | .error e => .error e
  | .ok (.close r hr) => .ok (Step.bounded ⟨state, r, hr⟩ h)
  | .ok (.item t ht) =>
    match text t with
    | .error e => .error (e.settle .object)
    | .ok key =>
      match member state key.value key.rest with
      | .error e => .error (e.settle .object)
      | .ok st =>
        let entry := key.andThen st
        membersFrom member entry.value false entry.rest (entry.rest_le (Nat.le_trans ht h))
termination_by s.length
decreasing_by exact entry.rest_lt ht

/-- The entries of an object after its opening bracket, up to and with the closing one. `member`
reads what follows a key, colon included, and updates what has been gathered. -/
def members {σ : Type} (member : σ → String → Reader σ) (state : σ) : Reader σ :=
  Loop.enter (membersFrom member state true)

/-- A whole text: a value, and nothing but blanks after it. -/
def whole {α : Type} (reader : Reader α) (s : List Char) : Except Failure α :=
  match reader s with
  | .error e => .error e
  | .ok st =>
    match skipBlank st.rest with
    | [] => .ok st.value
    | rest => failAhead .trailingCharacters rest

/-- Reads a text. -/
def read {α : Type} (reader : Reader α) (source : String) : Except ReadError α :=
  (whole reader source.toList).mapError (·.inText source.toList)

end SchemaRules.Json
