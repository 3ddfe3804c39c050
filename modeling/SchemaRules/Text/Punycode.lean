/-!
# Punycode

A text as letters, digits and hyphens. The ASCII characters come first, then after a hyphen the
others, in the order of their code points and of their places: each is a number that says how far
the next insertion is from the last one, and numbers are written with digits whose weights adapt
to the numbers before.

* `Punycode.encode`, `Punycode.decode`: the two directions.
-/

namespace SchemaRules.Punycode

/-- The number of digits. -/
def base : Nat := 36

/-- The first code point that is inserted. -/
def firstCode : Nat := 128

/-- The digit of a number below the base. -/
def digit (n : Nat) : Char :=
  if n < 26 then Char.ofNat ('a'.toNat + n) else Char.ofNat ('0'.toNat + (n - 26))

/-- The number of a digit in lower case. -/
def digitValue? (c : Char) : Option Nat :=
  if 'a' ≤ c ∧ c ≤ 'z' then some (c.toNat - 'a'.toNat)
  else if '0' ≤ c ∧ c ≤ '9' then some (c.toNat - '0'.toNat + 26)
  else none

/-- The least digit after which a number goes on, for the digit at a place under a bias. -/
def threshold (place bias : Nat) : Nat :=
  min 26 (max 1 (base * (place + 1) - bias))

/-- How often a number is divided by 35 until it is at most 455, and what is left. -/
def scale (n : Nat) : Nat × Nat :=
  if 455 < n then
    let (times, rest) := scale (n / 35)
    (times + 1, rest)
  else (0, n)
termination_by n
decreasing_by omega

/-- The bias after a number that was the distance to an insertion. `count` is the number of
characters after it. -/
def adapt (distance count : Nat) (isFirst : Bool) : Nat :=
  let halved := if isFirst then distance / 700 else distance / 2
  let (times, rest) := scale (halved + halved / count)
  base * times + base * rest / (rest + 38)

theorem threshold_pos (place bias : Nat) : 0 < threshold place bias := by
  unfold threshold
  omega

/-- The digits of a number, from a place on. -/
def digits (bias place n : Nat) : List Char :=
  let t := threshold place bias
  if n < t then [digit n]
  else digit (t + (n - t) % (base - t)) :: digits bias (place + 1) ((n - t) / (base - t))
termination_by n
decreasing_by
  have := threshold_pos place bias
  exact Nat.lt_of_le_of_lt (Nat.div_le_self _ _) (by omega)

/-- The state between two insertions: the code point and the place that were last, how many
characters there are, and the bias. -/
structure State where
  code : Nat := firstCode
  place : Nat := 0
  count : Nat
  bias : Nat := 72
  isFirst : Bool := true

/-- The characters that are inserted, as code points with their places among the characters that
are there before. -/
def insertions (text : List Char) : List (Nat × Nat) :=
  let indexed := text.zipIdx.filter fun (c, _) => firstCode ≤ c.toNat
  (indexed.mergeSort fun a b => a.1.toNat ≤ b.1.toNat).map fun (c, i) =>
    (c.toNat, (text.take i).countP fun d => d.toNat ≤ c.toNat)

/-- The numbers of insertions. -/
def encodeFrom (s : State) : List (Nat × Nat) → List Char
  | [] => []
  | (code, place) :: rest =>
    let distance := (code - s.code) * (s.count + 1) + place - s.place
    digits s.bias 0 distance ++
      encodeFrom ⟨code, place + 1, s.count + 1, adapt distance (s.count + 1) s.isFirst, false⟩ rest

/-- The letters, digits and hyphens that stand for a text. -/
def encode (text : List Char) : List Char :=
  let ascii := text.filter fun c => c.toNat < firstCode
  (if ascii.isEmpty then [] else ascii ++ ['-'])
    ++ encodeFrom { count := ascii.length } (insertions text)

/-- The number at the start of digits and what follows it. Numbers are below `2 ^ 32`. -/
def number? (bias : Nat) (text : List Char) (place weight n : Nat) : Option (Nat × List Char) :=
  match text with
  | [] => none
  | c :: rest => do
    let d ← digitValue? c
    let t := threshold place bias
    let n := n + d * weight
    if d < t then return (n, rest)
    else if UInt32.size ≤ weight * (base - t) then none
    else number? bias rest (place + 1) (weight * (base - t)) n

theorem length_lt_of_number? {bias : Nat} {text : List Char} {place weight n m : Nat}
    {rest : List Char} (h : number? bias text place weight n = some (m, rest)) :
    rest.length < text.length := by
  induction text generalizing place weight n with
  | nil => simp [number?] at h
  | cons c tail ih =>
    rw [number?] at h
    cases hd : digitValue? c with
    | none => simp [hd] at h
    | some d =>
      simp only [hd, Option.bind_eq_bind, Option.bind_some] at h
      split at h
      · obtain ⟨-, rfl⟩ := by simpa using h
        simp
      · split at h
        · simp at h
        · exact Nat.lt_succ_of_lt (ih h)

/-- Makes the insertions that numbers say. -/
def decodeFrom (s : State) (inserted text : List Char) : Option (List Char) :=
  match text with
  | [] => some inserted
  | c :: rest =>
    match h : number? s.bias (c :: rest) 0 1 0 with
    | none => none
    | some (distance, after) =>
      let total := s.place + distance
      let code := s.code + total / (s.count + 1)
      let place := total % (s.count + 1)
      if code.isValidChar then
        decodeFrom ⟨code, place + 1, s.count + 1, adapt distance (s.count + 1) s.isFirst, false⟩
          (inserted.insertIdx place (Char.ofNat code)) after
      else none
termination_by text.length
decreasing_by exact length_lt_of_number? h

/-- The parts before and after the last hyphen. A hyphen at the start belongs to the second
part. -/
def splitHyphen (text : List Char) : List Char × List Char :=
  let after := (text.reverse.takeWhile (· != '-')).reverse
  match text.reverse.dropWhile (· != '-') with
  | _ :: before => if before.isEmpty then ([], text) else (before.reverse, after)
  | [] => ([], text)

/-- The text that letters, digits and hyphens stand for, if they stand for one. -/
def decode (text : List Char) : Option (List Char) :=
  let (ascii, coded) := splitHyphen text
  if ascii.all fun c => c.toNat < firstCode then
    decodeFrom { count := ascii.length } ascii coded
  else none

end SchemaRules.Punycode
