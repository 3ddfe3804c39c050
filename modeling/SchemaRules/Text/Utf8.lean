/-!
# UTF-8

Characters as bytes, and bytes as characters. `Utf8.encode` writes characters, `Utf8.decode?`
accepts exactly what `encode` writes, and `Utf8.lossy` reads any bytes: each ill-formed part
becomes one `U+FFFD`.
-/

namespace SchemaRules.Utf8

/-- The number of bytes that the characters take. -/
def byteCount (cs : List Char) : Nat :=
  cs.foldr (fun c n => c.utf8Size + n) 0

@[simp] theorem byteCount_nil : byteCount [] = 0 := rfl

@[simp] theorem byteCount_cons (c : Char) (cs : List Char) :
    byteCount (c :: cs) = c.utf8Size + byteCount cs := rfl

/-- The bytes of the characters. -/
def encode (cs : List Char) : List UInt8 :=
  cs.flatMap String.utf8EncodeChar

/-- The text of well-formed bytes. -/
def decode? (bytes : List UInt8) : Option String :=
  String.fromUTF8? ⟨bytes.toArray⟩

/-- The range of the second byte after a lead byte, and the number of bytes after the lead.
A byte that leads nothing has none. -/
def lead? (b : UInt8) : Option (UInt8 × UInt8 × Nat) :=
  if 0xC2 ≤ b && b ≤ 0xDF then some (0x80, 0xBF, 1)
  else if b == 0xE0 then some (0xA0, 0xBF, 2)
  else if b == 0xED then some (0x80, 0x9F, 2)
  else if 0xE1 ≤ b && b ≤ 0xEF then some (0x80, 0xBF, 2)
  else if b == 0xF0 then some (0x90, 0xBF, 3)
  else if 0xF1 ≤ b && b ≤ 0xF3 then some (0x80, 0xBF, 3)
  else if b == 0xF4 then some (0x80, 0x8F, 3)
  else none

/-- The bits that a lead byte with `n` bytes after it gives to its character. -/
def leadBits (b : UInt8) (n : Nat) : Nat :=
  b.toNat % 1 <<< (6 - n)

/-- The bytes after a lead byte that belong to one character, as many as are well-formed. -/
def tail (low high : UInt8) : Nat → List UInt8 → List UInt8
  | 0, _ => []
  | _, [] => []
  | n + 1, b :: rest => if low ≤ b && b ≤ high then b :: tail 0x80 0xBF n rest else []

/-- The character that one lead byte and the bytes after it begin with, and the number of bytes
after the lead that it takes. An ill-formed start is `U+FFFD`. -/
def readOne (b : UInt8) (rest : List UInt8) : Char × Nat :=
  if b < 0x80 then (Char.ofNat b.toNat, 0)
  else match lead? b with
    | none => ('\uFFFD', 0)
    | some (low, high, n) =>
      let more := tail low high n rest
      if more.length = n then
        (Char.ofNat (more.foldl (fun acc x => acc * 64 + x.toNat % 64) (leadBits b n)), n)
      else ('\uFFFD', more.length)

/-- The text of any bytes: an ill-formed part, as long as it could begin a character, becomes
one `U+FFFD`. -/
def lossyChars : List UInt8 → List Char
  | [] => []
  | b :: rest =>
    let (c, n) := readOne b rest
    c :: lossyChars (rest.drop n)
termination_by bytes => bytes.length

/-- The text of any bytes, with `U+FFFD` for what is ill-formed. -/
def lossy (bytes : List UInt8) : String :=
  String.ofList (lossyChars bytes)

end SchemaRules.Utf8
