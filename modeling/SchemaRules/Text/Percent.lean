import SchemaRules.Text.Utf8

/-!
# Percent encoding

A byte that a text may not hold as it is, is written as `%` and two hexadecimal digits.
`Percent.encode` escapes the bytes of a set and every byte outside ASCII, and `Percent.decode`
undoes every escape.

* `Percent.decode_encode`: what is encoded is read back, if the set has `%` in it.
-/

namespace SchemaRules.Percent

/-- The hexadecimal digit of a number below 16. -/
def hexDigit (n : Nat) : Char :=
  if n < 10 then Char.ofNat (0x30 + n) else Char.ofNat (0x41 + (n - 10))

/-- The value of a hexadecimal digit in either case. -/
def hexValue? (c : Char) : Option Nat :=
  if '0' ≤ c ∧ c ≤ '9' then some (c.toNat - 0x30)
  else if 'A' ≤ c ∧ c ≤ 'F' then some (c.toNat - 0x41 + 10)
  else if 'a' ≤ c ∧ c ≤ 'f' then some (c.toNat - 0x61 + 10)
  else none

/-- The escape of a byte. -/
def escape (b : UInt8) : List Char :=
  ['%', hexDigit (b.toNat / 16), hexDigit (b.toNat % 16)]

/-- Whether a byte is written as an escape: it is outside ASCII or in the set. -/
def isEscaped (set : UInt8 → Bool) (b : UInt8) : Bool :=
  0x80 ≤ b || set b

/-- The text of bytes. -/
def encode (set : UInt8 → Bool) (bytes : List UInt8) : List Char :=
  bytes.flatMap fun b => if isEscaped set b then escape b else [Char.ofNat b.toNat]

/-- The text of the UTF-8 bytes of characters. -/
def encodeText (set : UInt8 → Bool) (cs : List Char) : List Char :=
  encode set (Utf8.encode cs)

/-- The byte of an escape with two digits. -/
def byte? (high low : Char) : Option UInt8 := do
  return UInt8.ofNat (16 * (← hexValue? high) + (← hexValue? low))

/-- The bytes of a text. A `%` without two digits after it stands for itself. -/
def decode : List Char → List UInt8
  | '%' :: high :: low :: rest =>
    match byte? high low with
    | some b => b :: decode rest
    | none => 0x25 :: decode (high :: low :: rest)
  | c :: rest => String.utf8EncodeChar c ++ decode rest
  | [] => []

theorem hexValue?_hexDigit : (n : Nat) → n < 16 → hexValue? (hexDigit n) = some n := by
  have all : ∀ n ∈ List.range 16, hexValue? (hexDigit n) = some n := by decide
  exact fun n h => all n (List.mem_range.2 h)

theorem byte?_hexDigit (b : UInt8) :
    byte? (hexDigit (b.toNat / 16)) (hexDigit (b.toNat % 16)) = some b := by
  have hb : b.toNat < 256 := UInt8.toNat_lt b
  rw [byte?, hexValue?_hexDigit _ (by omega), hexValue?_hexDigit _ (by omega)]
  show some (UInt8.ofNat (16 * (b.toNat / 16) + b.toNat % 16)) = some b
  rw [Nat.div_add_mod, UInt8.ofNat_toNat]

theorem decode_escape (b : UInt8) (rest : List Char) :
    decode (escape b ++ rest) = b :: decode rest := by
  simp [escape, decode, byte?_hexDigit]

theorem decode_cons_of_ne {c : Char} (h : c ≠ '%') (rest : List Char) :
    decode (c :: rest) = String.utf8EncodeChar c ++ decode rest := by
  rw [decode]
  exact fun _ _ _ hc => absurd hc h

theorem utf8EncodeChar_ofNat {b : UInt8} (h : b < 0x80) :
    String.utf8EncodeChar (Char.ofNat b.toNat) = [b] := by
  have hlt : b.toNat < 128 := by simpa using UInt8.lt_iff_toNat_lt.1 h
  have hval : (Char.ofNat b.toNat).val.toNat = b.toNat := by
    have valid : b.toNat.isValidChar := Or.inl (by omega)
    exact congrArg (fun c : Char => c.val.toNat) (dif_pos valid)
  simp [String.utf8EncodeChar, hval, show b.toNat ≤ 127 by omega]

theorem ofNat_ne_percent {b : UInt8} (h : b < 0x80) (hb : b ≠ 0x25) : Char.ofNat b.toNat ≠ '%' := by
  intro e
  have := utf8EncodeChar_ofNat h
  rw [e] at this
  exact hb (List.cons.inj (this.symm.trans (by decide : String.utf8EncodeChar '%' = [0x25]))).1

theorem decode_encode {set : UInt8 → Bool} (hset : set 0x25 = true) (bytes : List UInt8) :
    decode (encode set bytes) = bytes := by
  induction bytes with
  | nil => rfl
  | cons b rest ih =>
    rw [encode, List.flatMap_cons]
    split
    · rw [decode_escape]
      exact congrArg _ ih
    · next h =>
      simp only [isEscaped, Bool.or_eq_true, decide_eq_true_eq, not_or] at h
      have hlt : b < 0x80 := UInt8.not_le.1 h.1
      have hne : b ≠ 0x25 := fun e => h.2 (e ▸ hset)
      rw [List.singleton_append, decode_cons_of_ne (ofNat_ne_percent hlt hne),
        utf8EncodeChar_ofNat hlt]
      exact congrArg _ ih

end SchemaRules.Percent
