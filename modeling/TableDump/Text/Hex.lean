/-! # Hexadecimal text

* `hexText`: two upper case digits for each byte;
* `hexBytes?`: the bytes that a hexadecimal text, in either case, stands for;
* `hexPadded`: a number in lower case digits, zeros put before it up to a width.
-/

namespace TableDump.Text
set_option autoImplicit false

/-! ## Digits -/

def upperHexDigit (n : Nat) : Char := if n < 10 then Char.ofNat (48 + n) else Char.ofNat (55 + n)

def lowerHexDigit (n : Nat) : Char := if n < 10 then Char.ofNat (48 + n) else Char.ofNat (87 + n)

def hexValue? (c : Char) : Option Nat :=
  if '0' ≤ c ∧ c ≤ '9' then some (c.toNat - 48)
  else if 'A' ≤ c ∧ c ≤ 'F' then some (c.toNat - 55)
  else if 'a' ≤ c ∧ c ≤ 'f' then some (c.toNat - 87)
  else none

theorem hexValue?_upperHexDigit : ∀ n : Fin 16, hexValue? (upperHexDigit n) = some n.val := by decide

/-! ## Bytes -/

def hexPair (b : UInt8) : List Char := [upperHexDigit (b.toNat / 16), upperHexDigit (b.toNat % 16)]

def hexText (bytes : List UInt8) : String := String.ofList (bytes.flatMap hexPair)

def hexDecode : List Char → Option (List UInt8)
  | [] => some []
  | [_] => none
  | a :: b :: rest => do
    let high ← hexValue? a
    let low ← hexValue? b
    let bytes ← hexDecode rest
    return UInt8.ofNat (16 * high + low) :: bytes

def hexBytes? (s : String) : Option (List UInt8) := hexDecode s.toList

theorem hexDecode_flatMap_hexPair (bytes : List UInt8) : hexDecode (bytes.flatMap hexPair) = some bytes := by
  induction bytes with
  | nil => rfl
  | cons b rest ih =>
    have hb := b.toNat_lt
    have high := hexValue?_upperHexDigit ⟨b.toNat / 16, by omega⟩
    have low := hexValue?_upperHexDigit ⟨b.toNat % 16, by omega⟩
    have hsum : 16 * (b.toNat / 16) + b.toNat % 16 = b.toNat := by omega
    simp only [List.flatMap_cons, hexPair, List.cons_append, List.nil_append, hexDecode, high, low, ih,
      Option.bind_eq_bind, Option.bind_some, hsum, UInt8.ofNat_toNat, Option.pure_def]

theorem hexBytes?_hexText (bytes : List UInt8) : hexBytes? (hexText bytes) = some bytes := by
  rw [hexBytes?, hexText, String.toList_ofList, hexDecode_flatMap_hexPair]

theorem length_hexText (bytes : List UInt8) : (hexText bytes).length = 2 * bytes.length := by
  rw [hexText, String.length_ofList]
  induction bytes with
  | nil => rfl
  | cons b rest ih =>
    simp only [List.flatMap_cons, List.length_append, ih, hexPair, List.length_cons, List.length_nil]
    omega

/-! ## Numbers -/

/-- The last `width` digits of `n`, in base sixteen. -/
def hexPadded : Nat → Nat → List Char
  | 0, _ => []
  | width + 1, n => hexPadded width (n / 16) ++ [lowerHexDigit (n % 16)]

end TableDump.Text
