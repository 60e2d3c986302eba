/-! # UTF-8

* `utf8`: the bytes of a text;
* `utf8Chars`: the characters that bytes stand for, with `none` at each maximal part that is not
  well formed;
* `utf8Text?` refuses such a part, `utf8Lossy` shows it as U+FFFD.
-/

namespace TableDump.Text
set_option autoImplicit false

def utf8 (s : String) : List UInt8 := s.toList.flatMap String.utf8EncodeChar

/-- What is still to come of a character: how many bytes, the bounds of the next one, and the
value so far. -/
structure Utf8State where
  missing : Nat := 0
  low : Nat := 0x80
  high : Nat := 0xBF
  value : Nat := 0

/-- A byte at the start of a character: what it gives, and what has to follow. -/
def Utf8State.start (b : Nat) : List (Option Char) × Utf8State :=
  if b < 0x80 then ([some (Char.ofNat b)], ⟨0, 0x80, 0xBF, 0⟩)
  else if 0xC2 ≤ b ∧ b ≤ 0xDF then ([], ⟨1, 0x80, 0xBF, b - 0xC0⟩)
  else if 0xE0 ≤ b ∧ b ≤ 0xEF then
    ([], ⟨2, if b = 0xE0 then 0xA0 else 0x80, if b = 0xED then 0x9F else 0xBF, b - 0xE0⟩)
  else if 0xF0 ≤ b ∧ b ≤ 0xF4 then
    ([], ⟨3, if b = 0xF0 then 0x90 else 0x80, if b = 0xF4 then 0x8F else 0xBF, b - 0xF0⟩)
  else ([none], ⟨0, 0x80, 0xBF, 0⟩)

def Utf8State.step (s : Utf8State) (b : Nat) : List (Option Char) × Utf8State :=
  if s.missing = 0 then start b
  else if s.low ≤ b ∧ b ≤ s.high then
    if s.missing = 1 then ([some (Char.ofNat (s.value * 64 + (b - 0x80)))], ⟨0, 0x80, 0xBF, 0⟩)
    else ([], ⟨s.missing - 1, 0x80, 0xBF, s.value * 64 + (b - 0x80)⟩)
  else
    let (out, next) := start b
    (none :: out, next)

def Utf8State.run (s : Utf8State) : List UInt8 → List (Option Char)
  | [] => if s.missing = 0 then [] else [none]
  | b :: rest =>
    let (out, next) := s.step b.toNat
    out ++ next.run rest

def utf8Chars (bytes : List UInt8) : List (Option Char) := Utf8State.run ⟨0, 0x80, 0xBF, 0⟩ bytes

def utf8Text? (bytes : List UInt8) : Option String := ((utf8Chars bytes).mapM id).map String.ofList

def utf8Lossy (bytes : List UInt8) : String :=
  String.ofList ((utf8Chars bytes).map fun c => c.getD '\uFFFD')

end TableDump.Text
