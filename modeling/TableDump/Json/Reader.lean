import TableDump.Json.Basic
import TableDump.Number.Shortest
import TableDump.Text.Hex

/-! # Reading JSON

* `Json.parse?` reads a whole text as one value, or not at all.
* Of two members with one name the last counts, in the place of the first.
* Numbers with a fraction or an exponent are floating point; `NaN`, `Infinity` and `-Infinity` are read.
  Whole numbers have no more than `digitLimit` digits.
* A pair of surrogate escapes is one character. Texts are made of characters, which no lone surrogate is:
  its escape is read as U+FFFD, and nothing here tells of texts that hold one.
* No depth of nesting is refused here.

A reader takes what is left of the text and gives back a value and what is left then. Values nest no
deeper than the text is long, which bounds the recursion.
-/

namespace TableDump.Json
open TableDump.Number TableDump.Text
set_option autoImplicit false

def isSpace (c : Char) : Bool := c = ' ' || c = '\t' || c = '\n' || c = '\r'

def skipSpace (cs : List Char) : List Char := cs.dropWhile isSpace

/-! ## Numbers -/

/-- The digits that `cs` begins with, and the rest. -/
def spanDigits (cs : List Char) : List Char × List Char :=
  (cs.takeWhile Char.isDigit, cs.dropWhile Char.isDigit)

def spanFraction : List Char → List Char × List Char
  | '.' :: rest =>
    let (digits, after) := spanDigits rest
    if digits.isEmpty then ([], '.' :: rest) else ('.' :: digits, after)
  | cs => ([], cs)

def spanExponent : List Char → List Char × List Char
  | c :: rest =>
    if c = 'e' ∨ c = 'E' then
      let (sign, digits) := match rest with
        | '+' :: after => (['+'], after)
        | '-' :: after => (['-'], after)
        | _ => ([], rest)
      let (value, after) := spanDigits digits
      if value.isEmpty then ([], c :: rest) else (c :: sign ++ value, after)
    else ([], c :: rest)
  | [] => ([], [])

/-- A number without its minus sign: no zero stands before other digits. -/
def readNumber? (negative : Bool) (cs : List Char) : Option (Json × List Char) :=
  let (whole, rest) := match cs with
    | '0' :: rest => (['0'], rest)
    | _ => spanDigits cs
  if whole.isEmpty then none
  else
    let (fraction, rest) := spanFraction rest
    let (exponent, rest) := spanExponent rest
    let isWhole := fraction.isEmpty && exponent.isEmpty
    if isWhole ∧ digitLimit < whole.length then none
    else (Numeral.read? (whole ++ fraction ++ exponent)).map fun n =>
      if isWhole then (int (if negative then -(n.coefficient : Int) else n.coefficient), rest)
      else (float (.ofNumeral { n with negative }), rest)

/-! ## Texts -/

def readHex4? : List Char → Option (Nat × List Char)
  | a :: b :: c :: d :: rest => do
    let a ← hexValue? a
    let b ← hexValue? b
    let c ← hexValue? c
    let d ← hexValue? d
    return (((a * 16 + b) * 16 + c) * 16 + d, rest)
  | _ => none

def simpleEscape? : Char → Option Char
  | '"' => some '"'
  | '\\' => some '\\'
  | '/' => some '/'
  | 'b' => some '\x08'
  | 'f' => some '\x0c'
  | 'n' => some '\n'
  | 'r' => some '\r'
  | 't' => some '\t'
  | _ => none

def isHighSurrogate (n : Nat) : Bool := 0xD800 ≤ n && n ≤ 0xDBFF

def isLowSurrogate (n : Nat) : Bool := 0xDC00 ≤ n && n ≤ 0xDFFF

/-- The character of one or two `\u` escapes, from behind the first `u` on. -/
def readUnicode? (cs : List Char) : Option (Char × List Char) := do
  let (high, rest) ← readHex4? cs
  if isHighSurrogate high then
    match rest with
    | '\\' :: 'u' :: after => match readHex4? after with
      | some (low, afterLow) =>
        if isLowSurrogate low then
          return (Char.ofNat (0x10000 + (high - 0xD800) * 0x400 + (low - 0xDC00)), afterLow)
        else return ('\uFFFD', rest)
      | none => return ('\uFFFD', rest)
    | _ => return ('\uFFFD', rest)
  else if isLowSurrogate high then return ('\uFFFD', rest)
  else return (Char.ofNat high, rest)

/-- The characters up to the closing quote, put before in reverse. -/
def readText? (done : List Char) : Nat → List Char → Option (String × List Char)
  | 0, _ => none
  | _ + 1, [] => none
  | fuel + 1, c :: rest =>
    if c = '"' then some (String.ofList done.reverse, rest)
    else if c = '\\' then
      match rest with
      | 'u' :: after => (readUnicode? after).bind fun (c, after) => readText? (c :: done) fuel after
      | e :: after => (simpleEscape? e).bind fun c => readText? (c :: done) fuel after
      | [] => none
    else if c.toNat < 0x20 then none
    else readText? (c :: done) fuel rest

/-! ## Values -/

/-- Adds a member, in the place of one with the same name. -/
def setMember (key : String) (value : Json) : List (String × Json) → List (String × Json)
  | [] => [(key, value)]
  | (k, v) :: rest => if k = key then (k, value) :: rest else (k, v) :: setMember key value rest

theorem lookup_setMember_self (key : String) (value : Json) (members : List (String × Json)) :
    lookup key (setMember key value members) = some value := by
  induction members with
  | nil => simp [setMember, lookup]
  | cons entry rest ih =>
    obtain ⟨k, v⟩ := entry
    by_cases h : k = key <;> simp [setMember, lookup, h, ih]

theorem lookup_setMember_of_ne {key other : String} (h : other ≠ key) (value : Json)
    (members : List (String × Json)) : lookup other (setMember key value members) = lookup other members := by
  induction members with
  | nil => simp [setMember, lookup, h.symm]
  | cons entry rest ih =>
    obtain ⟨k, v⟩ := entry
    by_cases hk : k = key
    · simp [setMember, lookup, hk, h.symm]
    · rw [setMember, if_neg hk, lookup, lookup, ih]

def wordAt? (cs : List Char) : Option (Json × List Char) :=
  let named := [("null", null), ("true", bool true), ("false", bool false), ("NaN", float .notANumber),
    ("Infinity", float (.infinite false)), ("-Infinity", float (.infinite true))]
  named.findSome? fun (word, value) =>
    if word.toList.isPrefixOf cs then some (value, cs.drop word.length) else none

mutual

def readValue? : Nat → List Char → Option (Json × List Char)
  | 0, _ => none
  | fuel + 1, cs => match skipSpace cs with
    | '"' :: rest => (readText? [] (rest.length + 1) rest).map fun (s, rest) => (str s, rest)
    | '[' :: rest => match skipSpace rest with
      | ']' :: after => some (arr [], after)
      | _ => readItems? [] fuel rest
    | '{' :: rest => match skipSpace rest with
      | '}' :: after => some (obj [], after)
      | _ => readMembers? [] fuel rest
    | cs => match wordAt? cs with
      | some found => some found
      | none => match cs with
        | '-' :: rest => readNumber? true rest
        | _ => readNumber? false cs

/-- The items of a list from the next one on, those before it in reverse. -/
def readItems? (done : List Json) : Nat → List Char → Option (Json × List Char)
  | 0, _ => none
  | fuel + 1, cs => match readValue? fuel cs with
    | none => none
    | some (value, rest) => match skipSpace rest with
      | ',' :: after => readItems? (value :: done) fuel after
      | ']' :: after => some (arr (value :: done).reverse, after)
      | _ => none

/-- The members of an object from the next one on, those before it in order. -/
def readMembers? (done : List (String × Json)) : Nat → List Char → Option (Json × List Char)
  | 0, _ => none
  | fuel + 1, cs => match skipSpace cs with
    | '"' :: rest => match readText? [] (rest.length + 1) rest with
      | none => none
      | some (key, rest) => match skipSpace rest with
        | ':' :: after => match readValue? fuel after with
          | none => none
          | some (value, rest) => match skipSpace rest with
            | ',' :: after => readMembers? (setMember key value done) fuel after
            | '}' :: after => some (obj (setMember key value done), after)
            | _ => none
        | _ => none
    | _ => none

end

def parse? (s : String) : Option Json :=
  let cs := s.toList
  match readValue? (cs.length + 2) cs with
  | some (value, rest) => if (skipSpace rest).isEmpty then some value else none
  | none => none

end TableDump.Json
