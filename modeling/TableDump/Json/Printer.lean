import TableDump.Json.Basic
import TableDump.Number.Shortest
import TableDump.Text.Hex

/-! # Writing JSON

`Json.render` writes a value on one line without blanks. Control characters, the quote and the
backslash are escaped in texts, all else stands as it is.
-/

namespace TableDump.Json
open TableDump.Number TableDump.Text
set_option autoImplicit false

def escapedChar (c : Char) : List Char :=
  if c = '"' ∨ c = '\\' then ['\\', c]
  else if c = '\n' then ['\\', 'n']
  else if c = '\r' then ['\\', 'r']
  else if c = '\t' then ['\\', 't']
  else if c.toNat < 0x20 then '\\' :: 'u' :: hexPadded 4 c.toNat
  else [c]

def renderText (s : String) : String :=
  String.ofList ('"' :: s.toList.flatMap escapedChar ++ ['"'])

def renderFloat : Binary64 → String
  | .infinite negative => signText negative ++ "Infinity"
  | .notANumber => "NaN"
  | x => x.text

mutual

def render : Json → String
  | null => "null"
  | bool b => if b then "true" else "false"
  | int n => toString n
  | float x => renderFloat x
  | str s => renderText s
  | arr items => "[" ++ ",".intercalate (renderItems items) ++ "]"
  | obj members => "\x7b" ++ ",".intercalate (renderMembers members) ++ "\x7d"

def renderItems : List Json → List String
  | [] => []
  | j :: rest => render j :: renderItems rest

def renderMembers : List (String × Json) → List String
  | [] => []
  | (key, j) :: rest => (renderText key ++ ":" ++ render j) :: renderMembers rest

end

end TableDump.Json
