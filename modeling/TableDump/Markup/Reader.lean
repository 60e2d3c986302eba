import TableDump.Markup.Name

/-! # Reading documents

A reader of XML 1.0 that knows no namespaces, for documents of elements, attributes, texts and
references; comments, instructions and document types are refused.

* `Node`: an element with its attributes in order and its content, or a text.
* `readNode?`: a document is an optional declaration and one element, with blanks around it.
* Line ends become line feeds first. In an attribute value every blank that is written as itself then
  becomes a space, while one written as a reference stays; references are resolved.

A reader takes what is left of the text and gives back what it read and what is left then; no element
is nested deeper than the text is long, which bounds the recursion.
-/

namespace TableDump.Markup
open TableDump.Text
set_option autoImplicit false

inductive Node
  | text (s : String)
  | element (name : String) (attributes : List (String × String)) (content : List Node)
deriving Repr

namespace Node

/-- The elements directly inside a node, by their names and attributes. -/
def rows : Node → List (String × List (String × String))
  | text _ => []
  | element _ _ content => content.filterMap fun
    | text _ => none
    | element name attributes _ => some (name, attributes)

def name? : Node → Option String
  | text _ => none
  | element name _ _ => some name

end Node

/-! ## Characters -/

def isSpace (c : Char) : Bool := c = ' ' || c = '\t' || c = '\n' || c = '\r'

def skipSpace (cs : List Char) : List Char := cs.dropWhile isSpace

def normalizeLineEnds : List Char → List Char
  | [] => []
  | '\r' :: '\n' :: rest => '\n' :: normalizeLineEnds rest
  | c :: rest => (if c = '\r' then '\n' else c) :: normalizeLineEnds rest

def isTagChar (c : Char) : Bool := isNameChar c || c = ':'

/-- A name, which may hold colons. -/
def readName? (cs : List Char) : Option (String × List Char) :=
  match cs with
  | [] => none
  | c :: _ =>
    if isNameStart c || c = ':' then some (String.ofList (cs.takeWhile isTagChar), cs.dropWhile isTagChar)
    else none

/-! ## References -/

def readNumber? (base : Nat) (cs : List Char) : Option Nat :=
  if cs.isEmpty then none
  else (cs.mapM fun c => (hexValue? c).filter fun d => decide (d < base)).map fun digits =>
    digits.foldl (fun n d => n * base + d) 0

def charOf? (n : Nat) : Option Char :=
  if n.isValidChar then some (Char.ofNat n) |>.filter isXmlChar else none

/-- What a reference stands for, without its marks. -/
def referred? : List Char → Option Char
  | '#' :: 'x' :: digits => (readNumber? 16 digits).bind charOf?
  | '#' :: digits => (readNumber? 10 digits).bind charOf?
  | cs => [("amp", '&'), ("lt", '<'), ("gt", '>'), ("quot", '"'), ("apos", '\'')].lookup (String.ofList cs)

/-- A reference from behind its first mark on. -/
def readReference? (cs : List Char) : Option (Char × List Char) :=
  match cs.dropWhile (· != ';') with
  | [] => none
  | _ :: rest => (referred? (cs.takeWhile (· != ';'))).map fun c => (c, rest)

/-! ## Attributes -/

/-- An attribute value up to its closing quote, what was read before in reverse. -/
def readValue? (quote : Char) (done : List Char) : Nat → List Char → Option (String × List Char)
  | 0, _ => none
  | _ + 1, [] => none
  | fuel + 1, c :: rest =>
    if c = quote then some (String.ofList done.reverse, rest)
    else if c = '<' then none
    else if c = '&' then (readReference? rest).bind fun (c, rest) => readValue? quote (c :: done) fuel rest
    else readValue? quote ((if isSpace c then ' ' else c) :: done) fuel rest

def readAttribute? (cs : List Char) : Option ((String × String) × List Char) := do
  let (name, rest) ← readName? cs
  match skipSpace rest with
  | '=' :: rest => match skipSpace rest with
    | quote :: rest =>
      if quote = '"' ∨ quote = '\'' then
        let (value, rest) ← readValue? quote [] (rest.length + 1) rest
        return ((name, value), rest)
      else none
    | [] => none
  | _ => none

/-- Attributes, each behind a blank and no two of one name, up to what is none. -/
def readAttributes? (done : List (String × String)) : Nat → List Char → Option (List (String × String) × List Char)
  | 0, _ => none
  | fuel + 1, cs =>
    let rest := skipSpace cs
    match rest with
    | [] => none
    | c :: _ =>
      if c = '/' ∨ c = '>' ∨ c = '?' then some (done, rest)
      else if rest.length = cs.length then none
      else match readAttribute? rest with
        | none => none
        | some ((name, value), rest) =>
          if done.any fun entry => entry.1 == name then none
          else readAttributes? (done ++ [(name, value)]) fuel rest

/-! ## Elements -/

/-- A text up to the next tag, what was read before in reverse. It does not hold `]]>`. -/
def readText? (done : List Char) : Nat → List Char → Option (String × List Char)
  | 0, _ => none
  | _ + 1, [] => some (String.ofList done.reverse, [])
  | fuel + 1, c :: rest =>
    if c = '<' then some (String.ofList done.reverse, c :: rest)
    else if c = '&' then (readReference? rest).bind fun (c, rest) => readText? (c :: done) fuel rest
    else if c = ']' ∧ [']', '>'].isPrefixOf rest then none
    else readText? (c :: done) fuel rest

/-- The closing tag of `name`. -/
def readEnd? (name : String) (cs : List Char) : Option (List Char) := do
  let (found, rest) ← readName? cs
  match skipSpace rest with
  | '>' :: rest => if found = name then some rest else none
  | _ => none

mutual

/-- An element from behind its first bracket on. -/
def readElement? : Nat → List Char → Option (Node × List Char)
  | 0, _ => none
  | fuel + 1, cs => do
    let (name, rest) ← readName? cs
    let (attributes, rest) ← readAttributes? [] (rest.length + 1) rest
    match rest with
    | '/' :: '>' :: rest => return (.element name attributes [], rest)
    | '>' :: rest =>
      let (content, rest) ← readContent? [] fuel rest
      let rest ← readEnd? name rest
      return (.element name attributes content, rest)
    | _ => none

/-- Elements and texts up to behind the marks of a closing tag, those read before in reverse. -/
def readContent? (done : List Node) : Nat → List Char → Option (List Node × List Char)
  | 0, _ => none
  | fuel + 1, cs => match cs with
    | '<' :: '/' :: rest => some (done.reverse, rest)
    | '<' :: rest => match readElement? fuel rest with
      | none => none
      | some (node, rest) => readContent? (node :: done) fuel rest
    | _ => match readText? [] (cs.length + 1) cs with
      | none => none
      | some (s, rest) => if rest.length < cs.length then readContent? (.text s :: done) fuel rest else none

end

/-! ## Documents -/

/-- What stands behind the declaration, if there is one. -/
def skipDeclaration? (cs : List Char) : Option (List Char) :=
  match cs with
  | '<' :: '?' :: 'x' :: 'm' :: 'l' :: rest => match readAttributes? [] (rest.length + 1) rest with
    | some (_, '?' :: '>' :: rest) => some rest
    | _ => none
  | cs => some cs

def readNode? (s : String) : Option Node := do
  let cs := normalizeLineEnds s.toList
  if !cs.all isXmlChar then none
  let rest ← skipDeclaration? cs
  match skipSpace rest with
  | '<' :: rest =>
    let (node, rest) ← readElement? rest.length rest
    if (skipSpace rest).isEmpty then return node else none
  | _ => none

end TableDump.Markup
