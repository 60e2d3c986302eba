import TableDump.Fault
import TableDump.Text.Ranges
import TableDump.Text.Hex

/-! # Names in documents

* `isXmlChar`: the characters that XML 1.0 allows; `isXmlText`: texts of them.
* `isLocalName`: the names of XML 1.0, fifth edition, that hold no colon.
* `QualifiedName`: a local name in a namespace or in none, written `{namespace}local`.
* `isReference`: texts that can stand for a namespace, by the characters of a URI reference.
-/

namespace TableDump.Markup
open TableDump.Text
set_option autoImplicit false

/-! ## Characters -/

def xmlCharBounds : List Nat :=
  [0x9, 0xB, 0xD, 0xE, 0x20, 0xD800, 0xE000, 0xFFFE, 0x10000, 0x110000]

def isXmlChar (c : Char) : Bool := inRanges xmlCharBounds c.toNat

def isXmlText (s : String) : Bool := s.toList.all isXmlChar

def nameStartBounds : List Nat :=
  [0x41, 0x5B, 0x5F, 0x60, 0x61, 0x7B, 0xC0, 0xD7, 0xD8, 0xF7, 0xF8, 0x300, 0x370, 0x37E, 0x37F, 0x2000,
    0x200C, 0x200E, 0x2070, 0x2190, 0x2C00, 0x2FF0, 0x3001, 0xD800, 0xF900, 0xFDD0, 0xFDF0, 0xFFFE,
    0x10000, 0xF0000]

/-- What a name may hold behind its first character, beside what it may begin with. -/
def nameRestBounds : List Nat :=
  [0x2D, 0x2F, 0x30, 0x3A, 0xB7, 0xB8, 0x300, 0x370, 0x203F, 0x2041]

def isNameStart (c : Char) : Bool := inRanges nameStartBounds c.toNat

def isNameChar (c : Char) : Bool := isNameStart c || inRanges nameRestBounds c.toNat

def isLocalName (s : String) : Bool :=
  match s.toList with
  | [] => false
  | c :: rest => isNameStart c && rest.all isNameChar

/-! ## Namespaces -/

def isReferenceChar (c : Char) : Bool :=
  c.isAlphanum || "-._~:/?@!$&'()*+,;=%[]".toList.contains c

/-- A percent sign is followed by two hexadecimal digits. -/
def percentsPaired : List Char → Bool
  | [] => true
  | '%' :: a :: b :: rest => (hexValue? a).isSome && (hexValue? b).isSome && percentsPaired rest
  | c :: rest => c != '%' && percentsPaired rest

/-- Before a first colon stands the name of a scheme, or something that cannot be one part of a path. -/
def schemeFits (cs : List Char) : Bool :=
  let first := cs.takeWhile fun c => !"/?#".toList.contains c
  if first.contains ':' then
    match first.takeWhile (· != ':') with
    | [] => false
    | c :: rest => c.isAlpha && rest.all fun c => c.isAlphanum || "+-.".toList.contains c
  else true

def isReference (s : String) : Bool :=
  let cs := s.toList
  let fragment := (cs.dropWhile (· != '#')).drop 1
  (cs.takeWhile (· != '#')).all isReferenceChar && fragment.all isReferenceChar && percentsPaired cs &&
    schemeFits cs

/-! ## Qualified names -/

structure QualifiedName where
  space : Option String
  localName : String
deriving DecidableEq, Repr

namespace QualifiedName

/-- Splits the namespace off; an empty one is none. -/
def split : List Char → Except Fault QualifiedName
  | [] => .error .emptyTag
  | '{' :: rest =>
    match rest.dropWhile (· != '}') with
    | [] => .error .unclosedNamespace
    | [_] => .error .emptyTag
    | _ :: name =>
      let space := rest.takeWhile (· != '}')
      .ok ⟨if space.isEmpty then none else some (String.ofList space), String.ofList name⟩
  | cs => .ok ⟨none, String.ofList cs⟩

def read (s : String) : Except Fault QualifiedName :=
  if isXmlText s then split s.toList else .error .notXmlText

/-- The name of an element. -/
def forElement (s : String) : Except Fault QualifiedName := do
  let q ← read s
  if !isLocalName q.localName then throw (.invalidTag q.localName)
  if !(q.space.getD "" |> isReference) then throw (.invalidNamespace (q.space.getD ""))
  return q

/-- The name of an attribute. -/
def forAttribute (s : String) : Except Fault QualifiedName := do
  let q ← read s
  if isLocalName q.localName then return q else throw (.invalidAttribute q.localName)

end QualifiedName
end TableDump.Markup
