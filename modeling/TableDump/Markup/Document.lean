import TableDump.Markup.Element

/-! # Documents

A document is a declaration and one root element, whose rows stand on lines of their own.

* `declaration`, `startTag`, `rowLines`, `endTag` are the parts in the order in which they are written;
* `readRoot` takes any text apart as the name of the root; it is not checked to be a name.
-/

namespace TableDump.Markup
set_option autoImplicit false

def declaration : String := "<?xml version='1.0' encoding='utf-8'?>\n"

def rowIndent : String := "\n  "

def readRoot : Json → Except Fault QualifiedName
  | .str s => QualifiedName.read s
  | j => .error (.notNameText j.kind)

def startTag (root : QualifiedName) : String := "<" ++ ({ name := root } : Element).startText ++ ">"

def endTag (root : QualifiedName) : String :=
  "</" ++ Element.nameIn ({ name := root } : Element).spaces root ++ ">"

def rowLines (rows : List Element) : String := String.join (rows.map fun e => rowIndent ++ e.render)

/-- The document of a root with its rows. -/
def document (root : QualifiedName) (rows : List Element) : String :=
  declaration ++ startTag root ++ rowLines rows ++ "\n" ++ endTag root

end TableDump.Markup
