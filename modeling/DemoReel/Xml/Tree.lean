/-!
# Trees of documents

What a library for XML makes of a document: elements with text and other elements in them. An
element is looked for by its name alone, whatever namespace it belongs to.
-/

namespace DemoReel.Xml

/-- A name that may belong to a namespace. -/
structure QName where
  /-- What stands before the colon; empty without one. -/
  qualifier : String
  base : String
  deriving DecidableEq, Repr

structure Attribute where
  name : QName
  value : String
  deriving DecidableEq, Repr

/-- A node of a document. -/
inductive Node where
  | element (name : QName) (attributes : List Attribute) (children : List Node)
  | text (content : String)
  /-- A comment or an instruction. -/
  | aside

/-- An element. -/
structure Element where
  name : QName
  attributes : List Attribute := []
  children : List Node := []

namespace Node

def element? : Node → Option Element
  | .element name attributes children => some { name, attributes, children }
  | .text _ | .aside => none

end Node

namespace Element

def toNode (e : Element) : Node := .element e.name e.attributes e.children

/-- The elements directly inside with a name; namespaces do not matter. -/
def named (e : Element) (base : String) : List Element :=
  (e.children.filterMap Node.element?).filter (·.name.base == base)

/-- The text that an element starts with, if it starts with text. -/
def text? (e : Element) : Option String :=
  match e.children with
  | .text t :: _ => some t
  | _ => none

end Element

/-- A library for XML: the root element of a document, if the text is one. -/
abbrev Library := String → Option Element

end DemoReel.Xml
