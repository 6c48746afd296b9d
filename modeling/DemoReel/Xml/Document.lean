import DemoReel.Xml.Markup
import DemoReel.Xml.Text

/-!
# Documents

The tree of a document. Tags have to match, qualifiers have to be declared, attributes must not come
twice, and outside the root there may be nothing but comments, instructions and white space, and in
front of it one document type.
-/

namespace DemoReel.Xml

/-! ## Namespaces -/

def xmlUri : String := "http://www.w3.org/XML/1998/namespace"

def xmlnsUri : String := "http://www.w3.org/2000/xmlns/"

/-- The namespaces that qualifiers stand for, inner declarations first. The empty qualifier has the
default namespace. -/
abbrev Scope := List (String × String)

/-- What an attribute is for. -/
inductive AttributeRole where
  | plain
  /-- Gives a qualifier a namespace; the empty one stands for the default. -/
  | binds (qualifier uri : String)
  /-- Gives `xml` the namespace that it always has. -/
  | restates
  deriving DecidableEq, Repr

/-- What an attribute is for, if it may stand in a document. The namespaces of `xml` and `xmlns` can
have no other qualifier, and `xml` no other namespace. -/
def role? (a : Attribute) : Option AttributeRole :=
  if a.name.qualifier = "xmlns" then
    if a.value = xmlnsUri then none
    else if a.name.base = "xml" then if a.value = xmlUri then some .restates else none
    else if a.value = xmlUri then none
    else some (.binds a.name.base a.value)
  else if a.name.base = "xmlns" then
    if a.value = xmlUri ∨ a.value = xmlnsUri then none else some (.binds "" a.value)
  else some .plain

/-- The binding of an attribute that makes one. -/
def AttributeRole.binding? : AttributeRole → Option (String × String)
  | .binds qualifier uri => some (qualifier, uri)
  | .plain | .restates => none

/-- The namespace of an attribute: none without a qualifier. The qualifier `xml` needs no
declaration. -/
def namespaceOf? (scope : Scope) (name : QName) : Option (Option String) :=
  if name.qualifier = "" then some none
  else if name.qualifier = "xml" then some (some xmlUri)
  else (scope.lookup name.qualifier).map some

/-- The attributes of a tag and the scope inside it. No qualifier is bound twice, and no two
attributes have the same name in the same namespace. -/
def resolve? (scope : Scope) (raw : List RawAttribute) : Option (List Attribute × Scope) := do
  let all ← raw.mapM fun a => do
    let a : Attribute := { name := a.name, value := ← value? a.value }
    return (a, ← role? a)
  let bindings := all.filterMap (·.2.binding?)
  guard ((bindings.map (·.1)).filter (· ≠ "")).Nodup
  let scope := bindings ++ scope
  let plain := (all.filter (·.2 = .plain)).map (·.1)
  let names ← plain.mapM fun a => return (← namespaceOf? scope a.name, a.name.base)
  guard names.Nodup
  return (plain, scope)

/-! ## The tree -/

/-- An element whose end tag has not come yet, with its nodes in reverse. -/
structure OpenElement where
  name : QName
  attributes : List Attribute
  scope : Scope
  nodes : List Node

/-- What has been read of a document. -/
inductive Progress where
  /-- The root has not come yet; `typed` if the document type has. -/
  | beforeRoot (typed : Bool)
  /-- The element that was opened last, and the ones around it. -/
  | inside (current : OpenElement) (outer : List OpenElement)
  | afterRoot (root : Element)

namespace OpenElement

/-- Puts a node at the end. -/
def add (o : OpenElement) (n : Node) : OpenElement := { o with nodes := n :: o.nodes }

/-- Puts text at the end, as part of a text that ends there. -/
def addText (o : OpenElement) (t : String) : OpenElement :=
  match o.nodes with
  | .text s :: before => { o with nodes := .text (s ++ t) :: before }
  | _ => o.add (.text t)

def finish (o : OpenElement) : Element := ⟨o.name, o.attributes, o.nodes.reverse⟩

end OpenElement

namespace Progress

/-- Puts an element where it belongs. -/
def place (e : Element) : List OpenElement → Progress
  | [] => .afterRoot e
  | parent :: outer => .inside (parent.add e.toNode) outer

/-- Starts an element inside others. Its qualifier has to be declared; `xml` is for attributes
only. -/
def enter? (outer : List OpenElement) (scope : Scope) (name : QName) (raw : List RawAttribute)
    (closed : Bool) : Option Progress := do
  guard (name.qualifier != "xmlns")
  let (attributes, scope) ← resolve? scope raw
  guard (name.qualifier == "" || (scope.lookup name.qualifier).isSome)
  let o : OpenElement := { name, attributes, scope, nodes := [] }
  return if closed then place o.finish outer else .inside o outer

/-- Reads one piece. -/
def step? : Progress → Markup → Option Progress
  | .inside o outer, .text cs =>
    (content? cs).map fun t => .inside (o.addText (String.ofList t)) outer
  | .inside o outer, .verbatim cs => some (.inside (o.addText (String.ofList (verbatim cs))) outer)
  | .inside o outer, .comment | .inside o outer, .instruction => some (.inside (o.add .aside) outer)
  | .inside o outer, .opening name raw closed => enter? (o :: outer) o.scope name raw closed
  | .inside o outer, .closing name => if name = o.name then some (place o.finish outer) else none
  | .beforeRoot false, .doctype => some (.beforeRoot true)
  | .beforeRoot _, .opening name raw closed => enter? [] [] name raw closed
  | p, .comment | p, .instruction => some p
  | p, .text cs => if cs.all isSpace then some p else none
  | _, _ => none

end Progress

/-- The root of a document, if the text is a well-formed one. -/
def document? (text : String) : Option Element := do
  let pieces ← Markup.sequence text
  match ← pieces.foldlM Progress.step? (.beforeRoot false) with
  | .afterRoot root => some root
  | _ => none

end DemoReel.Xml
