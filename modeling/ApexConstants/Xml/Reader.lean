import ApexConstants.Xml.Doctype
import ApexConstants.Xml.Element

namespace ApexConstants.Xml

def xmlSpace : String := "http://www.w3.org/XML/1998/namespace"

def xmlnsSpace : String := "http://www.w3.org/2000/xmlns/"

namespace Doctype

/-- Every opening tag has its closing tag among the pieces, `depth` more being open. -/
def isBalanced : Nat → List Markup → Bool
  | depth, [] => depth == 0
  | depth, .opening _ _ false :: rest => isBalanced (depth + 1) rest
  | 0, .closing _ :: _ => false
  | depth + 1, .closing _ :: rest => isBalanced depth rest
  | depth, _ :: rest => isBalanced depth rest

def expandWith (entity : Nat → String → Option (List Markup × Nat)) (budget : Nat) :
    List Markup → Option (List Markup × Nat)
  | [] => some ([], budget)
  | .entity name :: rest => do
    let (inner, budget) ← entity budget name
    let (outer, budget) ← expandWith entity budget rest
    some (inner ++ outer, budget)
  | piece :: rest => do
    let (outer, budget) ← expandWith entity budget rest
    some (piece :: outer, budget)

/-- What an entity stands for in content. An entity must not refer to itself, so `fuel` bounds how
deep references lead. -/
def expandEntity (d : Doctype) (fuel : Nat) (budget : Nat) (name : String) :
    Option (List Markup × Nat) :=
  match fuel, d.entityNamed? name with
  | fuel + 1, some (.internal text) =>
    if budget < text.length then none
    else do
      let pieces ← content? false text
      if isBalanced 0 pieces then
        expandWith (d.expandEntity fuel) (budget - text.length) pieces
      else none
  | _, _ => none

def expand (d : Doctype) (fuel : Nat) (budget : Nat) (pieces : List Markup) :
    Option (List Markup × Nat) := expandWith (d.expandEntity fuel) budget pieces

def attributeValue? (d : Doctype) (element name : RawName) (data : List Datum) : Option String :=
  let rule := d.attributes.find? fun rule => rule.element == element && rule.name == name
  d.valueText? (rule.all (·.isText)) data

def defaults (d : Doctype) (element : RawName) (given : List (RawName × String)) :
    List (RawName × String) :=
  d.attributes.filterMap fun rule =>
    if rule.element == element && !(given.any fun (name, _) => name == rule.name) then
      rule.default.map fun value => (rule.name, value)
    else none

end Doctype

abbrev Scope := List (Option String × Option String)

namespace Scope

def initial : Scope := [(some "xml", some xmlSpace)]

/-- Declares the namespace of a prefix, or the default. The two reserved prefixes and addresses
belong together, and only the default can be taken back. -/
def declare? (scope : Scope) (lead : Option String) (uri : String) : Option Scope :=
  if uri.toList.contains '\x7d' then none
  else if lead == some "xmlns" || uri == xmlnsSpace then none
  else if (lead == some "xml") != (uri == xmlSpace) then none
  else if uri.isEmpty then
    if lead.isNone then some ((none, none) :: scope) else none
  else some ((lead, some uri) :: scope)

def resolve? (scope : Scope) (n : RawName) (isElement : Bool) : Option Name :=
  match n.lead with
  | some lead => (scope.lookup (some lead)).bind fun uri => uri.map fun uri => ⟨some uri, n.base⟩
  | none => some ⟨if isElement then (scope.lookup none).join else none, n.base⟩

end Scope

def declaredPrefix? (n : RawName) : Option (Option String) :=
  match n.lead, n.base with
  | none, "xmlns" => some none
  | some "xmlns", base => some (some base)
  | _, _ => none

structure OpenElement where
  raw : RawName
  name : Name
  attributes : List (Name × String)
  text : List Char := []
  children : List (Element × List Char) := []
  scope : Scope

namespace OpenElement

/-- Takes text, which belongs to the last child or, before the first, to the element itself. -/
def addText (e : OpenElement) (cs : List Char) : OpenElement :=
  match e.children with
  | [] => { e with text := cs.reverseAux e.text }
  | (child, tail) :: rest => { e with children := (child, cs.reverseAux tail) :: rest }

def addChild (e : OpenElement) (child : Element) : OpenElement :=
  { e with children := (child, []) :: e.children }

def textOf (cs : List Char) : Option String :=
  if cs.isEmpty then none else some (String.ofList cs.reverse)

def close (e : OpenElement) : Element where
  name := e.name
  attributes := e.attributes
  text := textOf e.text
  children := e.children.reverse.map fun (child, tail) => { child with tail := textOf tail }

end OpenElement

/-- Opens an element: its declarations of namespaces hold for its own name, too. No two attributes
have one name, as written or as meant. -/
def openElement? (d : Doctype) (scope : Scope) (raw : RawName)
    (given : List (RawName × List Datum)) : Option OpenElement := do
  if (given.map Prod.fst).eraseDups.length != given.length then none
  let values ← given.mapM fun (name, data) => do some (name, ← d.attributeValue? raw name data)
  let values := values ++ d.defaults raw values
  let scope ← values.foldlM (fun scope (name, value) =>
    match declaredPrefix? name with
    | some lead => scope.declare? lead value
    | none => some scope) scope
  let attributes ← (values.filter fun (name, _) => (declaredPrefix? name).isNone).mapM
    fun (name, value) => do some (← scope.resolve? name false, value)
  if (attributes.map Prod.fst).eraseDups.length != attributes.length then none
  some { raw, name := ← scope.resolve? raw true, attributes, scope }

structure Growing where
  opened : List OpenElement := []
  root : Option Element := none

namespace Growing

def place (root : Option Element) (element : Element) : List OpenElement → Growing
  | [] => ⟨[], some element⟩
  | parent :: rest => ⟨parent.addChild element :: rest, root⟩

def step (d : Doctype) (g : Growing) (piece : Markup) : Option Growing :=
  match piece, g.opened with
  | .text cs, e :: rest => some { g with opened := e.addText cs :: rest }
  | .data cs, e :: rest => some { g with opened := e.addText cs :: rest }
  | .text cs, [] => if cs.all isSpace then some g else none
  | .opening raw given closed, opened => do
    if opened.isEmpty && g.root.isSome then none
    let e ← openElement? d ((opened.head?.map OpenElement.scope).getD Scope.initial) raw given
    some (if closed then place g.root e.close opened else { g with opened := e :: opened })
  | .closing raw, e :: rest => if e.raw == raw then some (place g.root e.close rest) else none
  | _, _ => none

end Growing

def prologWithin (ordinals standalone : Bool) : Nat → Option Doctype → List Char →
    Option (Doctype × List Char)
  | 0, _, _ => none
  | fuel + 1, d, cs =>
    match cs with
    | '<' :: '!' :: '-' :: '-' :: rest => do prologWithin ordinals standalone fuel d (← comment? rest)
    | '<' :: '?' :: rest => do prologWithin ordinals standalone fuel d (← instruction? ordinals rest)
    | '<' :: '!' :: 'D' :: 'O' :: 'C' :: 'T' :: 'Y' :: 'P' :: 'E' :: rest =>
      match d with
      | some _ => none
      | none => do
        let (d, after) ← Doctype.ofChars? ordinals standalone rest
        prologWithin ordinals standalone fuel (some d) after
    | '<' :: rest => some (d.getD {}, '<' :: rest)
    | c :: rest => if isSpace c then prologWithin ordinals standalone fuel d rest else none
    | [] => none

def hasPlainMargins : Nat → List Markup → Bool
  | _, [] => true
  | depth, .opening _ _ closed :: rest => hasPlainMargins (if closed then depth else depth + 1) rest
  | depth, .closing _ :: rest => hasPlainMargins (depth - 1) rest
  | depth, .entity _ :: rest => depth != 0 && hasPlainMargins depth rest
  | depth, _ :: rest => hasPlainMargins depth rest

def Document.root? (document : Document) : Option Element := do
  let standalone := document.declaration.any (·.standalone)
  let (d, body) ←
    prologWithin document.ordinals standalone (document.text.length + 1) none document.text
  let pieces ← content? document.ordinals body
  if !hasPlainMargins 0 pieces then none
  let (pieces, _) ← d.expand d.depthLimit Doctype.expansionLimit pieces
  let grown ← pieces.foldlM (Growing.step d) {}
  if grown.opened.isEmpty then grown.root else none

def read (content : ByteArray) : Except Fault Element := do
  match (← Document.ofBytes content).root? with
  | some root => return root
  | none => throw .malformed

end ApexConstants.Xml
