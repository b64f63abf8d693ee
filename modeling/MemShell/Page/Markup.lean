import MemShell.Text.Blank

/-!
# Markup

What the page shows is a tree of elements. An element carries the listeners that it has for
events, so one tree says both how the page looks (`html`) and who hears an event (`lineages`).
-/

namespace MemShell

/-- An element without its children, with listeners of type `H`. -/
structure Tag (H : Type) where
  name : String
  /-- Attributes with their values, in alphabetical order. -/
  attributes : List (String × String)
  /-- The text in an input field, which is no attribute. -/
  value : Option String
  /-- The events that are listened for. -/
  listeners : List (String × H)

inductive Markup (H : Type) where
  | text (text : String)
  /-- A drawn symbol. -/
  | icon (name : String)
  | element (tag : Tag H) (children : List (Markup H))

namespace Tag

variable {H : Type}

/-- The words of the class attribute. An element without the attribute is of no class. -/
def classes (tag : Tag H) : List String :=
  Text.words ((tag.attributes.lookup "class").getD "")

/-- The element is of the given class or has the given tag name. -/
def answersTo (tag : Tag H) (name : String) : Bool :=
  tag.name == name || tag.classes.contains name

/-- The listeners for an event. -/
def hearing (tag : Tag H) (event : String) : List H :=
  (tag.listeners.filter (·.1 == event)).map (·.2)

end Tag

namespace Markup

variable {H : Type}

def escapeChar (c : Char) : List Char :=
  if c = '&' then "&amp;".toList
  else if c = '<' then "&lt;".toList
  else if c = '>' then "&gt;".toList
  else if c = '"' then "&quot;".toList
  else [c]

def escape (text : String) : String := String.ofList (text.toList.flatMap escapeChar)

def attributeText (attr : String × String) : String :=
  " " ++ attr.1 ++ "=\"" ++ escape attr.2 ++ "\""

/-- The attributes, and after them the text of an input field. -/
def attributesText (tag : Tag H) : String :=
  String.join (tag.attributes.map attributeText) ++
    (tag.value.map fun value => attributeText (".value", value)).getD ""

mutual

/-- The markup as text; every element has an end tag. -/
def html : Markup H → String
  | text t => escape t
  | icon name => "<icon " ++ name ++ ">"
  | element tag children =>
    "<" ++ tag.name ++ attributesText tag ++ ">" ++ htmlAll children ++ "</" ++ tag.name ++ ">"

def htmlAll : List (Markup H) → String
  | [] => ""
  | node :: nodes => html node ++ htmlAll nodes

end

/-- A symbol is an element too, without listeners. -/
def symbol : Tag H := ⟨"svg", [], none, []⟩

mutual

/-- For each element in document order, the element and what it stands in, innermost first. -/
def lineages (above : List (Tag H)) : Markup H → List (List (Tag H))
  | text _ => []
  | icon _ => [symbol :: above]
  | element tag children => (tag :: above) :: lineagesAll (tag :: above) children

def lineagesAll (above : List (Tag H)) : List (Markup H) → List (List (Tag H))
  | [] => []
  | node :: nodes => lineages above node ++ lineagesAll above nodes

end

/-- The element with `count` others before it that answer to the name, and what it stands in. -/
def target? (root : Markup H) (name : String) (count : Nat) : Option (List (Tag H)) :=
  ((lineages [] root).filter fun lineage => lineage.head?.any (·.answersTo name))[count]?

/-! ## Building markup -/

/-- An element with attributes only. -/
def plain (name : String) (attributes : List (String × String)) (children : List (Markup H)) :
    Markup H :=
  element ⟨name, attributes, none, []⟩ children

/-- An element of a class, with listeners. -/
def live (name cls : String) (listeners : List (String × H)) (children : List (Markup H)) :
    Markup H :=
  element ⟨name, [("class", cls)], none, listeners⟩ children

/-- A block of a class. -/
def div (cls : String) (children : List (Markup H)) : Markup H :=
  plain "div" [("class", cls)] children

/-- A stretch of text of a class. -/
def span (cls : String) (children : List (Markup H)) : Markup H :=
  plain "span" [("class", cls)] children

end Markup

end MemShell
