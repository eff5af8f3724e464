import SqlFrontEnd.Json.Basic

/-!
# Components of a page

A page is a tree of components.  Each has a tag, attributes, and a content: a text, one component,
or any number of them, or nothing at all.

* `Tag`: the kinds of components.
* `Attribute`: what can be said of a component.
* `Component`: the trees.
* `Component.record`: the record as which a tree is sent to the browser.
-/

namespace SqlFrontEnd.Web

/-- The kinds of components. -/
inductive Tag where
  | division | heading | paragraph | textArea | button | rule
  | table | tableHead | tableBody | tableRow | headerCell | cell | code
deriving DecidableEq, Repr

namespace Tag

/-- The name of a kind in a record. -/
def name : Tag → String
  | division => "Div"
  | heading => "H1"
  | paragraph => "P"
  | textArea => "Textarea"
  | button => "Button"
  | rule => "Hr"
  | table => "Table"
  | tableHead => "Thead"
  | tableBody => "Tbody"
  | tableRow => "Tr"
  | headerCell => "Th"
  | cell => "Td"
  | code => "Code"

/-- Tests for a kind whose record has a place for a content.  A field in which the user writes has
none. -/
def hasContent (tag : Tag) : Bool := tag != .textArea

end Tag

/-- Properties of the appearance of a component, with their values. -/
abbrev Style := List (String × String)

/-- What can be said of a component. -/
inductive Attribute where
  | id (name : String)
  | placeholder (text : String)
  /-- How often the user has clicked. -/
  | clicks (count : Nat)
  | style (properties : Style)
deriving DecidableEq, Repr

/-- The name and the value of an attribute in a record. -/
def Attribute.field : Attribute → Text × Json
  | id name => ("id", .string name)
  | placeholder text => ("placeholder", .string text)
  | clicks count => ("n_clicks", .int count)
  | style properties =>
    ("style", .object (properties.map fun p => (Text.ofString p.1, .string p.2)))

/-- A tree of components. -/
inductive Component where
  | leaf (tag : Tag) (attributes : List Attribute)
  | text (tag : Tag) (attributes : List Attribute) (content : Text)
  | wrap (tag : Tag) (attributes : List Attribute) (content : Component)
  | group (tag : Tag) (attributes : List Attribute) (content : List Component)
deriving Repr

namespace Component

/-- A record of a kind, with the fields of its content and those of its attributes. -/
def recordOf (tag : Tag) (content : List (Text × Json)) (attributes : List Attribute) : Json :=
  .object [("type", .string tag.name),
    ("props", .object (content ++ attributes.map Attribute.field))]

mutual

/-- The record of a tree. -/
def record : Component → Json
  | leaf tag attributes =>
    recordOf tag (if tag.hasContent then [("children", .null)] else []) attributes
  | text tag attributes content => recordOf tag [("children", .string content)] attributes
  | wrap tag attributes content => recordOf tag [("children", record content)] attributes
  | group tag attributes content =>
    recordOf tag [("children", .array (recordEach content))] attributes

/-- The records of trees, in order. -/
def recordEach : List Component → List Json
  | [] => []
  | c :: cs => record c :: recordEach cs

end

end Component

end SqlFrontEnd.Web
