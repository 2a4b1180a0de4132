import WorkflowLint.Namespaces
import WorkflowLint.Text.Space

/-!
# `WorkflowLint.Facts`: what a workflow consists of

Facts are collected once from a document and shared by everything that is
concluded from it:

* an activity for every element below the root element, in document order;
* the declared variables, in document order;
* the web addresses that occur in attribute values and string literals;
* the connection strings of database activities.

A web address in a text starts with `http://` or `https://` and takes at least
one further character; it goes on to the next white space, quote or closing
bracket. Addresses are searched from the left, each behind the end of the one
before.
-/

set_option autoImplicit false

namespace WorkflowLint

/-- An element of a workflow, as reports list it. -/
structure Activity where
  name : String
  tag : String
  purpose : String
  attributes : Table String
deriving DecidableEq

/-- The kind of an activity. -/
def Activity.kind (a : Activity) : Kind := .ofTag a.tag

/-- A declared variable. -/
structure Variable where
  name : String
  type : String
deriving DecidableEq, Repr

/-- A variable in words: its name and its type. -/
def Variable.text (v : Variable) : String := v.name ++ " (" ++ v.type ++ ")"

/-- What is said where a name or a type is missing. -/
def unknown : String := "Unknown"

/-! ### Web addresses -/

namespace Url

/-- What an address starts with. -/
def schemes : List String := ["http://", "https://"]

/-- Whether a character ends an address in a text. -/
def isEnd (c : Char) : Bool := Text.isSpace c || c = '"' || c = '\'' || c = ']'

/-- The address that a list of characters starts with. -/
def at? (s : List Char) : Option (List Char) :=
  schemes.findSome? fun scheme =>
    if scheme.toList.isPrefixOf s then
      let body := (s.drop scheme.length).takeWhile fun c => !isEnd c
      if body.isEmpty then none else some (scheme.toList ++ body)
    else none

/-- The addresses in a list of characters, from left to right. -/
def findIn (s : List Char) : List (List Char) :=
  match s with
  | [] => []
  | c :: rest =>
    match at? (c :: rest) with
    | some url => url :: findIn (rest.drop (url.length - 1))
    | none => findIn rest
termination_by s.length
decreasing_by
  all_goals simp only [List.length_cons, List.length_drop]
  all_goals omega

/-- The addresses in a text, from left to right. -/
def find (s : String) : List String := (findIn s.toList).map String.ofList

/-- Whether a whole text is an address: it starts like one and has no white
space. -/
def isPlain (s : String) : Bool :=
  schemes.any (Text.startsWith · s) && !s.toList.any Text.isSpace

/-- Parts of attribute names that announce an address. -/
def hints : List String := ["Url", "Uri", "Endpoint"]

/-- The addresses that an attribute holds: its value, where its name announces
an address and the value is one, and the addresses inside the value. -/
def ofAttribute (a : Xml.Attribute) : List String :=
  (if hints.any (Text.occurs · a.name) && isPlain a.value then [a.value] else []) ++ find a.value

/-- The addresses in the text of a string literal: an element `String` in no
namespace or in the language's own. -/
def ofLiteral (xamlUri : String) (e : Xml.Element) : List String :=
  if e.name == "String" && e.head.ns.all (· == xamlUri) then
    (e.leadingText?.map find).getD []
  else []

end Url

/-! ### Collecting -/

namespace Document

/-- What reports say about an element. -/
def activityOf (e : Xml.Element) : Activity where
  name := e.display unknown
  tag := e.name
  purpose := e.kind.purpose
  attributes := .ofList (e.head.attributes.map fun a => (a.name, a.value))

/-- Every element below the root element, in document order. -/
def activities (d : Document) : List Activity := d.root.below.map activityOf

/-- Whether an element declares a variable. Property elements only wrap
declarations. -/
def declaresVariable (e : Xml.Element) : Bool :=
  !e.isProperty && Text.occurs "Variable" e.name

/-- The variable that an element declares. -/
def variableOf (xamlUri : String) (e : Xml.Element) : Variable where
  name := (e.attr? "Name").getD unknown
  type := (e.attrIn? xamlUri "TypeArguments").getD unknown

/-- The declared variables, in document order. -/
def declared (d : Document) : List Variable :=
  (d.elements.filter declaresVariable).map (variableOf d.xamlUri)

/-- The web addresses of a document. -/
def urls (d : Document) : Words :=
  let xamlUri := d.xamlUri
  .ofList (d.elements.flatMap fun e =>
    e.head.attributes.flatMap Url.ofAttribute ++ Url.ofLiteral xamlUri e)

/-- The connection strings of database activities, blank ones left out. -/
def connections (d : Document) : Words :=
  .ofList ((d.ofKind .databaseConnect).filterMap fun e =>
    (e.attr? "ConnectionString").filter fun s => !Text.isBlank s)

end Document

/-- What is known of a workflow. -/
structure Facts where
  activities : List Activity
  declared : List Variable
  urls : Words
  connections : Words

namespace Facts

/-- The facts of a document. -/
def ofDocument (d : Document) : Facts where
  activities := d.activities
  declared := d.declared
  urls := d.urls
  connections := d.connections

/-- The distinct tags of the activities. -/
def components (f : Facts) : Words := .ofList (f.activities.map (·.tag))

end Facts

end WorkflowLint
