import RoutePlan.Json.Printer
import RoutePlan.RouteTable

/-! # Renderings of route tables

A table is written for people as one line per route, with the methods padded to one width,
and for machines as a JSON list of objects. The dump is a header and one line per route
without padding. What is rendered are rows: they are made for any HTTP method, of which the
routes that are drawn have only five.
-/

namespace RoutePlan

inductive Rendering where
  | table
  | json
deriving DecidableEq, Repr

/-- The characters that the name of a method may hold. -/
def isTokenChar (c : Char) : Bool := c.isAlphanum || "!#$%&'*+-.^_`|~".toList.contains c

/-- An HTTP method, whose name is a token of the request line. -/
structure Method where
  name : String
  isToken : name ≠ "" ∧ name.toList.all isTokenChar = true
deriving DecidableEq, Repr

def Verb.token (v : Verb) : Method := ⟨v.method, by cases v <;> decide⟩

/-- A route for any method. -/
structure Row where
  method : Method
  path : String
  dispatch : Dispatch
deriving DecidableEq, Repr

def Route.row (r : Route) : Row := ⟨r.verb.token, r.path, r.dispatch⟩

namespace Row

/-- The path and the handler's name, as they stand behind the method in every line. -/
def tail (r : Row) : String := " " ++ r.path ++ " -> " ++ r.dispatch.handlerName

/-- A line in which the method fills at least `width` columns. -/
def line (width : Nat) (r : Row) : String :=
  String.ofList (r.method.name.toList.rightpad width ' ') ++ r.tail

/-- The members stand in the order of their keys. -/
def json (r : Row) : Json.Value :=
  .object [
    ("action", .text r.dispatch.target.action),
    ("controller", .text r.dispatch.target.controller),
    ("handler", .text r.dispatch.handlerName),
    ("method", .text r.method.name),
    ("namespace", .list (r.dispatch.target.chain.map .text)),
    ("path", .text r.path)]

/-- The length of the longest method. -/
def methodWidth (rows : List Row) : Nat :=
  rows.foldl (fun width r => max width r.method.name.length) 0

def lines (rows : List Row) : List String := rows.map (·.line (methodWidth rows))

def render (rows : List Row) : Rendering → String
  | .table => "\n".intercalate (lines rows)
  | .json => (Json.Value.list (rows.map json)).toText

end Row

namespace RouteTable

def rows (t : RouteTable) : List Row := t.routes.map Route.row

def render (t : RouteTable) (rendering : Rendering) : String := Row.render t.rows rendering

/-- Every line of the dump is ended by a line feed. -/
def dump (t : RouteTable) : String :=
  String.join (("[routes] count=" ++ toString t.size ++ "\n") ::
    t.rows.map fun r => "[route] " ++ r.method.name ++ r.tail ++ "\n")

end RouteTable
end RoutePlan
