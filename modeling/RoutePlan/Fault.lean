/-! # Faults of a route plan

Every fault is a mistake in the declarations. A fault carries what a message needs, and
`Fault.message` is the only place that words it.
-/

namespace RoutePlan

/-- The declarations that open a block. -/
inductive Construct where
  | space
  | resources
  | member
  | collection
deriving DecidableEq, Repr

def Construct.name : Construct → String
  | .space => "namespace"
  | .resources => "resources"
  | .member => "member"
  | .collection => "collection"

inductive Fault where
  /-- A target that is not one controller and one action around a single `#`. -/
  | malformedTarget (written : String)
  /-- A name that is empty or holds a slash or a blank. -/
  | invalidName (construct : Construct) (name : String)
  /-- Member or collection actions outside every resource. -/
  | misplaced (construct : Construct)
  | unknownAction (name : String)
  | unknownVerb (name : String)
deriving DecidableEq, Repr

def Fault.reason : Fault → String
  | .malformedTarget written =>
    "malformed target '" ++ written ++
      "'. Expected exactly one '#' separating controller and action (e.g. users#show)"
  | .invalidName construct name =>
    construct.name ++ "() received invalid name '" ++ name ++
      "'. Names must be non-empty path segments without '/' or whitespace"
  | .misplaced construct => construct.name ++ "() is only valid inside a resources block"
  | .unknownAction name =>
    "unknown RESTful action '" ++ name ++
      "'. Expected one of index, show, new, create, edit, update, destroy"
  | .unknownVerb name =>
    "unknown verb '" ++ name ++ "'. Expected one of get, put, post, patch, delete, del"

def Fault.message (f : Fault) : String := "route definition error: " ++ f.reason

end RoutePlan
