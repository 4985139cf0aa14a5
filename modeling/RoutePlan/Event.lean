import RoutePlan.Target
import RoutePlan.Verb

/-! # Events

What a pass reports while it runs. Each event is a cause with its data; its level, its
source, its message and its fields are read off the cause.
-/

namespace RoutePlan

inductive Level where
  | trace
  | debug
  | info
  | warn
  | error
deriving DecidableEq, Repr

namespace Level

def name : Level → String
  | .trace => "TRACE"
  | .debug => "DEBUG"
  | .info => "INFO"
  | .warn => "WARN"
  | .error => "ERROR"

/-- Zero is the most severe. -/
def rank : Level → Nat
  | .error => 0
  | .warn => 1
  | .info => 2
  | .debug => 3
  | .trace => 4

end Level

/-- Why a configured id constraint is not used. -/
inductive ConstraintFault where
  | slash
  | pattern
deriving DecidableEq, Repr

inductive Event where
  | registered (verb : Verb) (path : String) (target : Descriptor)
  /-- A direct verb stands inside a resource, where it declares nothing. -/
  | ignoredVerb (resource : String) (verb : Verb) (path : String)
  /-- A namespace stands inside a resource, which already owns its segment. -/
  | namespaceInPlace (resource : String)
  | definitionCompiled (routes : Nat)
  | blockCompiled (routes : Nat)
  | tableReady (file : String) (routes : Nat)
  | constraintRejected (value : String) (fault : ConstraintFault) (fallback : String)
deriving DecidableEq, Repr

namespace Event

/-- A field is a text or a count. -/
inductive Field where
  | text (s : String)
  | count (n : Nat)
deriving DecidableEq, Repr

def level : Event → Level
  | .registered .. | .namespaceInPlace .. => .debug
  | .ignoredVerb .. | .constraintRejected .. => .warn
  | .definitionCompiled .. | .blockCompiled .. | .tableReady .. => .info

/-- The part of the program that speaks; filters select by it. -/
def source : Event → String
  | .registered .. | .ignoredVerb .. | .namespaceInPlace .. => "routedraw::scope"
  | .definitionCompiled .. => "routedraw::definition"
  | .blockCompiled .. => "routedraw::table::set"
  | .tableReady .. => "routedraw::cli::commands"
  | .constraintRejected .. => "routedraw::config"

def message : Event → String
  | .registered .. => "Route registered"
  | .ignoredVerb .. => "Direct verb declaration ignored inside resources block"
  | .namespaceInPlace .. => "Namespace inside resources block drawn in place"
  | .definitionCompiled .. | .blockCompiled .. => "Route definitions compiled"
  | .tableReady .. => "Route table ready"
  | .constraintRejected .. => "Invalid ROUTEDRAW_ID_CONSTRAINT, using default"

/-- The fields besides the message, in the order they are written. -/
def fields : Event → List (String × Field)
  | .registered verb path target =>
    [("method", .text verb.method), ("path", .text path), ("target", .text target.handlerName)]
  | .ignoredVerb resource verb path =>
    [("resource", .text resource), ("verb", .text verb.name), ("path", .text path)]
  | .namespaceInPlace resource => [("resource", .text resource)]
  | .definitionCompiled n | .blockCompiled n => [("routes_count", .count n)]
  | .tableReady file n => [("file", .text file), ("routes_count", .count n)]
  | .constraintRejected value fault fallback =>
    [("value", .text value),
      ("error", .text (match fault with
        | .slash => "constraint must not contain '/'"
        | .pattern => "<regex>")),
      ("default", .text fallback)]

end Event
end RoutePlan
