import RoutePlan.Drawing

/-! # Route tables

The table this library keeps itself: routes in the order they were registered, each with a
dispatch that is named after its descriptor.
-/

namespace RoutePlan

structure Dispatch where
  handlerName : String
  target : Descriptor
deriving DecidableEq, Repr

def Descriptor.dispatch (d : Descriptor) : Dispatch := ⟨d.handlerName, d⟩

structure Route where
  verb : Verb
  path : String
  dispatch : Dispatch
deriving DecidableEq, Repr

namespace Route

def controller (r : Route) : String := r.dispatch.target.controller

def action (r : Route) : String := r.dispatch.target.action

def chain (r : Route) : List String := r.dispatch.target.chain

end Route

structure RouteTable where
  routes : List Route := []
deriving DecidableEq, Repr

namespace RouteTable

def size (t : RouteTable) : Nat := t.routes.length

def paths (t : RouteTable) : List String := t.routes.map (·.path)

def push (t : RouteTable) (r : Route) : RouteTable := ⟨t.routes ++ [r]⟩

@[simp] theorem routes_push (t : RouteTable) (r : Route) : (t.push r).routes = t.routes ++ [r] :=
  rfl

/-- Handlers are named dispatches; the table plays no part in making one. -/
def sink : Sink RouteTable Dispatch where
  resolve d _ := d.dispatch
  add t verb path dispatch := t.push ⟨verb, path, dispatch⟩

def serves (method path : String) (r : Route) : Bool := r.verb.method == method && r.path == path

/-- The last route declared for exactly this method and path. -/
def find? (t : RouteTable) (method path : String) : Option Route :=
  t.routes.reverse.find? (serves method path)

/-- The position of the route that `find?` gives. -/
def findIdx? (t : RouteTable) (method path : String) : Option Nat :=
  (t.routes.reverse.findIdx? (serves method path)).map fun i => t.size - 1 - i

end RouteTable
end RoutePlan
