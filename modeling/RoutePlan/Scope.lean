import RoutePlan.Drawing
import RoutePlan.Resource

/-! # Scopes

A scope is the place where a declaration stands: the root, a namespace or a resource. The
operations here are the steps of which every declaration is made. Opening a block gives the
scope inside it; member and collection blocks have a scope of their own kind, which takes
actions only.
-/

namespace RoutePlan

/-- Where the declarations of a resource stand: the frame of the resource, and a chain of the
scope's own beside the one that the frame keeps. -/
structure ResourceScope where
  chain : List String
  frame : Frame
deriving DecidableEq, Repr

/-- A resource scope is read as its frame. -/
instance : Coe ResourceScope Frame := ⟨ResourceScope.frame⟩

inductive Scope where
  | root
  | space (chain : List String)
  | resource (scope : ResourceScope)
deriving DecidableEq, Repr

inductive ActionKind where
  | member
  | collection
deriving DecidableEq, Repr

def ActionKind.construct : ActionKind → Construct
  | .member => .member
  | .collection => .collection

structure ActionScope extends ResourceScope where
  kind : ActionKind
deriving DecidableEq, Repr

/-- What is fixed while a plan is drawn: the settings, the caller's table, and how an event
becomes a note. -/
structure Surroundings (τ η ν : Type) where
  settings : Settings
  sink : Sink τ η
  report : Event → ν

namespace Scope

def chain : Scope → List String
  | .root => []
  | .space chain => chain
  | .resource scope => scope.chain

def frame? : Scope → Option Frame
  | .resource scope => some scope
  | .root | .space _ => none

/-- What stands before every path declared in the scope. -/
def stem (settings : Settings) : Scope → String
  | .resource scope => scope.frame.collectionPath settings
  | .root => ""
  | .space chain => Path.ofChain chain

end Scope

def ActionScope.stem (settings : Settings) (s : ActionScope) : String :=
  match s.kind with
  | .member => s.frame.memberPath settings
  | .collection => s.frame.collectionPath settings

/-- The stem for a target: its mount comes after the scope's stem, behind one slash; without
a mount its namespace does. -/
def Target.extend (t : Target) (stem : String) : String :=
  match t.mount, t.space with
  | some mount, _ =>
    if mount.toList.head? = some '/' then stem ++ mount else stem ++ "/" ++ mount
  | none, some space => stem ++ "/" ++ space
  | none, none => stem

def Target.describe (t : Target) (chain : List String) : Descriptor :=
  { controller := t.controller, action := t.action, chain := chain ++ t.space.toList }

variable {τ η ν : Type}

/-- The only step that registers a route; it reports the route before it resolves it. -/
def register (env : Surroundings τ η ν) (chain : List String) (stem : String) (verb : Verb)
    (path : String) (target : Target) : Drawing τ ν Unit := do
  let full := Path.join (target.extend stem) path
  let descriptor := target.describe chain
  Drawing.note (env.report (.registered verb full descriptor))
  Drawing.update fun table => env.sink.register table verb full descriptor

namespace Scope

/-- A direct verb. Inside a resource it declares nothing, though its target is checked. -/
def route (env : Surroundings τ η ν) (scope : Scope) (verb : Verb) (path : String)
    (spec : TargetSpec) : Drawing τ ν Unit := do
  let target ← Drawing.ofExcept spec.resolve
  match scope.frame? with
  | some frame => Drawing.note (env.report (.ignoredVerb frame.name verb path))
  | none => register env scope.chain (scope.stem env.settings) verb path target

/-- The scope inside a namespace block. Inside a resource that is the scope itself, and the
names play no part. -/
def enterSpace (env : Surroundings τ η ν) (scope : Scope) (names : List String) :
    Drawing τ ν Scope := do
  match scope.frame? with
  | some frame =>
    Drawing.note (env.report (.namespaceInPlace frame.name))
    return scope
  | none =>
    if names.isEmpty then Drawing.fail (.invalidName .space "")
    else
      Drawing.ofExcept (checkNames .space names)
      return .space (scope.chain ++ names)

/-- The scope of the resource that a declaration describes, once its name and options are checked in
the order name, namespace, controller, param. The namespace moves from the options into the chain,
of which the scope and its frame take a copy each. -/
def declareResource (scope : Scope) (name : String) (options : ResourceOptions) :
    Except Fault ResourceScope := do
  checkNames .resources
    (name :: (options.space.toList ++ options.controller.toList ++ options.param.toList))
  let chain := scope.chain ++ options.space.toList
  let resource := Resource.declare name { options with space := none } chain
  return ⟨chain, Frame.ofParent scope.frame? resource⟩

/-- The routes of the conventional actions of a resource, which take the chain of its scope. -/
def expand (env : Surroundings τ η ν) (scope : ResourceScope) : List Action → Drawing τ ν Unit
  | [] => Drawing.done ()
  | action :: rest => do
    register env scope.chain (scope.frame.collectionPath env.settings) action.verb
      (action.suffix env.settings) { controller := scope.frame.controller, action := action.name }
    expand env scope rest

/-- The scope inside a resource block. The conventional routes come before the block's. -/
def enterResource (env : Surroundings τ η ν) (scope : Scope) (name : String)
    (options : ResourceOptions) : Drawing τ ν Scope := do
  let inner ← Drawing.ofExcept (scope.declareResource name options)
  expand env inner inner.frame.resource.allowed
  return .resource inner

/-- The scope inside a member or collection block; only a resource has one. -/
def enterActions (scope : Scope) (kind : ActionKind) : Except Fault ActionScope :=
  match scope with
  | .resource outer => .ok ⟨outer, kind⟩
  | .root | .space _ => .error (.misplaced kind.construct)

end Scope

/-- One extra action on a resource. -/
def ActionScope.action (env : Surroundings τ η ν) (scope : ActionScope) (verb : Verb)
    (name : String) : Drawing τ ν Unit := do
  Drawing.ofExcept (checkName scope.kind.construct name)
  register env scope.chain (scope.stem env.settings) verb name
    { controller := scope.frame.controller, action := name }

end RoutePlan
