import RoutePlan.Definition
import RoutePlan.Json.Schema

/-! # Documents

The written form of a definition, as a schema. Declarations nest, and each level of nesting
opens at least one container, so the limit of depth bounds the levels that a document can
hold.
-/

namespace RoutePlan.Document

open Json (Schema Fields)

def verb : Schema Verb := Schema.text.refine fun s => (Verb.parse s).mapError Fault.message

/-- A field that may be left out or be null. -/
def optionalField {α β : Type} (name : String) (schema : Schema α) (rest : Fields β) :
    Fields (Option α × β) :=
  .field name schema.optional (some none) rest

def target : Schema Target :=
  .map (fun (controller, action, mount, space, ()) => { controller, action, mount, space })
    (.record "Target" (.field "controller" .text none (.field "action" .text none
      (optionalField "prefix" .text (optionalField "namespace" .text .done)))))

def targetSpec : Schema TargetSpec :=
  .either "TargetDecl" (.map .shorthand .text) (.map .full target)

def names : Schema (List String) := .either "Segments" (.map (fun s => [s]) .text) (.list .text)

def route : Schema Declaration :=
  .map (fun (verb, path, target, ()) => .route verb path target)
    (.record "RouteDecl" (.field "verb" verb none (.field "path" .text (some "")
      (.field "to" targetSpec none .done))))

def action : Schema (Verb × String) :=
  .map (fun (verb, name, ()) => (verb, name))
    (.record "ActionDecl" (.field "verb" verb none (.field "action" .text none .done)))

/-- The last field of a declaration with a block. -/
def block (declarations : Schema (List Declaration)) : Fields (List Declaration × Unit) :=
  .field "routes" declarations (some []) .done

def space (declarations : Schema (List Declaration)) : Schema Declaration :=
  .map (fun (names, inner, ()) => .space names inner)
    (.record "NamespaceDecl" (.field "name" names none (block declarations)))

def resources (declarations : Schema (List Declaration)) : Schema Declaration :=
  .map (fun (name, controller, keep, drop, space, param, inner, ()) =>
      .resources name { controller, keep, drop, space, param } inner)
    (.record "ResourcesDecl" (.field "name" .text none (optionalField "controller" .text
      (optionalField "only" (.list .text) (optionalField "except" (.list .text)
        (optionalField "namespace" .text (optionalField "param" .text
          (block declarations))))))))

/-- Declarations that nest at most `levels` deep. -/
def declarations : Nat → Schema (List Declaration)
  | 0 => .never
  | levels + 1 =>
    let inner := declarations levels
    .list (.choice [
      ("route", route),
      ("namespace", space inner),
      ("resources", resources inner),
      ("member", .map (.actions .member) (.list action)),
      ("collection", .map (.actions .collection) (.list action))])

def definition : Schema Definition :=
  .map (fun (inner, ()) => ⟨inner⟩)
    (.record "Definition" (block (declarations Json.depthLimit)))

end RoutePlan.Document
