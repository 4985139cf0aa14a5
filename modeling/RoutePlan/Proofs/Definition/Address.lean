import RoutePlan.Proofs.Definition.Occurrence
import RoutePlan.Proofs.Pattern.Segment

/-! # Addresses

A route is addressed by a method and a path. The paths of resources and of their extra actions
are written from segments: names, and parameters with the configured constraint. So the
addresses of such a declaration can be told segment by segment, before they are written.
-/

namespace RoutePlan

open Pattern

/-- A name is a segment that stands for itself. -/
def Pattern.Segment.ofName (name : String) : Segment := .fixed name.toList

theorem written_ofName (name : String) (ss : List Segment) :
    written (.ofName name :: ss) = '/' :: name.toList ++ written ss :=
  written_cons _ _

@[ext] structure Address where
  verb : Verb
  segments : List Segment
deriving DecidableEq, Repr

def Address.path (a : Address) : String := String.ofList (written a.segments)

theorem Path.ofChain_eq (chain : List String) :
    Path.ofChain chain = String.ofList (written (chain.map Segment.ofName)) := by
  induction chain with
  | nil => rfl
  | cons s rest ih =>
    apply String.toList_injective
    simp [ofChain, ih, written_ofName]

/-- The segment of a generated parameter. -/
def Settings.idPart (settings : Settings) (name : String) : Segment :=
  .param name.toList (some settings.idConstraint.toList)

theorem written_idPart (settings : Settings) (name : String) (ss : List Segment) :
    written (settings.idPart name :: ss) =
      "/:".toList ++ name.toList ++ '(' :: settings.idConstraint.toList ++ ')' :: written ss := by
  simp [written_cons, Settings.idPart, Segment.written]

theorem Settings.idSegment_eq (settings : Settings) (name : String) :
    settings.idSegment name = String.ofList (written [settings.idPart name]) := by
  apply String.toList_injective
  simp [idSegment, written_idPart]

/-- The segment by which the resources inside a resource pass through it. -/
def ResourceSpec.passage (settings : Settings) (r : ResourceSpec) : Segment :=
  settings.idPart (r.param ++ "_id")

def Action.segments (settings : Settings) : Action → List Segment
  | .index | .create => []
  | .new => [.ofName "new"]
  | .edit => [settings.idPart "id", .ofName "edit"]
  | .detail | .update | .destroy => [settings.idPart "id"]

theorem Action.suffix_eq (settings : Settings) (a : Action) :
    a.suffix settings = String.ofList (written (a.segments settings)) := by
  cases a with
  | index => rfl
  | create => rfl
  | new => rfl
  | detail => exact settings.idSegment_eq "id"
  | update => exact settings.idSegment_eq "id"
  | destroy => exact settings.idSegment_eq "id"
  | edit =>
    apply String.toList_injective
    simp [suffix, segments, Settings.idSegment, written_idPart, written_ofName]

def ActionKind.segments (settings : Settings) : ActionKind → List Segment
  | .member => [settings.idPart "id"]
  | .collection => []

theorem ActionKind.segment_eq (settings : Settings) (kind : ActionKind) :
    kind.segment settings = String.ofList (written (kind.segments settings)) := by
  cases kind with
  | member => exact settings.idSegment_eq "id"
  | collection => rfl

namespace Nesting

/-- The segments of the innermost resource's path, or of the chain's where there is none. -/
def segments (settings : Settings) : Nesting → List Segment
  | .root => []
  | .space outer names =>
    if outer.resource?.isSome then outer.segments settings
    else (outer.chain ++ names).map Segment.ofName
  | .resources outer r =>
    match outer.resource? with
    | none => (outer.chain ++ r.options.space.toList).map Segment.ofName ++ [.ofName r.name]
    | some parent => outer.segments settings ++ [parent.passage settings, .ofName r.name]

theorem path_eq_written (settings : Settings) (around : Nesting) :
    around.path settings = String.ofList (written (around.segments settings)) := by
  induction around with
  | root => rfl
  | space outer names ih =>
    rw [path, segments]
    by_cases hin : outer.resource?.isSome
    · rw [if_pos hin, if_pos hin, ih]
    · rw [if_neg hin, if_neg hin, Path.ofChain_eq]
  | resources outer r ih =>
    rw [path, segments]
    apply String.toList_injective
    cases outer.resource? with
    | none => simp [Path.ofChain_eq, written_append, written_ofName]
    | some parent =>
      simp [ih, Settings.idSegment, ResourceSpec.passage, written_append, written_idPart,
        written_ofName]

/-- The segments before the name of a resource that is declared here, if it adds no namespace
of its own. -/
def base (settings : Settings) (around : Nesting) : List Segment :=
  match around.resource? with
  | none => around.chain.map Segment.ofName
  | some parent => around.segments settings ++ [parent.passage settings]

/-- A namespace among the options plays a part in the outermost resource only. -/
theorem segments_resources (settings : Settings) {around : Nesting} {r : ResourceSpec}
    (h : around.resource? = none → r.options.space = none) :
    (around.resources r).segments settings = around.base settings ++ [.ofName r.name] := by
  cases hr : around.resource? with
  | none => simp [segments, base, hr, h hr]
  | some parent => simp [segments, base, hr]

theorem base_resources (settings : Settings) {around : Nesting} {r : ResourceSpec}
    (h : around.resource? = none → r.options.space = none) :
    (around.resources r).base settings =
      around.base settings ++ [.ofName r.name, r.passage settings] := by
  rw [base, resource?, segments_resources settings h]
  simp

end Nesting

namespace Occurrence

/-- The addresses of a declaration that makes no direct route. -/
def addresses (settings : Settings) (o : Occurrence) : List Address :=
  match o.head, o.around.resource? with
  | .resources r, _ => r.allowed.map fun a =>
      ⟨a.verb, (o.around.resources r).segments settings ++ a.segments settings⟩
  | .actions kind actions, some _ => actions.map fun (verb, name) =>
      ⟨verb, o.around.segments settings ++ kind.segments settings ++ [.ofName name]⟩
  | _, _ => []

theorem registrations_resources_address (settings : Settings) (around : Nesting)
    (r : ResourceSpec) :
    ((⟨around, .resources r⟩ : Occurrence).registrations settings).map
        (fun m => (m.verb, m.path)) =
      ((⟨around, .resources r⟩ : Occurrence).addresses settings).map
        fun a => (a.verb, a.path) := by
  simp [registrations, addresses, Address.path, Nesting.path_eq_written, Action.suffix_eq,
    written_append]

theorem registrations_actions_address (settings : Settings) (around : Nesting)
    (kind : ActionKind) (actions : List (Verb × String)) :
    ((⟨around, .actions kind actions⟩ : Occurrence).registrations settings).map
        (fun m => (m.verb, m.path)) =
      ((⟨around, .actions kind actions⟩ : Occurrence).addresses settings).map
        fun a => (a.verb, a.path) := by
  cases hr : around.resource? with
  | none => simp [registrations, addresses, hr]
  | some r =>
    have hname : ∀ name : String, "/" ++ name = String.ofList (written [.ofName name]) := by
      intro name
      apply String.toList_injective
      simp [written_ofName]
    simp [registrations, addresses, hr, Address.path, Nesting.path_eq_written,
      ActionKind.segment_eq, written_append, hname, String.append_assoc]

end Occurrence
end RoutePlan
