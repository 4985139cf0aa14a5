import RoutePlan.Log.Directive
import RoutePlan.Text.Blank

/-! # Log filters

A filter is a list of directives. Of those that are about an event the most specific one
decides; of two for the same source and fields the later one replaces the earlier.
-/

namespace RoutePlan.Log

structure Filter where
  directives : List Directive := []
deriving DecidableEq, Repr

/-- The pieces between commas. -/
def splitCommas : List Char → List (List Char)
  | [] => [[]]
  | c :: rest =>
    if c = ',' then [] :: splitCommas rest
    else
      match splitCommas rest with
      | [] => [[c]]
      | piece :: more => (c :: piece) :: more

namespace Filter

def add (f : Filter) (d : Directive) : Filter :=
  if d.isStatic then
    ⟨f.directives.filter (fun e => e.source != d.source || e.fieldNames != d.fieldNames) ++ [d]⟩
  else f

/-- Without any directive errors pass. -/
def ofDirectives (ds : List Directive) : Filter :=
  if ds.isEmpty then ⟨[{ threshold := some .error }]⟩ else ds.foldl add {}

/-- The filter of a level text: directives between commas. -/
def parse? (level : String) : Option Filter := do
  let pieces := (splitCommas level.toList).filter fun piece => !piece.isEmpty
  return ofDirectives (← pieces.mapM Directive.read)

def passes (f : Filter) (e : Event) : Bool :=
  let best := (f.directives.filter (·.concerns e)).foldl (fun (best : Option Directive) d =>
    match best with
    | some b => if b.moreSpecific d then best else some d
    | none => some d) none
  best.any fun d => d.threshold.passes e.level

end Filter
end RoutePlan.Log
