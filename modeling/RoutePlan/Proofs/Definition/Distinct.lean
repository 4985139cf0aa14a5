import RoutePlan.Proofs.Definition.Forest
import RoutePlan.Proofs.RouteTable
import RoutePlan.Proofs.Singular

/-! # Distinct routes

No route of a forest has the method and the path of another, whatever the constraint is that
stands in its ids: it may hold slashes and parentheses. So a route can be found again by its
method and its path.
-/

namespace RoutePlan

open Pattern

namespace Address

/-- Two addresses that differ once they are written. -/
def Apart (a b : Address) : Prop := (a.verb, written a.segments) ≠ (b.verb, written b.segments)

theorem apart_append (base : List Segment) {verb verb' : Verb} {ss ts : List Segment} :
    Apart ⟨verb, base ++ ss⟩ ⟨verb', base ++ ts⟩ ↔ Apart ⟨verb, ss⟩ ⟨verb', ts⟩ := by
  simp only [Apart, written_append, ne_eq, Prod.mk.injEq, List.append_cancel_left_eq]

theorem path_ne_of_apart {a b : Address} (h : a.Apart b) :
    (a.verb.method, a.path) ≠ (b.verb.method, b.path) := by
  intro heq
  obtain ⟨hmethod, hpath⟩ := Prod.mk.inj heq
  refine h (Prod.ext (Verb.method_injective hmethod) ?_)
  simpa [path] using congrArg String.toList hpath

end Address

/-- The conventional routes of a resource differ in their methods or in what they add. -/
theorem Action.apart (settings : Settings) (base : List Segment) :
    Action.all.Pairwise fun a b =>
      Address.Apart ⟨a.verb, base ++ a.segments settings⟩
        ⟨b.verb, base ++ b.segments settings⟩ := by
  simp only [Address.apart_append]
  simp [Action.all, Address.Apart, verb, segments, written_idPart, written_ofName]

/-- The way through a resource leads further than `edit` does, or its parameter is so short that
it differs from `id` before the parenthesis. -/
theorem edit_ne_inside (constraint rest : List Char) {param child : List Char}
    (hparam : param ≠ []) (hchild : child ≠ []) :
    "id(".toList ++ constraint ++ ")/edit".toList ≠
      param ++ "_id(".toList ++ constraint ++ ")/".toList ++ child ++ rest := by
  intro heq
  have hlength := congrArg List.length heq
  have hchild' : 1 ≤ child.length := List.length_pos_iff.mpr hchild
  match param, hparam with
  | [a], _ => simp at heq
  | [a, b], _ => simp at heq
  | a :: b :: c :: more, _ =>
    simp at hlength
    omega

/-- No conventional route of a resource is written like an address inside it. -/
theorem Action.written_ne_inside (settings : Settings) (a : Action) {r child : ResourceSpec}
    (hparam : r.param ≠ "") (hchild : child.name ≠ "") (tail : List Segment) :
    written (a.segments settings) ≠
      written (r.passage settings :: .ofName child.name :: tail) := by
  have hparam' : r.param.toList ≠ [] := by simpa using hparam
  have hchild' : child.name.toList ≠ [] := by simpa using hchild
  have hinside : written (r.passage settings :: .ofName child.name :: tail) =
      "/:".toList ++ (r.param.toList ++ "_id(".toList ++ settings.idConstraint.toList ++
        ")/".toList ++ child.name.toList ++ written tail) := by
    simp [ResourceSpec.passage, written_idPart, written_ofName]
  intro heq
  rw [hinside] at heq
  cases a with
  | index | create => simp [segments] at heq
  | new => simp [segments, written_ofName] at heq
  | detail | update | destroy =>
    have hlength := congrArg List.length heq
    have hparam' := List.length_pos_iff.mpr hparam'
    simp [segments, written_idPart] at hlength
    omega
  | edit =>
    refine edit_ne_inside settings.idConstraint.toList (written tail) hparam' hchild' ?_
    simpa [segments, written_idPart, written_ofName] using heq

/-- What is written behind a name does not change the name. -/
theorem takeWhile_written {name : List Char} (h : '/' ∉ name) (ss : List Segment) :
    (name ++ written ss).takeWhile (· != '/') = name := by
  have hname : ∀ c ∈ name, (c != '/') = true := fun c hc => by
    simpa using fun heq : c = '/' => h (heq ▸ hc)
  rw [List.takeWhile_append_of_pos hname]
  cases ss with
  | nil => exact List.append_nil _
  | cons s ss =>
    rw [written_cons, List.takeWhile_cons_of_neg (by decide), List.append_nil]

/-- Faultless resources are enough to set the addresses of a forest apart. -/
theorem separates_apart (settings : Settings) :
    Separates settings (fun r => r.faults = []) (fun r => r.faults = []) Address.Apart where
  own base := Action.apart settings base
  inside base a r child verb tail hr hchild := by
    rw [Address.apart_append]
    intro heq
    exact a.written_ne_inside settings (ResourceSpec.isSegment_of_faultless hr).2.1
      (ResourceSpec.isSegment_of_faultless hchild).1.1 tail (Prod.mk.inj heq).2
  beside base r s verb verb' tail tail' hr hs hne := by
    rw [Address.apart_append]
    intro heq
    have hwritten := (Prod.mk.inj heq).2
    rw [written_cons, written_cons, List.cons.injEq] at hwritten
    have hslash : ∀ t : ResourceSpec, t.faults = [] → '/' ∉ t.name.toList := fun t ht hm =>
      ((ResourceSpec.isSegment_of_faultless ht).1.2 _ hm).1 rfl
    have hnames := congrArg (List.takeWhile (· != '/')) hwritten.2
    rw [Segment.ofName, Segment.ofName, Segment.written, Segment.written,
      takeWhile_written (hslash r hr), takeWhile_written (hslash s hs)] at hnames
    exact hne (String.toList_injective hnames)

/-- In a forest no route shadows another: the methods and paths are pairwise distinct, and a
search for those of a route finds it at its place. -/
theorem Definition.forest_unshadowed (settings : Settings) (spaces : List (List String))
    (forest : List Declaration)
    (hforest : IsForest (fun r => r.options.space = none) (fun _ => True) forest)
    (table : RouteTable)
    (h : (compile settings ⟨enclose spaces forest⟩).1 = .ok table) :
    (table.routes.map fun r => (r.verb.method, r.path)).Nodup ∧
      ∀ (i : Nat) (hi : i < table.routes.length),
        table.find? table.routes[i].verb.method table.routes[i].path = some table.routes[i] ∧
          table.findIdx? table.routes[i].verb.method table.routes[i].path = some i := by
  obtain ⟨hfaults, hroutes⟩ := hforest.compile_enclose h
  have hapart :
      (addressesAll settings (Nesting.root.inSpaces spaces) forest).Pairwise Address.Apart :=
    (hforest.faultless hfaults).pairwise (fun _ r hr => hr.1) (fun r hr => hr.2)
      (fun r hr => hr.2) ((separates_apart settings).mono fun r hr => hr.2)
  have hkeys : table.routes.map Route.key =
      (addressesAll settings (Nesting.root.inSpaces spaces) forest).map
        fun a => (a.verb.method, a.path) := by
    have hmethods := congrArg (List.map fun k : Verb × String => (k.1.method, k.2)) hroutes
    rw [List.map_map, List.map_map] at hmethods
    exact hmethods
  have hnodup : (table.routes.map Route.key).Nodup := by
    rw [hkeys, List.Nodup, List.pairwise_map]
    exact hapart.imp Address.path_ne_of_apart
  refine ⟨hnodup, fun i hi => ⟨?_, RouteTable.findIdx?_of_nodup hnodup i hi⟩⟩
  exact RouteTable.find?_of_nodup hnodup (List.getElem_mem hi)

/-- A constraint with a slash and parentheses of its own. -/
def Settings.tangled : Settings := ⟨"a)/edit/:id(b"⟩

/-- Names that look like generated segments. -/
def Definition.tangled : List Declaration := [
  .resources "new" { param := some "id(a)" } [
    .resources "edit" { space := some "inner" } [],
    .resources ":id" {} [.resources "edit" {} []]],
  .resources "news" { keep := some ["index", "new"] } []]

theorem Definition.forest_unshadowed_tangled :
    ∃ table, (compile .tangled ⟨enclose [["api"], ["v1", "new"]] tangled⟩).1 = .ok table ∧
      (table.routes.map fun r => (r.verb.method, r.path)).Nodup ∧ table.size = 30 := by
  have hforest : IsForest (fun r => r.options.space = none) (fun _ => True) tangled := by
    refine .cons rfl ?_ (.cons rfl .nil .nil (by decide)) (by decide)
    refine .cons trivial .nil ?_ (by decide)
    exact .cons trivial (.cons trivial .nil .nil (by decide)) .nil (by decide)
  have hcompile := (compile_eq_ok_iff .tangled ⟨enclose [["api"], ["v1", "new"]] tangled⟩ _).mpr
    ⟨by decide, rfl⟩
  have hdistinct := forest_unshadowed .tangled [["api"], ["v1", "new"]] tangled hforest _ hcompile
  exact ⟨_, hcompile, hdistinct.1, by decide⟩

end RoutePlan
