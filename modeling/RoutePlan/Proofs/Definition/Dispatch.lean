import RoutePlan.Proofs.Definition.Legible
import RoutePlan.Proofs.Singular

/-! # Unambiguous dispatch

Where ids are numbers, what a segment takes of a text can be told from the segment alone: a name
takes itself, an id takes decimal digits. A text between anchors falls into what the segments
take, slash by slash. So two routes can only share a text if their segments overlap one by one,
and in a forest whose nested resources leave the name `edit` to the action no two routes of one
method do.
-/

namespace RoutePlan

open Pattern Regex

namespace Pattern.Segment

/-- What a segment takes of a text where ids are numbers. -/
def Takes : Segment → List Char → Prop
  | .fixed text, taken => taken = text
  | .param _ _, taken => taken ≠ [] ∧ ∀ c ∈ taken, Text.isDecimalDigit c = true

/-- There is something that both segments take. -/
def Overlaps (s t : Segment) : Prop := ∃ taken, s.Takes taken ∧ t.Takes taken

theorem IsMeant.not_mem_slash {settings : Settings} {s : Segment} (hs : s.IsMeant settings)
    {taken : List Char} (h : s.Takes taken) : '/' ∉ taken := by
  cases hs with
  | name segment _ =>
    cases h
    exact RoutePlan.not_mem_slash segment
  | id _ => exact not_mem_slash_of_digits h.2

end Pattern.Segment

open Pattern.Segment (Takes Overlaps)

/-! ## What a match takes -/

theorem takes_of_leadsAll {s : Segment} {part : List Expr} {p q : Regex.Place}
    (hs : s.Denotes IsDigits part) (h : Expr.LeadsAll part p q) :
    ∃ taken, s.Takes taken ∧ p.rest = '/' :: taken ++ q.rest := by
  cases s with
  | fixed text =>
    rw [show part = _ from hs] at h
    exact ⟨text, rfl, Expr.rest_of_leadsAll_literal h⟩
  | param name constraint =>
    obtain ⟨e, ⟨index, rfl⟩, rfl⟩ := hs
    obtain ⟨m, hslash, n, hdigits, rfl⟩ := h
    have hm : p.rest = ['/'] ++ m.rest :=
      @Expr.rest_of_leadsAll_literal ['/'] p m ⟨m, hslash, rfl⟩
    have hloop : (Expr.loop (.chars Text.isDecimalDigit) 1 none true).Leads m q := hdigits
    obtain ⟨taken, hne, hall, hrest, -⟩ := Expr.leads_plus_iff.mp hloop
    refine ⟨taken, ⟨hne, hall⟩, ?_⟩
    rw [hm, hrest]
    rfl

theorem takes_of_leadsAll_flatten {ss : List Segment} {parts : List (List Expr)} {p q : Regex.Place}
    (hs : List.Forall₂ (Segment.Denotes IsDigits) ss parts)
    (h : Expr.LeadsAll parts.flatten p q) :
    ∃ takens, List.Forall₂ Takes ss takens ∧ p.rest = takens.flatMap ('/' :: ·) ++ q.rest := by
  induction hs generalizing p with
  | nil => exact ⟨[], .nil, congrArg Regex.Place.rest h.symm⟩
  | cons hs _ ih =>
    obtain ⟨m, hpart, h⟩ := (Expr.leadsAll_append _ _ p q).mp h
    obtain ⟨taken, htaken, hp⟩ := takes_of_leadsAll hs hpart
    obtain ⟨takens, htakens, hm⟩ := ih h
    refine ⟨taken :: takens, .cons htaken htakens, ?_⟩
    rw [hp, hm, List.flatMap_cons, List.append_assoc]

theorem overlaps_of_takes {ss ts : List Segment} {takens : List (List Char)}
    (hs : List.Forall₂ Takes ss takens) (ht : List.Forall₂ Takes ts takens) :
    List.Forall₂ Overlaps ss ts := by
  induction hs generalizing ts with
  | nil =>
    cases ht
    exact .nil
  | cons hs _ ih =>
    cases ht with
    | cons ht hts => exact .cons ⟨_, hs, ht⟩ (ih hts)

theorem not_mem_slash_of_takes {settings : Settings} {ss : List Segment}
    {takens : List (List Char)} (hmeant : ∀ s ∈ ss, s.IsMeant settings)
    (hs : List.Forall₂ Takes ss takens) : ∀ t ∈ takens, '/' ∉ t :=
  forall_mem_of_forall₂ (fun s hs _ ht => (hmeant s hs).not_mem_slash ht) hs

theorem Address.takes_of_isMatch {a : Address} {re : Regex} {text : String}
    (ha : ∀ s ∈ a.segments, s.IsMeant Settings.default)
    (hre : Regex.ofSource? (source a.path) = some re) (h : re.isMatch text = true) :
    ∃ takens, List.Forall₂ Takes a.segments takens ∧
      text.toList = takens.flatMap ('/' :: ·) := by
  obtain ⟨parts, hparts, hsource⟩ := Address.ofSource?_path Settings.embeds_default ha
  rw [hsource, Option.some.injEq] at hre
  subst hre
  obtain ⟨q, hend, hleads⟩ := Regex.leadsAll_of_isMatch h
  obtain ⟨takens, htakens, htext⟩ := takes_of_leadsAll_flatten hparts hleads
  rw [hend, List.append_nil] at htext
  exact ⟨takens, htakens, htext⟩

/-! ## Addresses that share no text -/

/-- No text matches the expressions of both patterns, whatever their sizes. -/
def Pattern.Disjoint (pattern pattern' : String) : Prop :=
  ∀ re re' : Regex, Regex.ofSource? (source pattern) = some re →
    Regex.ofSource? (source pattern') = some re' →
    ∀ text, ¬(re.isMatch text = true ∧ re'.isMatch text = true)

/-- No text can belong to both addresses under one method. -/
def Address.Unambiguous (a b : Address) : Prop :=
  a.verb = b.verb → ¬List.Forall₂ Overlaps a.segments b.segments

theorem Address.Unambiguous.disjoint {a b : Address} (h : a.Unambiguous b)
    (ha : ∀ s ∈ a.segments, s.IsMeant Settings.default)
    (hb : ∀ s ∈ b.segments, s.IsMeant Settings.default) (hverb : a.verb = b.verb) :
    Pattern.Disjoint a.path b.path := by
  rintro re re' hre hre' text ⟨hmatch, hmatch'⟩
  obtain ⟨takens, htakens, htext⟩ := Address.takes_of_isMatch ha hre hmatch
  obtain ⟨takens', htakens', htext'⟩ := Address.takes_of_isMatch hb hre' hmatch'
  have hpieces := congrArg pieces (htext.symm.trans htext')
  rw [pieces_slashed (not_mem_slash_of_takes ha htakens),
    pieces_slashed (not_mem_slash_of_takes hb htakens'), List.cons.injEq] at hpieces
  rw [← hpieces.2] at htakens'
  exact h hverb (overlaps_of_takes htakens htakens')

theorem overlaps_append {base ss ts : List Segment}
    (h : List.Forall₂ Overlaps (base ++ ss) (base ++ ts)) : List.Forall₂ Overlaps ss ts := by
  have hdrop := List.forall₂_drop_append _ base ts h
  rwa [List.drop_left] at hdrop

theorem Address.unambiguous_append (base : List Segment) {verb verb' : Verb}
    {ss ts : List Segment} (h : Unambiguous ⟨verb, ss⟩ ⟨verb', ts⟩) :
    Unambiguous ⟨verb, base ++ ss⟩ ⟨verb', base ++ ts⟩ :=
  fun hverb hoverlaps => h hverb (overlaps_append hoverlaps)

theorem overlaps_ofName_iff (name name' : String) :
    Overlaps (.ofName name) (.ofName name') ↔ name = name' := by
  constructor
  · rintro ⟨_, rfl, h⟩
    exact String.toList_injective h
  · rintro rfl
    exact ⟨_, rfl, rfl⟩

/-- An id is a number and `new` is none. -/
theorem not_overlaps_new (settings : Settings) (name : String) :
    ¬Overlaps (settings.idPart name) (.ofName "new") := by
  rintro ⟨_, ⟨-, hdigits⟩, rfl⟩
  have hdigit : Text.isDecimalDigit 'n' = true := hdigits 'n' (by decide)
  exact absurd hdigit (by decide)

theorem Action.unambiguous (settings : Settings) :
    Action.all.Pairwise fun a b =>
      Address.Unambiguous ⟨a.verb, a.segments settings⟩ ⟨b.verb, b.segments settings⟩ := by
  simp [Action.all, Address.Unambiguous, verb, segments, not_overlaps_new]

theorem Action.unambiguous_inside (settings : Settings) (a : Action) (r : ResourceSpec)
    {child : ResourceSpec} (h : child.name ≠ "edit") (verb : Verb) (tail : List Segment) :
    Address.Unambiguous ⟨a.verb, a.segments settings⟩
      ⟨verb, r.passage settings :: .ofName child.name :: tail⟩ := by
  intro _ hoverlaps
  cases a with
  | edit =>
    cases hoverlaps with
    | cons _ hrest =>
      cases hrest with
      | cons hname _ => exact h ((overlaps_ofName_iff _ _).mp hname).symm
  | _ => simp [segments] at hoverlaps

/-- Names that siblings do not share, and that leave `edit` to the action, are enough. -/
theorem separates_unambiguous (settings : Settings) :
    Separates settings (fun _ => True) (fun r => r.name ≠ "edit") Address.Unambiguous where
  own base := (Action.unambiguous settings).imp fun h => Address.unambiguous_append base h
  inside base a r child verb tail _ hchild :=
    Address.unambiguous_append base (a.unambiguous_inside settings r hchild verb tail)
  beside base r s verb verb' tail tail' _ _ hne := by
    refine Address.unambiguous_append base fun _ hoverlaps => ?_
    cases hoverlaps with
    | cons hname _ => exact hne ((overlaps_ofName_iff _ _).mp hname)

/-! ## Forests -/

/-- Resources that are read back as they are meant, and that take no names from an action. -/
theorem IsForest.pairwise_unambiguous {around : Nesting} {ds : List Declaration}
    {outermost nested : ResourceSpec → Prop} (h : IsForest outermost nested ds)
    (hspace : around.resource? = none → ∀ r, outermost r → r.options.space = none)
    (hnested : ∀ r, nested r → r.name ≠ "edit") (settings : Settings) :
    (addressesAll settings around ds).Pairwise Address.Unambiguous :=
  h.pairwise hspace (fun _ _ => trivial) (fun _ _ => trivial)
    ((separates_unambiguous settings).mono hnested)

/-- Under the default settings every route of a forest has an expression, and no text matches
those of two routes with one method. The names of the namespaces and resources must not begin
with a colon, parameters must be identifiers, and no nested resource may be called `edit`. -/
theorem Definition.forest_unambiguous (spaces : List (List String)) (forest : List Declaration)
    (hspaces : ∀ s ∈ spaces.flatten, s.toList.head? ≠ some ':')
    (hforest : IsForest
      (fun r => r.options.space = none ∧ r.name.toList.head? ≠ some ':' ∧ IsIdent r.param.toList)
      (fun r => r.name ≠ "edit" ∧ r.name.toList.head? ≠ some ':' ∧ IsIdent r.param.toList) forest)
    (table : RouteTable)
    (h : (compile .default ⟨enclose spaces forest⟩).1 = .ok table) :
    (∀ r ∈ table.routes, ∃ re, Regex.ofSource? (Pattern.source r.path) = some re ∧
      (re.expr.fits = true → Pattern.regex? r.path = some re)) ∧
    table.routes.Pairwise fun r s => r.verb = s.verb → Pattern.Disjoint r.path s.path := by
  obtain ⟨hfaults, hroutes⟩ := hforest.compile_enclose h
  have hfaultless := hforest.faultless hfaults
  have hlegible : ∀ r : ResourceSpec, r.faults = [] → r.name.toList.head? ≠ some ':' →
      IsIdent r.param.toList → r.IsLegible := fun r hr hcolon hparam =>
    ⟨(ResourceSpec.isSegment_of_faultless hr).1, hcolon, hparam⟩
  have hbase : ∀ s ∈ (Nesting.root.inSpaces spaces).base .default,
      s.IsMeant Settings.default := by
    have hnone : (Nesting.root.inSpaces spaces).resource? = none :=
      Nesting.resource?_inSpaces spaces
    have hsegments := isSegment_of_enclose spaces rfl ((compile_eq_ok_iff .default _ table).mp h).1
    rw [Nesting.base, hnone, Nesting.chain_inSpaces spaces rfl]
    exact List.forall_mem_map.mpr fun s hs => .name (hsegments s hs) (hspaces s hs)
  have hmeant := hfaultless.isMeant (fun _ r hr => hr.1.1) hbase
    (fun r hr => hlegible r hr.2 hr.1.2.1 hr.1.2.2)
    (fun r hr => hlegible r hr.2 hr.1.2.1 hr.1.2.2)
  have hpairwise : (addressesAll .default (Nesting.root.inSpaces spaces) forest).Pairwise
      Address.Unambiguous :=
    hforest.pairwise_unambiguous (fun _ r hr => hr.1) (fun r hr => hr.1) .default
  refine ⟨fun r hr => ?_, ?_⟩
  · have hkey := List.mem_map_of_mem (f := fun r : Route => (r.verb, r.path)) hr
    rw [hroutes, List.mem_map] at hkey
    obtain ⟨a, ha, hkey⟩ := hkey
    obtain ⟨parts, -, hsource⟩ := Address.ofSource?_path Settings.embeds_default (hmeant a ha)
    rw [← (Prod.mk.inj hkey).2]
    exact ⟨_, hsource, Pattern.regex?_of_fits hsource⟩
  · have hkeys : (table.routes.map fun r => (r.verb, r.path)).Pairwise fun k l =>
        k.1 = l.1 → Pattern.Disjoint k.2 l.2 := by
      rw [hroutes, List.pairwise_map]
      exact hpairwise.imp_of_mem fun ha hb hab hverb =>
        hab.disjoint (hmeant _ ha) (hmeant _ hb) hverb
    exact List.pairwise_map.mp hkeys

/-- Names that could be taken for an action or for an id. -/
def Definition.disguised : List Declaration := [
  .resources "posts" {} [
    .resources "comments" { drop := some ["destroy"] } [],
    .resources "new" { param := some "draft" } [],
    .resources "12" { param := some "dozen" } []],
  .resources "new" { keep := some ["index", "show"], param := some "novelty" } []]

theorem Definition.forest_unambiguous_disguised :
    ∃ table, (compile .default ⟨enclose [["api", "12"]] disguised⟩).1 = .ok table ∧
      table.size = 29 ∧
      table.routes.Pairwise fun r s => r.verb = s.verb → Pattern.Disjoint r.path s.path := by
  have hforest : IsForest
      (fun r => r.options.space = none ∧ r.name.toList.head? ≠ some ':' ∧ IsIdent r.param.toList)
      (fun r => r.name ≠ "edit" ∧ r.name.toList.head? ≠ some ':' ∧ IsIdent r.param.toList)
      disguised := by
    refine .cons (by decide) ?_ (.cons (by decide) .nil .nil (by decide)) (by decide)
    refine .cons (by decide) .nil ?_ (by decide)
    exact .cons (by decide) .nil (.cons (by decide) .nil .nil (by decide)) (by decide)
  have hcompile := (compile_eq_ok_iff .default ⟨enclose [["api", "12"]] disguised⟩ _).mpr
    ⟨by decide, rfl⟩
  exact ⟨_, hcompile, by decide,
    (forest_unambiguous [["api", "12"]] disguised (by decide) hforest _ hcompile).2⟩

end RoutePlan
