import RoutePlan.Proofs.Pattern.Matching
import RoutePlan.Proofs.Pattern.Pieces
import RoutePlan.Proofs.Program.Shape

/-! # Static routes

Where no segment of a path begins like a parameter, the expression of the path has no parameters
and takes one text only. That text is the path without its empty segments. So a direct verb
registers a path that its own expression takes, unless two slashes follow one another in the path
or one ends it; the root path alone is an exception to that.
-/

namespace RoutePlan

namespace Pattern

open Regex RoutePlan.Path

variable {p : String}

/-- No segment begins as a parameter does. -/
def IsStatic (p : String) : Prop := ∀ piece ∈ pieces p.toList, piece.head? ≠ some ':'

instance (p : String) : Decidable (IsStatic p) :=
  inferInstanceAs (Decidable (∀ piece ∈ pieces p.toList, piece.head? ≠ some ':'))

/-- The path without its empty segments; the root path is kept. -/
def condensed (p : String) : String :=
  if p = "/" then p
  else String.ofList (((pieces p.toList).filter (· ≠ [])).flatMap ('/' :: ·))

theorem segments_static (h : IsStatic p) : segments p = (pieces p.toList).map .fixed :=
  List.map_congr_left fun piece hpiece => Segment.read_of_head?_ne (h piece hpiece)

theorem params_static (h : IsStatic p) : params p = [] := by
  rw [params, segments_static h, List.filterMap_eq_nil_iff]
  exact List.forall_mem_map.mpr fun _ _ => rfl

/-- Empty segments leave no trace in the expression. -/
theorem flatMap_source_fixed (ts : List (List Char)) :
    (ts.map Segment.fixed).flatMap Segment.source =
      ((ts.filter (· ≠ [])).map Segment.fixed).flatMap Segment.source := by
  induction ts with
  | nil => rfl
  | cons t ts ih =>
    rw [List.map_cons, List.flatMap_cons, ih]
    by_cases ht : t = []
    · rw [List.filter_cons_of_neg (by simpa using ht), ht]
      rfl
    · rw [List.filter_cons_of_pos (by simpa using ht), List.map_cons, List.flatMap_cons]

theorem plain_of_static (h : IsStatic p) :
    ∀ s ∈ ((pieces p.toList).filter (· ≠ [])).map Segment.fixed, s.Plain := by
  refine List.forall_mem_map.mpr fun piece hpiece => ?_
  obtain ⟨hmem, hne⟩ := List.mem_filter.mp hpiece
  have hread := Segment.read_of_head?_ne (h piece hmem)
  exact ⟨by simpa using hne, not_mem_slash_of_pieces _ piece hmem,
    Segment.read_eq_fixed_iff.mp hread⟩

theorem written_fixed (ts : List (List Char)) :
    written (ts.map Segment.fixed) = ts.flatMap ('/' :: ·) :=
  List.flatMap_map ..

theorem source_static (h : IsStatic p) (hroot : p ≠ "/") : source p = source (condensed p) := by
  have hplain := plain_of_static h
  rw [condensed, if_neg hroot, ← written_fixed,
    source_written (fun s hs => (hplain s hs).legible) fun s hs => (hplain s hs).written_ne_nil,
    source, if_neg hroot, segments_static h, flatMap_source_fixed]

theorem ofSource?_root : Regex.ofSource? (source "/") =
    some ⟨"^/$", Expr.seqAll (.look .textStart :: exprs 0 [.fixed []] ++ [.look .textEnd])⟩ := rfl

theorem forall₂_accepts_fixed_iff (ts takens : List (List Char)) :
    List.Forall₂ Segment.Accepts (ts.map Segment.fixed) takens ↔ takens = ts := by
  have hfixed : (fun t taken => Segment.Accepts (.fixed t) taken) = Eq := by
    funext t taken
    exact propext eq_comm
  rw [List.forall₂_map_left_iff, hfixed, List.forall₂_eq_eq_eq]
  exact eq_comm

/-- The expression of a path without parameters takes what is left of the path. -/
theorem ofSource?_static (h : IsStatic p) :
    ∃ re, Regex.ofSource? (source p) = some re ∧
      ∀ text, re.isMatch text = true ↔ text = condensed p := by
  by_cases hroot : p = "/"
  · refine ⟨_, hroot ▸ ofSource?_root, fun text => ?_⟩
    have htakens := forall₂_accepts_fixed_iff [[]]
    rw [List.map_singleton] at htakens
    rw [isMatch_exprs_iff, condensed, if_pos hroot, hroot, ← String.toList_inj]
    simp [htakens]
  · have hplain := plain_of_static h
    have hcondensed : String.ofList (written
        (((pieces p.toList).filter (· ≠ [])).map Segment.fixed)) = condensed p := by
      rw [written_fixed, condensed, if_neg hroot]
    have hre := ofSource?_plain hplain
    rw [hcondensed, ← source_static h hroot] at hre
    refine ⟨_, hre, fun text => ?_⟩
    rw [isMatch_exprs_iff, condensed, if_neg hroot, ← String.toList_inj, String.toList_ofList]
    simp only [forall₂_accepts_fixed_iff, exists_eq_left]

/-- Nothing is lost of a path if its slashes are apart and none ends it. -/
theorem condensed_eq_self_iff (h : IsAbsolute p) :
    condensed p = p ↔ p = "/" ∨ ¬Doubled p ∧ p.toList.getLast? ≠ some '/' := by
  by_cases hroot : p = "/"
  · simp [condensed, hroot]
  · have htail := nil_mem_tail_pieces_iff p
    obtain ⟨first, rest, hpieces, hp⟩ := exists_pieces p.toList
    obtain rfl : first = [] := by
      cases first with
      | nil => rfl
      | cons c first =>
        have hc : c = '/' := by simpa [IsAbsolute, hp] using h
        have hslash := not_mem_slash_of_pieces p.toList (c :: first) (by simp [hpieces])
        exact absurd (by simp [hc]) hslash
    have hslash : ∀ t ∈ rest, '/' ∉ t := fun t ht =>
      not_mem_slash_of_pieces p.toList t (by simp [hpieces, ht])
    rw [hpieces, List.tail_cons] at htail
    rw [condensed, if_neg hroot, ← String.toList_inj, String.toList_ofList, hpieces,
      List.filter_cons_of_neg (by simp), or_iff_right hroot, ← not_or, ← htail]
    rw [List.nil_append] at hp
    constructor
    · intro heq hnil
      have hsolid : ∀ t ∈ rest.filter (· ≠ []), '/' ∉ t := fun t ht =>
        hslash t (List.mem_of_mem_filter ht)
      have hkept := congrArg pieces (heq.trans hp)
      rw [pieces_slashed hsolid, pieces_slashed hslash] at hkept
      rw [← (List.cons.inj hkept).2] at hnil
      simp at hnil
    · intro hnil
      have hsolid : rest.filter (· ≠ []) = rest :=
        List.filter_eq_self.mpr fun t ht => by simpa using ne_of_mem_of_not_mem ht hnil
      rw [hsolid, ← hp]

end Pattern

/-! ## Direct verbs -/

namespace Scope

open RoutePlan.Path

variable {τ η ν : Type} {scope : Scope}

/-- Outside resources a direct verb whose target is accepted registers one route. -/
theorem makes_route_outside (env : Surroundings τ η ν) (hout : scope.frame? = none) (verb : Verb)
    (path : String) {spec : TargetSpec} {target : Target} (hspec : spec.resolve = .ok target) :
    Drawing.Makes env.sink (scope.route env verb path spec) (.ok ())
      [⟨verb, Path.join (target.extend (scope.stem env.settings)) path,
        target.describe scope.chain⟩] := by
  refine Drawing.Makes.check_ok hspec ?_
  rw [hout]
  exact Drawing.Makes.register env scope.chain _ verb path target

theorem isAbsolute_extend (settings : Settings) (hout : scope.frame? = none) (target : Target)
    (path : String) : IsAbsolute (Path.join (target.extend (scope.stem settings)) path) := by
  refine (joined_join _ path).isAbsolute ?_
  rw [Target.extend_eq, stem_of_frame?_eq_none hout]
  cases hchain : scope.chain with
  | nil => simpa [ofChain] using target.detour_eq_or
  | cons first rest => exact .inr ((isAbsolute_ofChain (by simp)).append _)

/-- Outside resources a direct verb registers one route. If no segment of its path begins like a
parameter, the path has an expression, without parameters, that takes the path without its empty
segments and no other text. So it takes the path and nothing else exactly if the path is the root
path, or if no two of its slashes follow one another and none ends it. -/
theorem static_route_matches (env : Surroundings τ η ν) (scope : Scope)
    (hout : scope.frame? = none) (verb : Verb) (path : String) (spec : TargetSpec)
    (target : Target) (hspec : spec.resolve = .ok target) :
    let full := Path.join (target.extend (scope.stem env.settings)) path
    Drawing.Makes env.sink (scope.route env verb path spec) (.ok ())
        [⟨verb, full, target.describe scope.chain⟩] ∧
      (Pattern.IsStatic full → Pattern.params full = [] ∧
        ∃ re, Regex.ofSource? (Pattern.source full) = some re ∧
          (re.expr.fits = true → Pattern.regex? full = some re) ∧
          (∀ text, re.isMatch text = true ↔ text = Pattern.condensed full) ∧
          ((∀ text, re.isMatch text = true ↔ text = full) ↔
            full = "/" ∨ ¬Doubled full ∧ full.toList.getLast? ≠ some '/')) := by
  intro full
  refine ⟨makes_route_outside env hout verb path hspec, fun hstatic => ?_⟩
  obtain ⟨re, hre, hmatch⟩ := Pattern.ofSource?_static hstatic
  refine ⟨Pattern.params_static hstatic, re, hre, Pattern.regex?_of_fits hre, hmatch, ?_⟩
  rw [← Pattern.condensed_eq_self_iff (isAbsolute_extend env.settings hout target path)]
  constructor
  · intro hself
    exact ((hmatch full).mp ((hself full).mpr rfl)).symm
  · intro hself text
    rw [hmatch, hself]

private def status : Target :=
  { controller := "status", action := "show", mount := some "v1.0/" }

/-- Under `api`, with a mount and characters that mean something in expressions. -/
theorem static_route_matches_status :
    ((space ["api"]).route ⟨.default, RouteTable.sink, @id Event⟩ .get "//(status)+"
        (.full status) {}).table.paths = ["/api/v1.0/(status)+"] ∧
      ∃ re, Pattern.regex? "/api/v1.0/(status)+" = some re ∧
        ∀ text, re.isMatch text = true ↔ text = "/api/v1.0/(status)+" := by
  have hresolve : (TargetSpec.full status).resolve = .ok status := by decide
  have hfull : Path.join (status.extend ((space ["api"]).stem .default)) "//(status)+" =
      "/api/v1.0/(status)+" := by decide
  obtain ⟨hmakes, hmatches⟩ := static_route_matches ⟨.default, RouteTable.sink, @id Event⟩
    (space ["api"]) rfl .get "//(status)+" _ _ hresolve
  rw [hfull] at hmakes hmatches
  obtain ⟨-, re, hre, -, -, hself⟩ := hmatches (by decide)
  refine ⟨?_, re, Pattern.regex?_of_isSome hre (by decide +kernel),
    hself.mpr (.inr ⟨by decide +kernel, by decide⟩)⟩
  rw [(hmakes {}).2]
  rfl

/-- The expression of a path that ends in a slash takes the path without that slash instead. -/
theorem static_route_unmatched :
    (root.route ⟨.default, RouteTable.sink, @id Event⟩ .get "/users/" (.shorthand "users#index")
        {}).table.paths = ["/users/"] ∧
      Pattern.IsStatic "/users/" ∧
      ∃ re, Pattern.regex? "/users/" = some re ∧ re.isMatch "/users/" = false ∧
        re.isMatch "/users" = true := by
  have hstatic : Pattern.IsStatic "/users/" := by decide
  obtain ⟨re, hre, hmatch⟩ := Pattern.ofSource?_static hstatic
  refine ⟨by decide, hstatic, re, Pattern.regex?_of_isSome hre (by decide +kernel), ?_,
    (hmatch _).mpr (by decide)⟩
  rw [← Bool.not_eq_true, hmatch]
  decide

end Scope

end RoutePlan
