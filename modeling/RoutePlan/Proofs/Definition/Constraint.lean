import RoutePlan.Proofs.Definition.Chain
import RoutePlan.Proofs.Regex.Inside
import RoutePlan.Settings.Constraint

/-! # Configured constraints

A configured constraint is checked between the parentheses of a single segment. That is enough
for every pattern where the constraint is a pattern of its own, on one line and without names for
its groups. Then it stays within its parentheses however often it stands in a path, so that the
path is read back and its expression keeps its anchors.
-/

namespace RoutePlan

open Pattern

namespace Settings

/-- The constraint is a pattern of its own, on one line and without names for its groups. -/
structure SelfContained (settings : Settings) : Prop where
  alone : Regex.StandsAlone settings.idConstraint.toList
  line : '\n' ∉ settings.idConstraint.toList

instance (settings : Settings) : Decidable settings.SelfContained :=
  decidable_of_iff _ ⟨fun h => ⟨h.1, h.2⟩, fun h => And.intro h.alone h.line⟩

variable {fits : Regex.Expr → Bool} {value : String}

/-- A value that passes the check is an expression, whatever the size test. -/
theorem isSome_of_constraintFault? (h : constraintFault? value fits = none) :
    '/' ∉ value.toList ∧ (Regex.ofSource? ("^/(" ++ value ++ ")$")).isSome := by
  have hchecked : '/' ∉ value.toList ∧
      (Regex.compile? ("^/(" ++ value ++ ")$") fits).isSome := by
    simpa [constraintFault?, ite_eq_iff, Option.isSome_iff_ne_none] using h
  obtain ⟨re, hre⟩ := Option.isSome_iff_exists.mp hchecked.2
  exact ⟨hchecked.1, Option.isSome_of_eq_some (Option.eq_some_of_filter_eq_some hre)⟩

/-- Whatever is configured, the constraint is an expression that stays within its segment. -/
theorem isSome_configure (fits : Regex.Expr → Bool) (raw : Option String) :
    (configure raw fits).1.idConstraint ≠ "" ∧ '/' ∉ (configure raw fits).1.idConstraint.toList ∧
      (Regex.ofSource? ("^/(" ++ (configure raw fits).1.idConstraint ++ ")$")).isSome := by
  have hdefault : defaultConstraint ≠ "" ∧ '/' ∉ defaultConstraint.toList ∧
      (Regex.ofSource? ("^/(" ++ defaultConstraint ++ ")$")).isSome := by decide
  unfold configure
  split
  · exact hdefault
  · exact hdefault
  · rename_i value hne _
    split
    · rename_i hfault
      exact ⟨hne, isSome_of_constraintFault? hfault⟩
    · exact hdefault

/-- A configured constraint that is a pattern of its own is one expression in every pattern. -/
theorem embeds_configure {raw : Option String} (h : (configure raw fits).1.SelfContained) :
    (configure raw fits).1.Embeds fun _ => True := by
  obtain ⟨hne, hslash, hsome⟩ := isSome_configure fits raw
  refine ⟨fun hnil => hne ?_, hslash, h.line, embeds_of_standsAlone h.alone ?_⟩
  · apply String.toList_injective
    simpa using hnil
  · obtain ⟨re, hre⟩ := Option.isSome_iff_exists.mp hsome
    obtain ⟨e, hread, -⟩ := Option.map_eq_some_iff.mp hre
    simpa using Option.isSome_of_eq_some hread

end Settings

/-! ## Anchored patterns -/

variable {settings : Settings} {inner : Regex.Expr → Prop} {parts : List (List Regex.Expr)}
  {ss : List Segment} {name : String} {p q : Regex.Place}

theorem prefix_of_denotes (hs : List.Forall₂ (Segment.Denotes inner) (.ofName name :: ss) parts)
    (h : Regex.Expr.LeadsAll parts.flatten p q) : '/' :: name.toList <+: p.rest := by
  cases hs with
  | cons hpart _ =>
    obtain rfl := hpart
    obtain ⟨m, hname, -⟩ := (Regex.Expr.leadsAll_append _ _ p q).mp h
    exact ⟨m.rest, (Regex.Expr.rest_of_leadsAll_literal hname).symm⟩

theorem suffix_of_denotes
    (hs : List.Forall₂ (Segment.Denotes inner) (ss ++ [.ofName name]) parts)
    (h : Regex.Expr.LeadsAll parts.flatten p q) (hend : q.rest = []) :
    '/' :: name.toList <:+ p.rest := by
  induction ss generalizing parts p with
  | nil =>
    cases hs with
    | cons hpart hnil =>
      cases hnil
      obtain rfl := hpart
      rw [List.flatten_cons, List.flatten_nil, List.append_nil] at h
      have hrest : p.rest = '/' :: name.toList := by
        rw [Regex.Expr.rest_of_leadsAll_literal h, hend, List.append_nil]
      exact hrest ▸ List.suffix_refl _
  | cons s ss ih =>
    cases hs with
    | cons _ hs =>
      obtain ⟨m, hpart, h⟩ := (Regex.Expr.leadsAll_append _ _ p q).mp h
      exact (ih hs h).trans (Regex.Expr.suffix_of_leadsAll hpart)

/-- The pattern of an address is an expression whose matches begin with the first segment and
end with the last one, where these are names. -/
theorem Address.exists_anchored (h : settings.Embeds inner) {a : Address}
    (ha : ∀ s ∈ a.segments, s.IsMeant settings) :
    ∃ re, Regex.ofSource? (source a.path) = some re ∧ ∀ text, re.isMatch text = true →
      (∀ name ss, a.segments = .ofName name :: ss → '/' :: name.toList <+: text.toList) ∧
        ∀ ss name, a.segments = ss ++ [.ofName name] → '/' :: name.toList <:+ text.toList := by
  obtain ⟨parts, hparts, hsource⟩ := Address.ofSource?_path h ha
  refine ⟨_, hsource, fun text hmatch => ?_⟩
  obtain ⟨q, hend, hleads⟩ := Regex.leadsAll_of_isMatch hmatch
  refine ⟨fun name ss hss => ?_, fun ss name hss => ?_⟩
  · rw [hss] at hparts
    exact prefix_of_denotes hparts hleads
  · rw [hss] at hparts
    exact suffix_of_denotes hparts hleads hend

/-! ## Chains -/

theorem Link.Makes.names {l : Link} {verb : Verb} {tail : List Segment}
    (h : l.Makes settings verb tail) :
    (tail.filterMap fun s => s.name?.map String.ofList) =
      if settings.idPart "id" ∈ tail then ["id"] else [] := by
  have hid : ∀ name : String, settings.idPart "id" ≠ .ofName name := fun name h => by cases h
  cases h with
  | @conventional a _ =>
    cases a <;> simp [Action.segments, Segment.ofName, Settings.idPart, Segment.name?]
  | member _ => simp [Segment.ofName, Settings.idPart, Segment.name?]

theorem Link.Makes.isMeant {l : Link} {verb : Verb} {tail : List Segment}
    (h : l.Makes settings verb tail)
    (hactions : ∀ a ∈ l.blocks.flatten, IsSegment a.2 ∧ a.2.toList.head? ≠ some ':') :
    ∀ s ∈ tail, s.IsMeant settings := by
  cases h with
  | @conventional a _ => exact a.isMeant_segments settings
  | member declared =>
    obtain ⟨hsegment, hcolon⟩ := hactions _ declared
    rw [List.forall_mem_cons, List.forall_mem_singleton]
    exact ⟨isMeant_id settings, .name hsegment hcolon⟩

/-- Where the configured constraint is a pattern of its own, every route of a chain has an
expression, whatever size test the constraint has passed. Its parameters are the ids on its path,
and whatever matches begins with the name of the outermost resource and ends with the last segment
behind the last resource, where that is a name too. No name begins with a colon here, every
parameter name is an identifier, and the outermost resource has no namespace of its own. -/
theorem Definition.configured_chain (fits : Regex.Expr → Bool) (raw : Option String)
    (settings : Settings) (hconfigured : (Settings.configure raw fits).1 = settings)
    (hcontained : settings.SelfContained) (links : List Link)
    (hspace : ∀ first ∈ links.head?, first.resource.options.space = none)
    (hcolon : ∀ l ∈ links, l.resource.name.toList.head? ≠ some ':')
    (hparam : ∀ l ∈ links, IsIdent l.resource.param.toList)
    (hactions : ∀ l ∈ links, ∀ a ∈ l.blocks.flatten, a.2.toList.head? ≠ some ':')
    (table : RouteTable) (h : (compile settings ⟨nest links⟩).1 = .ok table) :
    ∀ route ∈ table.routes, ∃ before l after tail, links = before ++ l :: after ∧
      l.Makes settings route.verb tail ∧
      route.path = String.ofList
        (written (passages settings before ++ .ofName l.resource.name :: tail)) ∧
      Pattern.params route.path = (before.map fun l => l.resource.param ++ "_id") ++
        (if settings.idPart "id" ∈ tail then ["id"] else []) ∧
      ∃ re, Regex.ofSource? (Pattern.source route.path) = some re ∧
        (re.expr.fits = true → Pattern.regex? route.path = some re) ∧
        ∀ text, re.isMatch text = true →
          (∀ first ∈ links.head?, '/' :: first.resource.name.toList <+: text.toList) ∧
          ∀ name, tail.getLast? = some (.ofName name) → '/' :: name.toList <:+ text.toList := by
  intro route hroute
  obtain ⟨before, l, after, tail, hlinks, hmakes, hpath⟩ := mem_routes_nest hspace h hroute
  have hembeds : settings.Embeds fun _ => True := by
    subst hconfigured
    exact Settings.embeds_configure hcontained
  have hfaults := ((compile_eq_ok_iff settings _ table).mp h).1
  have hlegible : ∀ l ∈ links, l.resource.IsLegible := fun l hl =>
    Link.isLegible hfaults hl (hcolon l hl) (hparam l hl)
  have hbefore : ∀ k ∈ before, k ∈ links := fun k hk => hlinks ▸ List.mem_append_left _ hk
  have hl : l ∈ links := hlinks ▸ List.mem_append_right _ List.mem_cons_self
  have hmeant : ∀ s ∈ passages settings before ++ .ofName l.resource.name :: tail,
      s.IsMeant settings := by
    rw [List.forall_mem_append, List.forall_mem_cons]
    exact ⟨isMeant_passages fun k hk => hlegible k (hbefore k hk), (hlegible l hl).isMeant_name,
      hmakes.isMeant fun a ha => ⟨(Link.faultless hfaults hl).2 a ha, hactions l hl a ha⟩⟩
  obtain ⟨re, hsource, hmatches⟩ := @Address.exists_anchored settings _ hembeds
    ⟨route.verb, passages settings before ++ .ofName l.resource.name :: tail⟩ hmeant
  rw [Address.path, ← hpath] at hsource
  refine ⟨before, l, after, tail, hlinks, hmakes, hpath, ?_, re, hsource, regex?_of_fits hsource,
    fun text hmatch => ⟨fun first hfirst => ?_, fun name hname => ?_⟩⟩
  · have hnames := hmakes.names
    rw [hpath, params_written fun s hs => (hmeant s hs).legible hembeds, List.filterMap_append,
      names_passages, ← hnames]
    rfl
  · rw [hlinks] at hfirst
    cases before with
    | nil =>
      cases hfirst
      exact (hmatches text hmatch).1 _ tail rfl
    | cons outermost before =>
      cases hfirst
      exact (hmatches text hmatch).1 _ _ rfl
  · obtain ⟨ss, rfl⟩ := List.getLast?_eq_some_iff.mp hname
    refine (hmatches text hmatch).2
      (passages settings before ++ .ofName l.resource.name :: ss) name ?_
    simp

/-- Comments inside posts, of which some can be published. -/
def Link.posts : List Link :=
  [⟨⟨"posts", { keep := some ["edit"] }⟩, [[(.post, "publish")]]⟩,
    ⟨⟨"comments", { keep := some ["index", "edit"] }⟩, []⟩]

theorem Definition.configured_chain_hexadecimal :
    (Settings.configure (some " [0-9a-f]\x7b24\x7d ")).1 = ⟨"[0-9a-f]\x7b24\x7d"⟩ ∧
      ∃ table, (compile ⟨"[0-9a-f]\x7b24\x7d"⟩ ⟨nest Link.posts⟩).1 = .ok table ∧
        table.size = 4 ∧
        ∀ route ∈ table.routes, ∃ re, Regex.ofSource? (Pattern.source route.path) = some re ∧
          ∀ text, re.isMatch text = true → "/posts".toList <+: text.toList := by
  have hconfigured : (Settings.configure (some " [0-9a-f]\x7b24\x7d ")).1 =
      ⟨"[0-9a-f]\x7b24\x7d"⟩ := by decide
  have hcompile := (compile_eq_ok_iff ⟨"[0-9a-f]\x7b24\x7d"⟩ ⟨nest Link.posts⟩ _).mpr
    ⟨by decide, rfl⟩
  have hchain := configured_chain _ _ _ hconfigured (by decide) Link.posts (by decide) (by decide)
    (by decide) (by decide) _ hcompile
  refine ⟨hconfigured, _, hcompile, by decide, fun route hroute => ?_⟩
  obtain ⟨_, _, _, _, -, -, -, -, re, hsource, -, hmatches⟩ := hchain route hroute
  exact ⟨re, hsource, fun text hmatch => (hmatches text hmatch).1 _ rfl⟩

-- Properties of characters are constraints like any other.
example : ∀ value ∈ ["\\p\x7bMath\x7d+", "\\p\x7bAge:6.0\x7d", "\\P\x7bgcb=Extend\x7d"],
    (Settings.configure (some value)).1 = ⟨value⟩ ∧ Settings.SelfContained ⟨value⟩ := by decide

/-- A constraint that is no pattern of its own passes the check, and breaks the anchors apart. -/
theorem Definition.configured_chain_apart :
    (Settings.configure (some "a)|(b")).1 = ⟨"a)|(b"⟩ ∧ ¬Settings.SelfContained ⟨"a)|(b"⟩ ∧
      ∃ table, (compile ⟨"a)|(b"⟩ ⟨nest [⟨⟨"posts", { keep := some ["edit"] }⟩, []⟩]⟩).1 =
          .ok table ∧
        table.paths = ["/posts/:id(a)|(b)/edit"] ∧
        (Pattern.regex? "/posts/:id(a)|(b)/edit").any (·.isMatch "b/edit") = true := by
  have hcompile := (compile_eq_ok_iff ⟨"a)|(b"⟩
    ⟨nest [⟨⟨"posts", { keep := some ["edit"] }⟩, []⟩]⟩ _).mpr ⟨by decide, rfl⟩
  exact ⟨by decide, by decide, _, hcompile, by decide, by decide⟩

end RoutePlan
