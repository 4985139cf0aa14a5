import RoutePlan.Proofs.Program.Reached

/-! # Addresses of resources

A resource is addressed in three ways. Its conventional routes join its path with what each
action adds; its member and collection blocks stand at that path, with an id segment behind it or
without; and the paths of the resources nested in it grow from it. In every resource scope that
operations lead to, the three come to the same addresses, whatever text stands between the
parentheses of an id segment.
-/

namespace RoutePlan

open Drawing (Makes)

variable {τ η ν : Type} {env : Surroundings τ η ν} {settings : Settings} {around : List Scope}
  {resource : ResourceScope}

/-! ## What a resource expands to -/

namespace Scope

theorem makes_expansion (env : Surroundings τ η ν) (resource : ResourceScope)
    (actions : List Action) :
    Makes env.sink (expand env resource actions) (.ok ())
      (actions.map fun a => (Origin.conventional resource a).registration env.settings) := by
  have hmakes := Course.makes_inTurn (Deed.makes_act env) (expansion resource actions)
  rwa [origins_expansion, List.map_map, ← expand_eq_inTurn] at hmakes

/-- A resource opens its scope behind the routes of the actions it allows. -/
theorem makes_declared (env : Surroundings τ η ν) {outer : Scope} {name : String}
    {options : ResourceOptions} (h : outer.declareResource name options = .ok resource) :
    Makes env.sink (outer.enterResource env name options) (.ok (.resource resource))
      (resource.frame.resource.allowed.map fun a =>
        (Origin.conventional resource a).registration env.settings) := by
  rw [← List.append_nil (List.map _ _)]
  exact Makes.check_ok h (Makes.bind_ok (makes_expansion env resource _) (Makes.done _))

/-- A resource nested in another one is reached through the other's id. -/
theorem stem_nested {name : String} {options : ResourceOptions} {table : τ} {inner : Scope}
    (h : ((Scope.resource resource).enterResource env name options table).outcome = .ok inner) :
    inner.stem settings =
      resource.frame.collectionPath settings ++ resource.frame.passage settings ++ "/" ++
        name := by
  obtain ⟨nested, hdeclare, rfl⟩ := (enterResource_eq_ok_iff ..).mp h
  obtain ⟨-, rfl⟩ := (declareResource_eq_ok_iff name options).mp hdeclare
  rfl

end Scope

/-! ## Extra actions that are conventional ones -/

theorem Action.isSegment_name (a : Action) : IsSegment a.name := by
  cases a <;> decide

namespace ActionScope

/-- An extra action with the verb and the name of a conventional one draws what that one draws,
where the two have the same path. -/
theorem action_eq_expand (scope : ActionScope) (a : Action)
    (hpath : (Origin.extra scope a.verb a.name).path env.settings =
      (Origin.conventional scope.toResourceScope a).path env.settings) :
    scope.action env a.verb a.name = Scope.expand env scope.toResourceScope [a] := by
  have hcheck : checkName scope.kind.construct a.name = .ok () :=
    (checkName_eq_ok_iff _ _).mpr ((isName_iff _).mpr a.isSegment_name)
  have hcourse : scope.actionCourse a.verb a.name =
      Course.only (.made (.extra scope a.verb a.name)) := by
    rw [actionCourse, hcheck]
    rfl
  rw [action_eq_perform, hcourse, Course.perform_only, Scope.expand_eq_inTurn, Scope.expansion,
    List.map_singleton, Drawing.inTurn_singleton, Deed.act, Deed.act, hpath]
  rfl

theorem member_edit (env : Surroundings τ η ν) (h : resource.IsSound) :
    action env ⟨resource, .member⟩ .get "edit" = Scope.expand env resource [.edit] := by
  have hslash : "/" ++ "edit" = "/edit" := by decide
  refine action_eq_expand ⟨resource, .member⟩ .edit ?_
  rw [Origin.path_extra env.settings h.frame _ Action.edit.isSegment_name,
    Origin.path_conventional env.settings h.frame.proper.name, stem, Frame.memberPath,
    Action.suffix, Action.name, String.append_assoc, String.append_assoc, hslash]

theorem collection_new (env : Surroundings τ η ν) (h : resource.IsSound) :
    action env ⟨resource, .collection⟩ .get "new" = Scope.expand env resource [.new] := by
  have hslash : "/" ++ "new" = "/new" := by decide
  refine action_eq_expand ⟨resource, .collection⟩ .new ?_
  rw [Origin.path_extra env.settings h.frame _ Action.new.isSegment_name,
    Origin.path_conventional env.settings h.frame.proper.name, stem, Action.suffix, Action.name,
    String.append_assoc, hslash]

end ActionScope

/-! ## Reached resources -/

namespace Reached

/-- A resource scope has been declared in the innermost of the scopes around it. -/
theorem exists_declared (h : Reached env around (.resource resource)) :
    ∃ outer rest name options, around = outer :: rest ∧ Reached env rest outer ∧
      outer.declareResource name options = .ok resource := by
  -- Only a resource opens such a scope; a namespace drawn in place leaves it as it was.
  generalize hscope : Scope.resource resource = scope at h
  induction h with
  | root => cases hscope
  | space _ outside opened _ =>
    obtain rfl := Scope.eq_of_enterSpace_outside outside opened
    cases hscope
  | inPlace _ inside opened ih =>
    obtain rfl := Scope.eq_of_enterSpace_inside inside opened
    exact ih hscope
  | resource reached opened _ =>
    obtain ⟨declared, hdeclare, rfl⟩ := (Scope.enterResource_eq_ok_iff ..).mp opened
    obtain rfl := Scope.resource.inj hscope
    exact ⟨_, _, _, _, rfl, reached, hdeclare⟩

/-- A resource scope opens behind the routes of the actions its resource allows. The routes of one
instance are at the path of the member block, those of the whole collection at the path of the
collection block, and an extra `edit` or `new` there draws what the conventional action draws. A
nested resource is at the path of the member block too, with another parameter, and there under
its own name. -/
theorem addresses_agree (h : Reached env around (.resource resource)) :
    let made (a : Action) : Registration :=
      (Origin.conventional resource a).registration env.settings
    let address (parameter : String) : String :=
      (Scope.resource resource).stem env.settings ++ env.settings.idSegment parameter
    (∃ outer rest name options, around = outer :: rest ∧ Reached env rest outer ∧
        Makes env.sink (outer.enterResource env name options) (.ok (.resource resource))
          (resource.frame.resource.allowed.map made)) ∧
      (∃ member, (Scope.resource resource).enterActions .member = .ok member ∧
        member.stem env.settings = address "id" ∧
        (∀ a ∈ [Action.detail, .update, .destroy], (made a).path = member.stem env.settings) ∧
        member.action env .get "edit" = Scope.expand env resource [.edit] ∧
        Makes env.sink (member.action env .get "edit") (.ok ()) [made .edit]) ∧
      (∃ collection, (Scope.resource resource).enterActions .collection = .ok collection ∧
        (∀ a ∈ [Action.index, .create], (made a).path = collection.stem env.settings) ∧
        collection.action env .get "new" = Scope.expand env resource [.new] ∧
        Makes env.sink (collection.action env .get "new") (.ok ()) [made .new]) ∧
      ∀ name options table inner,
        ((Scope.resource resource).enterResource env name options table).outcome = .ok inner →
          inner.stem env.settings =
            address (resource.frame.resource.param ++ "_id") ++ "/" ++ name := by
  intro made address
  have hsound : resource.IsSound := h.isSound
  have hpath (a : Action) : (made a).path = resource.frame.collectionPath env.settings ++
      a.suffix env.settings := Origin.path_conventional env.settings hsound.frame.proper.name a
  refine ⟨?opening, ⟨⟨resource, .member⟩, rfl, rfl, ?member, ?edit⟩,
    ⟨⟨resource, .collection⟩, rfl, ?collection, ?new⟩, ?nested⟩
  case opening =>
    obtain ⟨outer, rest, name, options, hrest, hreached, hdeclare⟩ := h.exists_declared
    exact ⟨outer, rest, name, options, hrest, hreached, Scope.makes_declared env hdeclare⟩
  case member =>
    simp only [List.forall_mem_cons]
    exact ⟨hpath .detail, hpath .update, hpath .destroy, fun _ h => absurd h List.not_mem_nil⟩
  case edit =>
    have hedit := ActionScope.member_edit env hsound
    exact ⟨hedit, hedit ▸ Scope.makes_expansion env resource [.edit]⟩
  case collection =>
    have hbare (a : Action) (ha : a.suffix env.settings = "") :
        (made a).path = resource.frame.collectionPath env.settings := by
      rw [hpath, ha, String.append_empty]
    simp only [List.forall_mem_cons]
    exact ⟨hbare .index rfl, hbare .create rfl, fun _ h => absurd h List.not_mem_nil⟩
  case new =>
    have hnew := ActionScope.collection_new env hsound
    exact ⟨hnew, hnew ▸ Scope.makes_expansion env resource [.new]⟩
  case nested => exact fun name options table inner hinner => Scope.stem_nested hinner

private def photos : ResourceScope where
  chain := ["admin"]
  frame := .top ⟨"photos", { controller := some "images", keep := some [] }, ["admin"]⟩

private def tags : ResourceScope where
  chain := ["admin"]
  frame := .nested ⟨"tags",
    { controller := some "labels", drop := some [.edit], param := some "label" }, ["admin"]⟩
    photos.frame

private def notes : ResourceScope where
  chain := ["admin"]
  frame := .nested ⟨"notes", { controller := some "notes" }, ["admin"]⟩ tags.frame

/-- Under a constraint that does not balance its parentheses, with a controller and a parameter
that are not the name. -/
theorem addresses_agree_tags :
    let env : Surroundings RouteTable Dispatch Event := ⟨⟨"a/)(b//"⟩, RouteTable.sink, id⟩
    let tag := "/admin/photos/:photo_id(a/)(b//)/tags/:id(a/)(b//)"
    ((ActionScope.mk tags .member).action env .get "edit" {}).table.routes =
        [⟨.get, tag ++ "/edit", Descriptor.dispatch ⟨"labels", "edit", ["admin"]⟩⟩] ∧
      (Scope.expand env tags [.edit] {}).table.paths = [tag ++ "/edit"] ∧
      ((Origin.conventional tags .detail).registration env.settings).path = tag ∧
      (Scope.resource notes).stem env.settings =
        "/admin/photos/:photo_id(a/)(b//)/tags/:label_id(a/)(b//)/notes" := by
  intro env tag
  have hadmin : (Scope.root.enterSpace env ["admin"] {}).outcome = .ok (.space ["admin"]) := rfl
  have hphotos : ((Scope.space ["admin"]).enterResource env "photos"
      { controller := some "images", keep := some [] } {}).outcome = .ok (.resource photos) := rfl
  have htags : ((Scope.resource photos).enterResource env "tags"
      { controller := some "labels", drop := some [.edit], param := some "label" } {}).outcome =
      .ok (.resource tags) := rfl
  have hnotes : ((Scope.resource tags).enterResource env "notes" {} {}).outcome =
      .ok (.resource notes) := rfl
  have hreached := ((root.space rfl hadmin).resource hphotos).resource htags
  obtain ⟨-, ⟨member, hmember, -, hpaths, hedit, hmakes⟩, -, hnested⟩ := hreached.addresses_agree
  obtain rfl : ActionScope.mk tags .member = member := Except.ok.inj hmember
  have htable := (hmakes {}).2
  refine ⟨?_, ?_, ?_, ?_⟩
  · rw [htable]
    decide
  · rw [← hedit, htable]
    decide
  · exact (hpaths .detail (by decide)).trans (by decide)
  · exact (hnested "notes" {} {} _ hnotes).trans (by decide)

end Reached

end RoutePlan
