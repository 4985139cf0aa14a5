import RoutePlan.Proofs.Path.Slashes
import RoutePlan.Proofs.Program.Standing

/-! # The shape of registered paths

A registered path joins what its scope declares with a local part. Mounts, local parts of direct
verbs and the id constraint are unchecked texts: only they can bring two slashes in a row, and
only the local part of a direct verb can bring a slash at the end.
-/

namespace RoutePlan

open RoutePlan.Path

variable {τ η : Type} {settings : Settings} {scope : Scope} {frame : Frame}

/-! ## Doubled slashes in stems -/

theorem Frame.doubled_passage (h : IsSegment frame.resource.param)
    (hd : Doubled (frame.passage settings)) : Doubled settings.idConstraint := by
  refine Doubled.of_idSegment (fun hname => ?_) hd
  rcases hname.of_append (.inr (by decide)) with hname | hname
  · exact not_doubled_of_isSegment h hname
  · exact absurd hname (by decide)

theorem doubled_slash_segment {base name : String} (hname : IsSegment name)
    (hbase : base.toList.getLast? ≠ some '/') (h : Doubled (base ++ "/" ++ name)) :
    Doubled base := by
  obtain ⟨c, hc, hne⟩ := head?_of_isSegment hname
  rcases h.of_append (.inr (by simpa [hc] using hne)) with h | h
  · exact (h.of_append (.inl hbase)).resolve_right (by decide)
  · exact absurd h (not_doubled_of_isSegment hname)

theorem getLast?_ofChain_ne {chain : List String} (h : ∀ s ∈ chain, IsSegment s) :
    (ofChain chain).toList.getLast? ≠ some '/' := by
  cases chain with
  | nil => decide
  | cons s rest => exact (isClosed_ofChain (by simp) h).getLast?_ne

theorem Frame.IsSound.doubled_collectionPath (h : frame.IsSound)
    (hd : Doubled (frame.collectionPath settings)) : Doubled settings.idConstraint := by
  -- Every part ends in a name or a parenthesis, so no two parts meet in a doubled slash.
  induction frame with
  | top r =>
    have hchain : ∀ s ∈ r.chain, IsSegment s := h.proper.chain
    have hname : IsSegment r.name := h.proper.name
    rw [collectionPath] at hd
    exact absurd (doubled_slash_segment hname (getLast?_ofChain_ne hchain) hd)
      (not_doubled_ofChain hchain)
  | nested r p ih =>
    have hparent : p.Proper := h.parent.proper
    have hname : IsSegment r.name := h.proper.name
    have hpassage : IsClosed (p.passage settings) := isClosed_idSegment settings _
    rw [collectionPath] at hd
    have hd := doubled_slash_segment hname (hpassage.append _).getLast?_ne hd
    have hp := isClosed_collectionPath settings hparent.name
    rcases hd.of_append (.inl hp.getLast?_ne) with hd | hd
    · exact ih h.parent hd
    · exact doubled_passage hparent.param hd

theorem ActionScope.doubled_stem {a : ActionScope} (h : a.frame.IsSound)
    (hd : Doubled (a.stem settings)) : Doubled settings.idConstraint := by
  obtain ⟨resource, kind⟩ := a
  cases kind with
  | member =>
    have hp := Frame.isClosed_collectionPath settings h.proper.name
    rcases Doubled.of_append hd (.inl hp.getLast?_ne) with hd | hd
    · exact h.doubled_collectionPath hd
    · exact hd.of_idSegment (by decide)
  | collection => exact h.doubled_collectionPath hd

theorem Action.suffix_eq_or (settings : Settings) (a : Action) :
    a.suffix settings = "" ∨ IsClosed (a.suffix settings) := by
  cases a with
  | index => exact .inl rfl
  | create => exact .inl rfl
  | new =>
    have hnew : IsClosed "/new" := ⟨'w', by decide, by decide⟩
    exact .inr hnew
  | detail => exact .inr (isClosed_idSegment settings "id")
  | update => exact .inr (isClosed_idSegment settings "id")
  | destroy => exact .inr (isClosed_idSegment settings "id")
  | edit =>
    have hedit : IsClosed "/edit" := ⟨'t', by decide, by decide⟩
    exact .inr (hedit.append _)

theorem Action.doubled_suffix {a : Action} (hd : Doubled (a.suffix settings)) :
    Doubled settings.idConstraint := by
  cases a with
  | index => exact absurd hd (show ¬Doubled "" by decide)
  | create => exact absurd hd (show ¬Doubled "" by decide)
  | new => exact absurd hd (show ¬Doubled "/new" by decide)
  | detail => exact hd.of_idSegment (by decide)
  | update => exact hd.of_idSegment (by decide)
  | destroy => exact hd.of_idSegment (by decide)
  | edit =>
    rcases Doubled.of_append hd (.inl (isClosed_idSegment settings "id").getLast?_ne) with hd | hd
    · exact hd.of_idSegment (by decide)
    · exact absurd hd (by decide)

/-! ## Stems of direct verbs -/

theorem Target.detour_eq_or (t : Target) : t.detour = "" ∨ IsAbsolute t.detour := by
  unfold detour
  cases t.mount with
  | some mount =>
    by_cases hslash : mount.toList.head? = some '/'
    · simp only [if_pos hslash]
      exact .inr hslash
    · simp only [if_neg hslash]
      exact .inr (isAbsolute_slash mount)
  | none =>
    cases t.space with
    | some space => exact .inr (isAbsolute_slash space)
    | none => exact .inl rfl

/-- What a target puts behind the stem doubles a slash only in its mount. -/
theorem Target.doubled_detour {t : Target} (hspace : ∀ s ∈ t.space, IsSegment s)
    (hd : Doubled t.detour) : ∃ mount ∈ t.mount, Doubled mount := by
  unfold detour at hd
  cases hm : t.mount with
  | some mount =>
    refine ⟨mount, rfl, ?_⟩
    simp only [hm] at hd
    split at hd
    next => exact hd
    next hslash => exact (hd.of_append (.inr hslash)).resolve_left (by decide)
  | none =>
    cases hs : t.space with
    | some space =>
      simp only [hm, hs] at hd
      have hempty : "".toList.getLast? ≠ some '/' := by decide
      exact absurd (doubled_slash_segment (hspace space hs) hempty hd) (by decide)
    | none =>
      simp only [hm, hs] at hd
      exact absurd hd (by decide)

/-! ## Origins -/

namespace Origin

/-- The texts of an origin that nothing has checked. -/
def unchecked (settings : Settings) : Origin → List String
  | direct _ _ path target => path :: target.mount.toList
  | conventional .. | extra .. => [settings.idConstraint]

/-- What is true of the path of an origin, whatever the texts and the settings. -/
structure Shaped (settings : Settings) (o : Origin) : Prop where
  absolute : IsAbsolute (o.path settings)
  ends : (o.path settings).toList.getLast? = some '/' → o.path settings = "/" ∨
    ∃ scope verb path target, o = .direct scope verb path target ∧
      path.toList.getLast? = some '/'
  doubled : Doubled (o.path settings) → ∃ text ∈ o.unchecked settings, Doubled text
  joined : Joined (o.base settings) (o.localPath settings) (o.path settings)

variable {o : Origin}

theorem At.base_eq_or (settings : Settings) (hscope : scope.IsSound) (h : o.At scope) :
    o.base settings = "" ∨ IsAbsolute (o.base settings) := by
  cases o with
  | direct s verb path target =>
    obtain ⟨rfl, hframe, -⟩ := h
    rw [base, Scope.stem_of_frame?_eq_none hframe]
    cases hchain : s.chain with
    | nil => simpa [ofChain] using target.detour_eq_or
    | cons first rest => exact .inr ((isAbsolute_ofChain (by simp)).append _)
  | conventional s action => exact .inr (s.frame.isAbsolute_collectionPath settings)
  | extra a verb name =>
    obtain ⟨rfl, -⟩ := h
    have hsound : a.toResourceScope.IsSound := hscope
    exact .inr (ActionScope.stem_of_isSound settings hsound.frame).1

theorem At.localPath_ends (h : o.At scope)
    (hend : (o.localPath settings).toList.getLast? = some '/') :
    ∃ scope verb path target, o = .direct scope verb path target ∧
      path.toList.getLast? = some '/' := by
  cases o with
  | direct s verb path target => exact ⟨s, verb, path, target, rfl, hend⟩
  | conventional s action =>
    rcases action.suffix_eq_or settings with hempty | hclosed
    · simp [localPath, hempty] at hend
    · exact absurd hend hclosed.getLast?_ne
  | extra a verb name => exact absurd hend (isClosed_of_isSegment h.2).getLast?_ne

theorem At.doubled_base (hscope : scope.IsSound) (h : o.At scope)
    (hd : Doubled (o.base settings)) : ∃ text ∈ o.unchecked settings, Doubled text := by
  cases o with
  | direct s verb path target =>
    obtain ⟨rfl, hframe, hspace⟩ := h
    rw [base, Scope.stem_of_frame?_eq_none hframe] at hd
    rcases hd.of_append (.inl (getLast?_ofChain_ne hscope.chain)) with hd | hd
    · exact absurd hd (not_doubled_ofChain hscope.chain)
    · obtain ⟨mount, hmount, hd⟩ := Target.doubled_detour hspace hd
      exact ⟨mount, List.mem_cons_of_mem _ (Option.mem_toList.mpr hmount), hd⟩
  | conventional s action =>
    obtain rfl : scope = .resource s := h
    have hsound : s.IsSound := hscope
    exact ⟨_, List.mem_singleton_self _, hsound.frame.doubled_collectionPath hd⟩
  | extra a verb name =>
    obtain ⟨rfl, -⟩ := h
    have hsound : a.toResourceScope.IsSound := hscope
    exact ⟨_, List.mem_singleton_self _, ActionScope.doubled_stem hsound.frame hd⟩

theorem At.doubled_localPath (h : o.At scope) (hd : Doubled (o.localPath settings)) :
    ∃ text ∈ o.unchecked settings, Doubled text := by
  cases o with
  | direct s verb path target => exact ⟨path, List.mem_cons_self, hd⟩
  | conventional s action => exact ⟨_, List.mem_singleton_self _, Action.doubled_suffix hd⟩
  | extra a verb name => exact absurd hd (not_doubled_of_isSegment h.2)

theorem At.shaped (settings : Settings) (hscope : scope.IsSound) (h : o.At scope) :
    o.Shaped settings where
  absolute := (joined_join _ _).isAbsolute (h.base_eq_or settings hscope)
  ends hend := ((joined_join _ _).ends hend).imp_right h.localPath_ends
  doubled hd := ((joined_join _ _).doubled hd).elim (h.doubled_base hscope) h.doubled_localPath
  joined := joined_join _ _

end Origin

/-! ## Programs -/

namespace Program

/-- Every registration of a program comes from a sound scope. -/
theorem origins_at {program : List Step} {o : Origin} (ho : o ∈ origins program) :
    ∃ scope : Scope, scope.IsSound ∧ o.At scope := by
  obtain ⟨e, he, horigin⟩ := List.mem_filterMap.mp ho
  obtain ⟨scope, hsound, hat⟩ :=
    all_blockCourse inherited_isSound (show Scope.IsSound .root from trivial) [] 0 program e he
  cases e with
  | entered position place => cases horigin
  | finished position outcome => cases horigin
  | deed d =>
    cases d with
    | ignored resource verb path => cases horigin
    | drawnInPlace resource => cases horigin
    | made o' =>
      obtain rfl : o' = o := by simpa [Entry.origin?, Deed.origin?] using horigin
      exact ⟨scope, hsound, hat⟩

/-- All paths that a program hands to its table have this shape, under all settings. -/
theorem paths_shaped (settings : Settings) (sink : Sink τ η) (table : τ) (program : List Step) :
    (Program.run settings sink table program).table =
        sink.enter table ((origins program).map (·.registration settings)) ∧
      ∀ o ∈ origins program, o.Shaped settings := by
  refine ⟨(run_makes settings sink table program).2, fun o ho => ?_⟩
  obtain ⟨scope, hsound, hat⟩ := origins_at ho
  exact hat.shaped settings hsound

/-- Slashes at the ends of a mount, a local path and a constraint. -/
private def slashed : List Step := [
  .space ["api"] [
    .route "get" "//status/" (.full ⟨"api", "status", some "v1//", none⟩),
    .resources "posts" { keep := some ["show"] } [.actions .member [.action "put" "pin"]]]]

theorem paths_shaped_slashed :
    (origins slashed).map (·.path ⟨"/\\d//"⟩) =
        ["/api/v1/status/", "/api/posts/:id(/\\d//)", "/api/posts/:id(/\\d//)/pin"] ∧
      ∀ o ∈ origins slashed, o.Shaped ⟨"/\\d//"⟩ := by
  have hshaped := paths_shaped ⟨"/\\d//"⟩ RouteTable.sink {} slashed
  exact ⟨by decide, hshaped.2⟩

end Program

end RoutePlan
