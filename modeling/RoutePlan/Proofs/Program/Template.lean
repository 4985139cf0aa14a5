import RoutePlan.Proofs.Program.Shape

/-! # Path templates

A template is a path in which the places of the id constraint are left open. The settings decide
nothing but what fills them: a program has one outcome and one list of templates, and a hole
stands nowhere but between the parentheses of an id segment.
-/

namespace RoutePlan

open RoutePlan.Path

variable {τ η : Type} {settings : Settings} {scope : Scope} {frame : Frame}

/-- A text with holes. -/
abbrev Template : Type := List (Option Char)

namespace Template

def ofString (s : String) : Template := s.toList.map some

def fill (constraint : String) (t : Template) : String :=
  String.ofList (t.flatMap fun c => match c with
    | some c => [c]
    | none => constraint.toList)

/-- An id segment whose parentheses are left open. -/
def idSegment (name : String) : Template :=
  ofString ("/:" ++ name ++ "(") ++ none :: ofString ")"

/-- Every hole stands in the parentheses of a segment `:name()`, where the name is `id` or the one
that a resource around goes by. -/
def Guarded (t : Template) : Prop :=
  ∀ before after, t = before ++ none :: after → ∃ (outer rest : Template) (name : String),
    before = outer ++ ofString ("/:" ++ name ++ "(") ∧ after = some ')' :: rest ∧
      (rest = [] ∨ rest.head? = some (some '/')) ∧
        (name = "id" ∨ ∃ param, IsSegment param ∧ name = param ++ "_id")

variable {t u : Template}

@[simp] theorem fill_append (constraint : String) (t u : Template) :
    fill constraint (t ++ u) = fill constraint t ++ fill constraint u := by
  simp [fill]

@[simp] theorem fill_ofString (constraint s : String) : fill constraint (ofString s) = s := by
  simp [fill, ofString, List.flatMap_map]

theorem fill_idSegment (settings : Settings) (name : String) :
    fill settings.idConstraint (idSegment name) = settings.idSegment name := by
  have hhole (t : Template) : fill settings.idConstraint (none :: t) =
      settings.idConstraint ++ fill settings.idConstraint t := by
    simp [fill]
  rw [idSegment, fill_append, hhole, fill_ofString, fill_ofString, Settings.idSegment,
    ← String.append_assoc]

theorem ofString_ne (s : String) (before after : Template) :
    ofString s ≠ before ++ none :: after := by
  intro h
  have hmem : none ∈ ofString s := by
    rw [h]
    simp
  simp [ofString] at hmem

theorem guarded_ofString (s : String) : Guarded (ofString s) :=
  fun before after h => absurd h (ofString_ne s before after)

/-- An id segment has its one hole. -/
theorem guarded_idSegment {name : String}
    (hname : name = "id" ∨ ∃ param, IsSegment param ∧ name = param ++ "_id") :
    Guarded (idSegment name) := by
  intro before after h
  rw [idSegment] at h
  rcases List.append_eq_append_iff.mp h with ⟨more, hbefore, hrest⟩ | ⟨more, hopening, hrest⟩
  · cases more with
    | nil =>
      obtain rfl : after = ofString ")" := by simpa using hrest.symm
      exact ⟨[], [], name, by simpa using hbefore, rfl, .inl rfl, hname⟩
    | cons c more =>
      obtain ⟨-, hclosing⟩ := List.cons.inj hrest
      exact absurd hclosing (ofString_ne ")" more after)
  · cases more with
    | nil =>
      obtain rfl : after = ofString ")" := by simpa using hrest
      exact ⟨[], [], name, by simpa using hopening.symm, rfl, .inl rfl, hname⟩
    | cons c more =>
      obtain ⟨rfl, -⟩ := List.cons.inj hrest
      exact absurd hopening (ofString_ne _ before more)

/-- A template can be continued by one that starts a new segment. -/
theorem Guarded.append (ht : Guarded t) (hu : Guarded u)
    (hmeet : u = [] ∨ u.head? = some (some '/')) : Guarded (t ++ u) := by
  -- A hole of the first template has its closing parenthesis there, and only the end of the
  -- segment can lie in the second.
  intro before after h
  rcases List.append_eq_append_iff.mp h with ⟨more, rfl, hrest⟩ | ⟨more, hfirst, hrest⟩
  · obtain ⟨outer, rest, name, rfl, hafter, hend, hname⟩ := hu more after hrest
    exact ⟨t ++ outer, rest, name, by rw [List.append_assoc], hafter, hend, hname⟩
  · cases more with
    | nil =>
      obtain rfl : u = none :: after := by simpa using hrest.symm
      simp at hmeet
    | cons c more =>
      obtain ⟨rfl, rfl⟩ := List.cons.inj hrest
      obtain ⟨outer, rest, name, hbefore, rfl, hend, hname⟩ := ht before more hfirst
      refine ⟨outer, rest ++ u, name, hbefore, rfl, ?_, hname⟩
      rcases hend with rfl | hend
      · exact hmeet
      · exact .inr (by simp [hend])

end Template

open Template

/-! ## Templates of stems and suffixes -/

def Frame.template : Frame → Template
  | .top r => ofString (Path.ofChain r.chain ++ "/" ++ r.name)
  | .nested r p => p.template ++ idSegment (p.resource.param ++ "_id") ++ ofString ("/" ++ r.name)

theorem Frame.fill_template (settings : Settings) (frame : Frame) :
    frame.template.fill settings.idConstraint = frame.collectionPath settings := by
  induction frame with
  | top r => rw [template, fill_ofString, collectionPath]
  | nested r p ih =>
    simp only [template, fill_append, ih, fill_idSegment, fill_ofString, collectionPath, passage,
      String.append_assoc]

theorem head?_idSegment (name : String) : (idSegment name).head? = some (some '/') := by
  simp [idSegment, ofString]

theorem head?_ofString_slash (s : String) : (ofString ("/" ++ s)).head? = some (some '/') := by
  simp [ofString]

theorem Frame.IsSound.guarded (h : frame.IsSound) : frame.template.Guarded := by
  induction frame with
  | top r => exact guarded_ofString _
  | nested r p ih =>
    have hpassage := guarded_idSegment (.inr ⟨_, h.parent.proper.param, rfl⟩)
    exact ((ih h.parent).append hpassage (.inr (head?_idSegment _))).append (guarded_ofString _)
      (.inr (head?_ofString_slash _))

def ActionScope.template (a : ActionScope) : Template :=
  match a.kind with
  | .member => a.frame.template ++ idSegment "id"
  | .collection => a.frame.template

theorem ActionScope.fill_template (settings : Settings) (a : ActionScope) :
    a.template.fill settings.idConstraint = a.stem settings := by
  obtain ⟨resource, kind⟩ := a
  cases kind with
  | member => simp only [template, stem, Frame.memberPath, fill_append, Frame.fill_template,
      fill_idSegment]
  | collection => exact resource.frame.fill_template settings

theorem ActionScope.guarded {a : ActionScope} (h : a.frame.IsSound) : a.template.Guarded := by
  obtain ⟨resource, kind⟩ := a
  cases kind with
  | member => exact h.guarded.append (guarded_idSegment (.inl rfl)) (.inr (head?_idSegment _))
  | collection => exact h.guarded

def Action.template : Action → Template
  | .index | .create => []
  | .new => ofString "/new"
  | .edit => idSegment "id" ++ ofString "/edit"
  | .detail | .update | .destroy => idSegment "id"

theorem Action.fill_template (settings : Settings) (a : Action) :
    a.template.fill settings.idConstraint = a.suffix settings := by
  cases a with
  | index => rfl
  | create => rfl
  | new => exact fill_ofString _ "/new"
  | edit => rw [template, fill_append, fill_idSegment, fill_ofString, suffix]
  | detail => exact fill_idSegment settings "id"
  | update => exact fill_idSegment settings "id"
  | destroy => exact fill_idSegment settings "id"

theorem Action.guarded (a : Action) : a.template.Guarded := by
  have hid : Guarded (idSegment "id") := guarded_idSegment (.inl rfl)
  cases a with
  | index => exact guarded_ofString ""
  | create => exact guarded_ofString ""
  | new => exact guarded_ofString "/new"
  | edit => exact hid.append (guarded_ofString "/edit") (.inr (head?_ofString_slash "edit"))
  | detail => exact hid
  | update => exact hid
  | destroy => exact hid

theorem Action.template_eq_or (a : Action) :
    a.template = [] ∨ a.template.head? = some (some '/') := by
  cases a <;> simp [template, idSegment, ofString]

/-! ## Origins -/

namespace Origin

def template : Origin → Template
  | direct scope _ path target =>
    ofString (Path.join (Path.ofChain scope.chain ++ target.detour) path)
  | conventional scope action => scope.frame.template ++ action.template
  | extra a _ name => a.template ++ ofString ("/" ++ name)

variable {o : Origin}

theorem At.fill_template (settings : Settings) (hscope : scope.IsSound) (h : o.At scope) :
    o.template.fill settings.idConstraint = o.path settings := by
  cases o with
  | direct s verb path target =>
    obtain ⟨rfl, hframe, -⟩ := h
    rw [template, fill_ofString, Origin.path, base, Scope.stem_of_frame?_eq_none hframe, localPath]
  | conventional s action =>
    obtain rfl : scope = .resource s := h
    have hsound : s.IsSound := hscope
    rw [template, fill_append, Frame.fill_template, Action.fill_template,
      path_conventional settings hsound.frame.proper.name]
  | extra a verb name =>
    obtain ⟨rfl, hname⟩ := h
    have hsound : a.toResourceScope.IsSound := hscope
    rw [template, fill_append, ActionScope.fill_template, fill_ofString,
      path_extra settings hsound.frame verb hname, String.append_assoc]

theorem At.guarded (hscope : scope.IsSound) (h : o.At scope) : o.template.Guarded := by
  cases o with
  | direct s verb path target => exact guarded_ofString _
  | conventional s action =>
    obtain rfl : scope = .resource s := h
    have hsound : s.IsSound := hscope
    exact hsound.frame.guarded.append action.guarded action.template_eq_or
  | extra a verb name =>
    obtain ⟨rfl, -⟩ := h
    have hsound : a.toResourceScope.IsSound := hscope
    exact (ActionScope.guarded hsound.frame).append (guarded_ofString _)
      (.inr (head?_ofString_slash _))

end Origin

/-! ## Programs -/

/-- A registration whose path is still open. -/
structure Sketch where
  verb : Verb
  template : Template
  target : Descriptor

def Sketch.fill (constraint : String) (s : Sketch) : Registration :=
  ⟨s.verb, s.template.fill constraint, s.target⟩

def Origin.sketch (o : Origin) : Sketch := ⟨o.verb, o.template, o.target⟩

/-- A program draws the same with every constraint, but for what fills the holes. -/
theorem Program.constraint_fills (program : List Step) :
    ∃ (outcome : Except Fault Unit) (sketches : List Sketch),
      (∀ s ∈ sketches, s.template.Guarded) ∧
        ∀ {τ η : Type} (sink : Sink τ η) (table : τ) (constraint : String),
          (Program.run ⟨constraint⟩ sink table program).outcome = outcome ∧
            (Program.run ⟨constraint⟩ sink table program).table =
              sink.enter table (sketches.map (·.fill constraint)) := by
  refine ⟨(course program).outcome, (origins program).map Origin.sketch, ?_, ?_⟩
  · intro s hs
    obtain ⟨o, ho, rfl⟩ := List.mem_map.mp hs
    obtain ⟨scope, hsound, hat⟩ := origins_at ho
    exact hat.guarded hsound
  · intro τ η sink table constraint
    have hfill : ∀ o ∈ origins program,
        (o.sketch.fill constraint) = o.registration ⟨constraint⟩ := by
      intro o ho
      obtain ⟨scope, hsound, hat⟩ := origins_at ho
      rw [Origin.registration, ← hat.fill_template ⟨constraint⟩ hsound]
      rfl
    rw [List.map_map, show (origins program).map ((·.fill constraint) ∘ Origin.sketch) = _ from
      List.map_congr_left hfill]
    exact run_makes ⟨constraint⟩ sink table program

end RoutePlan
