import RoutePlan.Program

/-! # Two runs of one program

The same program can be run on tables of two kinds. A relation between the steps on the one
and the steps on the other that is kept by every way of building a step, as `Transport` lists
them, holds between the two runs. What a program is made of is gone through here once, for
all such relations.
-/

namespace RoutePlan

variable {τ η σ θ α : Type}

/-- The surroundings in which a program runs. -/
abbrev Surroundings.running (settings : Settings) (sink : Sink τ η) :
    Surroundings τ η (Note τ) :=
  ⟨settings, sink, .event⟩

/-- The ways of building a step keep the relation `R`. Tables are grown by registering and by
nothing else, and faults are caught where a step is settled or excused. -/
structure Transport (left : Sink τ η) (right : Sink σ θ)
    (R : (α : Type) → Running τ α → Running σ α → Prop) : Prop where
  done : ∀ {α : Type} (a : α), R α (Drawing.done a) (Drawing.done a)
  fail : ∀ {α : Type} (f : Fault), R α (Drawing.fail f) (Drawing.fail f)
  event : ∀ e : Event, R Unit (Drawing.note (.event e)) (Drawing.note (.event e))
  entered : ∀ (position : List Nat) (place : Place),
    R Unit (Drawing.note (.entered position place)) (Drawing.note (.entered position place))
  grow : ∀ (verb : Verb) (path : String) (d : Descriptor),
    R Unit (Drawing.update fun table => left.register table verb path d)
      (Drawing.update fun table => right.register table verb path d)
  bind : ∀ {α β : Type} {step : Running τ α} {step' : Running σ α}
    {next : α → Running τ β} {next' : α → Running σ β},
    R α step step' → (∀ a, R β (next a) (next' a)) → R β (step >>= next) (step' >>= next')
  settle : ∀ (position : List Nat) {step : Running τ Unit} {step' : Running σ Unit},
    R Unit step step' → R Unit (RoutePlan.settle position step) (RoutePlan.settle position step')
  excuse : ∀ {step : Running τ Unit} {step' : Running σ Unit},
    R Unit step step' → R Unit (RoutePlan.excuse step) (RoutePlan.excuse step')

namespace Transport

variable {left : Sink τ η} {right : Sink σ θ}
  {R : (α : Type) → Running τ α → Running σ α → Prop}

theorem ofExcept (h : Transport left right R) (check : Except Fault α) :
    R α (Drawing.ofExcept check) (Drawing.ofExcept check) := by
  cases check with
  | ok a => exact h.done a
  | error f => exact h.fail f

theorem register (h : Transport left right R) (settings : Settings) (chain : List String)
    (stem : String) (verb : Verb) (path : String) (target : Target) :
    R Unit (RoutePlan.register (.running settings left) chain stem verb path target)
      (RoutePlan.register (.running settings right) chain stem verb path target) := by
  refine h.bind (h.event _) fun _ => ?_
  exact h.grow verb _ _

theorem route (h : Transport left right R) (settings : Settings) (scope : Scope) (verb : Verb)
    (path : String) (spec : TargetSpec) :
    R Unit (scope.route (.running settings left) verb path spec)
      (scope.route (.running settings right) verb path spec) := by
  refine h.bind (h.ofExcept _) fun target => ?_
  cases scope.frame? with
  | some frame => exact h.event _
  | none => exact h.register settings _ _ verb path target

theorem enterSpace (h : Transport left right R) (settings : Settings) (scope : Scope)
    (names : List String) :
    R Scope (scope.enterSpace (.running settings left) names)
      (scope.enterSpace (.running settings right) names) := by
  unfold Scope.enterSpace
  cases scope.frame? with
  | some frame =>
    refine h.bind (h.event _) fun _ => ?_
    exact h.done scope
  | none =>
    cases names with
    | nil => exact h.fail _
    | cons first rest =>
      refine h.bind (h.ofExcept _) fun _ => ?_
      exact h.done _

theorem expand (h : Transport left right R) (settings : Settings) (inner : ResourceScope)
    (actions : List Action) :
    R Unit (Scope.expand (.running settings left) inner actions)
      (Scope.expand (.running settings right) inner actions) := by
  induction actions with
  | nil => exact h.done ()
  | cons action rest ih =>
    refine h.bind ?_ fun _ => ih
    exact h.register settings _ _ _ _ _

theorem enterResource (h : Transport left right R) (settings : Settings) (scope : Scope)
    (name : String) (options : ResourceOptions) :
    R Scope (scope.enterResource (.running settings left) name options)
      (scope.enterResource (.running settings right) name options) := by
  refine h.bind (h.ofExcept _) fun inner => ?_
  refine h.bind (h.expand settings inner _) fun _ => ?_
  exact h.done _

theorem action (h : Transport left right R) (settings : Settings) (scope : ActionScope)
    (verb : Verb) (name : String) :
    R Unit (scope.action (.running settings left) verb name)
      (scope.action (.running settings right) verb name) := by
  refine h.bind (h.ofExcept _) fun _ => ?_
  exact h.register settings _ _ verb name _

theorem actions (h : Transport left right R) (settings : Settings) (scope : ActionScope)
    (actions : List (Verb × String)) :
    R Unit (scope.actions (.running settings left) actions)
      (scope.actions (.running settings right) actions) := by
  induction actions with
  | nil => exact h.done ()
  | cons first rest ih =>
    refine h.bind ?_ fun _ => ih
    exact h.action settings scope first.1 first.2

/-! ## Documents -/

mutual

theorem replay (h : Transport left right R) (settings : Settings) (scope : Scope)
    (declaration : Declaration) :
    R Unit (declaration.replay (.running settings left) scope)
      (declaration.replay (.running settings right) scope) := by
  cases declaration with
  | route verb path target =>
    rw [Declaration.replay, Declaration.replay]
    refine h.bind (h.ofExcept _) fun target => ?_
    exact h.route settings scope verb path (.full target)
  | space names block =>
    rw [Declaration.replay, Declaration.replay]
    refine h.bind (h.enterSpace settings scope names) fun inner => ?_
    exact h.replayAll settings inner block
  | resources name options block =>
    rw [Declaration.replay, Declaration.replay]
    refine h.bind (h.ofExcept _) fun options => ?_
    refine h.bind (h.enterResource settings scope name options) fun inner => ?_
    exact h.replayAll settings inner block
  | actions kind actions =>
    rw [Declaration.replay, Declaration.replay]
    refine h.bind (h.ofExcept _) fun inner => ?_
    exact h.actions settings inner actions

theorem replayAll (h : Transport left right R) (settings : Settings) (scope : Scope)
    (block : List Declaration) :
    R Unit (RoutePlan.replayAll (.running settings left) scope block)
      (RoutePlan.replayAll (.running settings right) scope block) := by
  cases block with
  | nil =>
    rw [RoutePlan.replayAll, RoutePlan.replayAll]
    exact h.done ()
  | cons declaration rest =>
    rw [RoutePlan.replayAll, RoutePlan.replayAll]
    refine h.bind (h.replay settings scope declaration) fun _ => ?_
    exact h.replayAll settings scope rest

end

/-! ## Programs -/

theorem runAction (h : Transport left right R) (settings : Settings) (scope : ActionScope)
    (position : List Nat) (step : ActionStep) :
    R Unit (step.run (.running settings left) scope position)
      (step.run (.running settings right) scope position) := by
  induction step with
  | action verb name =>
    refine h.settle position ?_
    refine h.bind (h.ofExcept _) fun verb => ?_
    exact h.action settings scope verb name
  | look => exact h.settle position (h.entered position _)
  | attempt step ih => exact h.excuse ih

theorem runActions (h : Transport left right R) (settings : Settings) (scope : ActionScope)
    (position : List Nat) (index : Nat) (block : List ActionStep) :
    R Unit (RoutePlan.runActions (.running settings left) scope position index block)
      (RoutePlan.runActions (.running settings right) scope position index block) := by
  induction block generalizing index with
  | nil => exact h.done ()
  | cons step rest ih =>
    refine h.bind ?_ fun _ => ih (index + 1)
    exact h.runAction settings scope _ step

mutual

theorem runStep (h : Transport left right R) (settings : Settings) (scope : Scope)
    (position : List Nat) (step : Step) :
    R Unit (step.run (.running settings left) scope position)
      (step.run (.running settings right) scope position) := by
  cases step with
  | route verb path target =>
    rw [Step.run, Step.run]
    refine h.settle position ?_
    refine h.bind (h.ofExcept _) fun verb => ?_
    exact h.route settings scope verb path target
  | space names block =>
    rw [Step.run, Step.run]
    refine h.settle position ?_
    refine h.bind (h.enterSpace settings scope names) fun inner => ?_
    refine h.bind (h.entered position _) fun _ => ?_
    exact h.runBlock settings inner position 0 block
  | resources name options block =>
    rw [Step.run, Step.run]
    refine h.settle position ?_
    refine h.bind (h.ofExcept _) fun options => ?_
    refine h.bind (h.enterResource settings scope name options) fun inner => ?_
    refine h.bind (h.entered position _) fun _ => ?_
    exact h.runBlock settings inner position 0 block
  | actions kind block =>
    rw [Step.run, Step.run]
    refine h.settle position ?_
    refine h.bind (h.ofExcept _) fun inner => ?_
    refine h.bind (h.entered position _) fun _ => ?_
    exact h.runActions settings inner position 0 block
  | document definition =>
    rw [Step.run, Step.run]
    exact h.settle position (h.replayAll settings scope definition.declarations)
  | look =>
    rw [Step.run, Step.run]
    exact h.settle position (h.entered position _)
  | attempt step =>
    rw [Step.run, Step.run]
    exact h.excuse (h.runStep settings scope position step)

theorem runBlock (h : Transport left right R) (settings : Settings) (scope : Scope)
    (position : List Nat) (index : Nat) (block : List Step) :
    R Unit (RoutePlan.runBlock (.running settings left) scope position index block)
      (RoutePlan.runBlock (.running settings right) scope position index block) := by
  cases block with
  | nil =>
    rw [RoutePlan.runBlock, RoutePlan.runBlock]
    exact h.done ()
  | cons step rest =>
    rw [RoutePlan.runBlock, RoutePlan.runBlock]
    refine h.bind (h.runStep settings scope _ step) fun _ => ?_
    exact h.runBlock settings scope position (index + 1) rest

end

end Transport
end RoutePlan
