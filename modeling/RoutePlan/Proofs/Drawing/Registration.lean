import RoutePlan.RouteTable
import RoutePlan.Scope

/-! # Registrations

A registration is what a drawing step hands to its caller's table: a method, a path and a
descriptor. Most steps make the same registrations whatever table they run on, and end the
same way. `Drawing.Makes` says so of a step, and there is one rule for each way of building
steps.
-/

namespace RoutePlan

structure Registration where
  verb : Verb
  path : String
  target : Descriptor
deriving DecidableEq, Repr

def Registration.route (r : Registration) : Route := ⟨r.verb, r.path, r.target.dispatch⟩

variable {τ η ν α β : Type}

/-- Add one registration after the other, each with the handler that is made for it against the
table that holds the ones before it. -/
def Sink.enter (sink : Sink τ η) (table : τ) (made : List Registration) : τ :=
  made.foldl (fun table r => sink.add table r.verb r.path (sink.resolve r.target table)) table

@[simp] theorem Sink.enter_nil (sink : Sink τ η) (table : τ) : sink.enter table [] = table := rfl

theorem Sink.enter_append (sink : Sink τ η) (table : τ) (first second : List Registration) :
    sink.enter table (first ++ second) = sink.enter (sink.enter table first) second :=
  List.foldl_append

theorem Sink.enter_concat (sink : Sink τ η) (table : τ) (made : List Registration)
    (r : Registration) :
    sink.enter table (made ++ [r]) =
      sink.add (sink.enter table made) r.verb r.path
        (sink.resolve r.target (sink.enter table made)) := by
  rw [enter_append]
  rfl

namespace RouteTable

/-- A route table with a resolver of the caller's. -/
def sinkWith (resolve : Descriptor → RouteTable → Dispatch) : Sink RouteTable Dispatch :=
  { sink with resolve := resolve }

/-- The routes that registrations become on a route table with the resolver. -/
def additions (resolve : Descriptor → RouteTable → Dispatch) (table : RouteTable) :
    List Registration → List Route
  | [] => []
  | r :: rest =>
    let route := ⟨r.verb, r.path, resolve r.target table⟩
    route :: additions resolve (table.push route) rest

variable (resolve : Descriptor → RouteTable → Dispatch) (table : RouteTable)

/-- A route table is only ever added to, at its end. -/
theorem enter_eq_additions (made : List Registration) :
    (sinkWith resolve).enter table made =
      ⟨table.routes ++ additions resolve table made⟩ := by
  induction made generalizing table with
  | nil => simp [additions]
  | cons r rest ih =>
    let route : Route := ⟨r.verb, r.path, resolve r.target table⟩
    change (sinkWith resolve).enter (table.push route) rest = _
    rw [ih, routes_push, List.append_assoc]
    rfl

theorem length_additions (made : List Registration) :
    (additions resolve table made).length = made.length := by
  induction made generalizing table with
  | nil => rfl
  | cons r rest ih => rw [additions, List.length_cons, List.length_cons, ih]

theorem additions_take (made : List Registration) (i : Nat) :
    additions resolve table (made.take i) = (additions resolve table made).take i := by
  induction made generalizing table i with
  | nil => simp [additions]
  | cons r rest ih =>
    cases i with
    | zero => rfl
    | succ i => rw [List.take_succ_cons, additions, additions, List.take_succ_cons, ih]

/-- A route is resolved against the table that has every route before it and not the route. -/
theorem additions_getElem (made : List Registration) (i : Nat)
    (h : i < (additions resolve table made).length) (h' : i < made.length) :
    (additions resolve table made)[i] =
      ⟨made[i].verb, made[i].path, resolve made[i].target
        ⟨table.routes ++ (additions resolve table made).take i⟩⟩ := by
  induction made generalizing table i with
  | nil => exact absurd h' (Nat.not_lt_zero i)
  | cons r rest ih =>
    cases i with
    | zero => simp [additions]
    | succ i =>
      simp only [additions, List.getElem_cons_succ, List.take_succ_cons]
      rw [ih, routes_push, List.append_assoc]
      rfl

theorem additions_dispatch (made : List Registration) :
    additions (fun d _ => d.dispatch) table made = made.map Registration.route := by
  induction made generalizing table with
  | nil => rfl
  | cons r rest ih =>
    rw [additions, ih]
    rfl

theorem routes_enter (made : List Registration) :
    (sink.enter table made).routes = table.routes ++ made.map Registration.route := by
  change ((sinkWith fun d _ => d.dispatch).enter table made).routes = _
  rw [enter_eq_additions, additions_dispatch]

end RouteTable

namespace Drawing

/-- From every table the step ends in `outcome`, after exactly the registrations `made`. -/
def Makes (sink : Sink τ η) (step : Drawing τ ν α) (outcome : Except Fault α)
    (made : List Registration) : Prop :=
  ∀ table, (step table).outcome = outcome ∧ (step table).table = sink.enter table made

namespace Makes

variable {sink : Sink τ η}

theorem done (a : α) : Makes sink (Drawing.done a : Drawing τ ν α) (.ok a) [] :=
  fun _ => ⟨rfl, rfl⟩

theorem ofExcept (check : Except Fault α) :
    Makes sink (Drawing.ofExcept check : Drawing τ ν α) check [] := by
  intro table
  cases check with
  | ok a => exact ⟨rfl, rfl⟩
  | error f => exact ⟨rfl, rfl⟩

theorem note (n : ν) : Makes sink (Drawing.note n : Drawing τ ν Unit) (.ok ()) [] :=
  fun _ => ⟨rfl, rfl⟩

theorem bind_ok {step : Drawing τ ν α} {next : α → Drawing τ ν β} {a : α}
    {outcome : Except Fault β} {first second : List Registration}
    (hstep : Makes sink step (.ok a) first) (hnext : Makes sink (next a) outcome second) :
    Makes sink (step >>= next) outcome (first ++ second) := by
  intro table
  obtain ⟨ho, ht⟩ := hstep table
  obtain ⟨ho', ht'⟩ := hnext (sink.enter table first)
  change (andThen step next table).outcome = _ ∧ (andThen step next table).table = _
  simp only [andThen, ho, ht, ho', ht', Sink.enter_append, and_self]

theorem bind_error {step : Drawing τ ν α} {next : α → Drawing τ ν β} {f : Fault}
    {made : List Registration} (hstep : Makes sink step (.error f) made) :
    Makes sink (step >>= next) (.error f) made := by
  intro table
  obtain ⟨ho, ht⟩ := hstep table
  change (andThen step next table).outcome = _ ∧ (andThen step next table).table = _
  simp only [andThen, ho, ht, and_self]

/-- A check in front of a step decides whether the step runs. -/
theorem check_ok {check : Except Fault α} {next : α → Drawing τ ν β} {a : α}
    {outcome : Except Fault β} {made : List Registration} (hcheck : check = .ok a)
    (hnext : Makes sink (next a) outcome made) :
    Makes sink (Drawing.ofExcept check >>= next) outcome made := by
  rw [hcheck]
  exact bind_ok (ofExcept (.ok a)) hnext

theorem check_error {check : Except Fault α} {next : α → Drawing τ ν β} {f : Fault}
    (hcheck : check = .error f) :
    Makes sink (Drawing.ofExcept check >>= next) (.error f) [] := by
  rw [hcheck]
  exact bind_error (ofExcept (.error f))

theorem register (env : Surroundings τ η ν) (chain : List String) (stem : String) (verb : Verb)
    (path : String) (target : Target) :
    Makes env.sink (RoutePlan.register env chain stem verb path target) (.ok ())
      [⟨verb, Path.join (target.extend stem) path, target.describe chain⟩] :=
  fun _ => ⟨rfl, rfl⟩

end Makes
end Drawing
end RoutePlan
