import RoutePlan.Proofs.Drawing.Registration
import RoutePlan.Proofs.Program.Journal
import RoutePlan.Proofs.Program.Transport

/-! # The script of a program

What a program does to a table can be told without the table. Its script is the list of the
registrations it makes, with its outcome and its journal, in which a table is given by the
number of registrations it holds. The script is found by running the program on a table that
only records, and every other run performs it.
-/

namespace RoutePlan

variable {τ η α β : Type}

/-- The table that records what it is given. -/
def Sink.recorder : Sink (List Registration) Descriptor where
  resolve d _ := d
  add made verb path d := made ++ [⟨verb, path, d⟩]

/-! ## The recorder only grows -/

/-- From every record, the tables a step shows are extensions of the ones before. -/
def Extends (step : Running (List Registration) α) : Prop :=
  ∀ made, (moments made (step made).notes (step made).table).Pairwise (· <+: ·)

theorem extends_silent {step : Running (List Registration) α}
    (hnotes : ∀ made, (step made).notes.filterMap Note.table? = [])
    (htable : ∀ made, made <+: (step made).table) : Extends step := by
  intro made
  rw [moments, hnotes made]
  simpa using htable made

theorem transport_extends : Transport Sink.recorder Sink.recorder fun _ step _ => Extends step where
  done _ := extends_silent (fun _ => rfl) (fun made => List.prefix_refl made)
  fail _ := extends_silent (fun _ => rfl) (fun made => List.prefix_refl made)
  event _ := extends_silent (fun _ => rfl) (fun made => List.prefix_refl made)
  entered _ _ := extends_silent (fun _ => rfl) (fun made => List.prefix_refl made)
  grow _ _ _ := extends_silent (fun _ => rfl) (fun made => List.prefix_append made _)
  bind {_ _ step _ next _} hstep hnext := by
    intro made
    rw [bind_apply]
    cases hout : (step made).outcome with
    | error f => exact hstep made
    | ok a => exact moments_append (hstep made) (hnext a _)
  settle position {step _} hstep := by
    intro made
    rw [settle_apply]
    refine moments_append (hstep made) ?_
    simp [moments, Note.table?]
  excuse {step _} hstep := by
    intro made
    rw [excuse_apply]
    exact hstep made

/-! ## Every table follows the recorder -/

/-- The step does to `table` what the step `model` does to the record of what was entered
into it. -/
def Retells (sink : Sink τ η) (table : τ) (step : Running τ α)
    (model : Running (List Registration) α) : Prop :=
  ∀ made, step (sink.enter table made) = (model made).map (sink.enter table)

theorem transport_retells (sink : Sink τ η) (table : τ) :
    Transport sink Sink.recorder fun _ => Retells sink table where
  done _ _ := rfl
  fail _ _ := rfl
  event _ _ := rfl
  entered _ _ _ := rfl
  grow verb path d made := by
    have hgrow := sink.enter_concat table made ⟨verb, path, d⟩
    exact congrArg (Drawn.mk (.ok ()) · []) hgrow.symm
  bind {_ _ step model next next'} hstep hnext := by
    intro made
    rw [bind_apply, bind_apply, hstep made, Drawn.map]
    cases (model made).outcome with
    | error f => rfl
    | ok a =>
      simp only [hnext a (model made).table, Drawn.map, List.map_append]
  settle position {step model} hstep := by
    intro made
    rw [settle_apply, settle_apply, hstep made]
    simp only [Drawn.map, List.map_append, List.map_singleton, Note.map]
  excuse {step model} hstep := by
    intro made
    rw [excuse_apply, excuse_apply, hstep made]
    rfl

/-! ## Scripts -/

structure Script where
  outcome : Except Fault Unit
  made : List Registration
  /-- The journal, with a table given by the number of registrations before it. -/
  notes : List (Note Nat)

namespace Program

variable (settings : Settings) (program : List Step)

/-- The run on the recorder. -/
def recorded : Drawn (List Registration) (Note (List Registration)) Unit :=
  Program.run settings Sink.recorder [] program

def script : Script where
  outcome := (recorded settings program).outcome
  made := (recorded settings program).table
  notes := (recorded settings program).notes.map (Note.map List.length)

theorem run_eq_map (sink : Sink τ η) (table : τ) :
    Program.run settings sink table program = (recorded settings program).map (sink.enter table) :=
  (transport_retells sink table).runBlock settings .root [] 0 program []

theorem recorded_pairwise :
    (moments [] (recorded settings program).notes (recorded settings program).table).Pairwise
      (· <+: ·) :=
  transport_extends.runBlock settings .root [] 0 program []

/-- A journal of the recorder reads the same with any two functions that agree on the
beginnings of the whole record. -/
theorem recorded_notes_map {f g : List Registration → τ}
    (h : ∀ made, made <+: (recorded settings program).table → f made = g made) :
    (recorded settings program).notes.map (Note.map f) =
      (recorded settings program).notes.map (Note.map g) := by
  refine List.map_congr_left fun n hn => Note.map_congr fun made hmade => h made ?_
  -- Every table in the journal stands before the last one, which is the whole record.
  obtain ⟨-, -, hlast⟩ := List.pairwise_append.1 (recorded_pairwise settings program)
  refine hlast made ?_ _ (List.mem_singleton_self _)
  exact List.mem_cons_of_mem _ (List.mem_filterMap.2 ⟨n, hn, hmade⟩)

end Program

namespace Script

/-- The run is the script performed on a table of the caller's: `stage i` is the table after
the first `i` registrations, and nothing else is done to it. -/
structure Performed (script : Script) (sink : Sink τ η) (stage : Nat → τ)
    (drawn : Drawn τ (Note τ) Unit) : Prop where
  outcome : drawn.outcome = script.outcome
  step : ∀ (i : Nat) (h : i < script.made.length),
    stage (i + 1) = sink.add (stage i) script.made[i].verb script.made[i].path
      (sink.resolve script.made[i].target (stage i))
  last : drawn.table = stage script.made.length
  notes : drawn.notes = script.notes.map (Note.map stage)

/-- On a route table, with whatever resolver, performing the script appends the routes `news`. -/
structure Appended (script : Script) (resolve : Descriptor → RouteTable → Dispatch)
    (table : RouteTable) (news : List Route) (drawn : Drawn RouteTable (Note RouteTable) Unit) :
    Prop where
  length : news.length = script.made.length
  performed : script.Performed (RouteTable.sinkWith resolve)
    (fun i => ⟨table.routes ++ news.take i⟩) drawn
  route : ∀ (i : Nat) (h : i < news.length) (h' : i < script.made.length),
    news[i] = ⟨script.made[i].verb, script.made[i].path,
      resolve script.made[i].target ⟨table.routes ++ news.take i⟩⟩
  last : drawn.table = ⟨table.routes ++ news⟩
  grows : (moments table drawn.notes drawn.table).Pairwise (·.routes <+: ·.routes)

end Script

namespace Program

variable (settings : Settings) (program : List Step)

/-- The numbers in a script's journal count up. -/
theorem script_pairwise :
    (moments 0 (script settings program).notes (script settings program).made.length).Pairwise
      (· ≤ ·) := by
  have hlengths : moments 0 (script settings program).notes (script settings program).made.length =
      (moments [] (recorded settings program).notes (recorded settings program).table).map
        List.length := moments_map List.length [] _ _
  rw [hlengths, List.pairwise_map]
  exact (recorded_pairwise settings program).imp List.IsPrefix.length_le

/-- In the journal of a run a number stands for the table after that many registrations. -/
theorem run_notes (sink : Sink τ η) (table : τ) :
    (Program.run settings sink table program).notes =
      (script settings program).notes.map
        (Note.map fun i => sink.enter table ((script settings program).made.take i)) := by
  rw [run_eq_map]
  change List.map _ _ = List.map _ (List.map _ _)
  rw [List.map_map, Note.map_comp_map]
  refine recorded_notes_map settings program fun made hmade => ?_
  exact congrArg (sink.enter table) (List.prefix_iff_eq_take.1 hmade)

theorem run_moments (sink : Sink τ η) (table : τ) :
    moments table (Program.run settings sink table program).notes
        (Program.run settings sink table program).table =
      (moments [] (recorded settings program).notes (recorded settings program).table).map
        (sink.enter table) := by
  rw [run_eq_map]
  exact moments_map (sink.enter table) [] _ _

theorem script_performed (sink : Sink τ η) (table : τ) :
    (script settings program).Performed sink
      (fun i => sink.enter table ((script settings program).made.take i))
      (Program.run settings sink table program) where
  outcome := by
    rw [run_eq_map]
    rfl
  step i h := by
    rw [List.take_succ_eq_append_getElem h, Sink.enter_concat]
  last := by
    rw [run_eq_map, List.take_length]
    rfl
  notes := run_notes settings program sink table

theorem script_appended (resolve : Descriptor → RouteTable → Dispatch) (table : RouteTable) :
    (script settings program).Appended resolve table
      (table.additions resolve (script settings program).made)
      (Program.run settings (RouteTable.sinkWith resolve) table program) where
  length := RouteTable.length_additions resolve table _
  performed := by
    have hperformed := script_performed settings program (RouteTable.sinkWith resolve) table
    simp only [RouteTable.enter_eq_additions, RouteTable.additions_take] at hperformed
    exact hperformed
  route i h h' := RouteTable.additions_getElem resolve table _ i h h'
  last := by
    rw [run_eq_map]
    exact RouteTable.enter_eq_additions resolve table _
  grows := by
    rw [run_moments, List.pairwise_map]
    refine (recorded_pairwise settings program).imp fun {earlier later} hprefix => ?_
    obtain ⟨more, rfl⟩ := hprefix
    rw [Sink.enter_append, RouteTable.enter_eq_additions _ (Sink.enter _ table earlier)]
    exact List.prefix_append _ _

/-- A program has one script, whatever table it is run on and however handlers are made. The
moments of its journal count up, and a route table only grows from each to the next. -/
theorem run_follows_script :
    (moments 0 (script settings program).notes (script settings program).made.length).Pairwise
        (· ≤ ·) ∧
      (∀ {τ η : Type} (sink : Sink τ η) (table : τ), ∃ stage : Nat → τ, stage 0 = table ∧
        (script settings program).Performed sink stage
          (Program.run settings sink table program)) ∧
      ∀ (resolve : Descriptor → RouteTable → Dispatch) (table : RouteTable),
        ∃ news : List Route, (script settings program).Appended resolve table news
          (Program.run settings (RouteTable.sinkWith resolve) table program) := by
  refine ⟨script_pairwise settings program, ?_, ?_⟩
  · intro τ η sink table
    exact ⟨_, rfl, script_performed settings program sink table⟩
  · intro resolve table
    exact ⟨_, script_appended settings program resolve table⟩

end Program
end RoutePlan
