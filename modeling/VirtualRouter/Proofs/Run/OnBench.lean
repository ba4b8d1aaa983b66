import VirtualRouter.Bench.Trial
import VirtualRouter.Proofs.Run.History

/-! Runs among the collaborators of a bench. A bench is told of every call, so that what it has come to is a function of
    the calls of the history. Some of the collaborators of a run can be those of the bench, and the others any. -/

namespace VirtualRouter

variable {config : Config} {observed : Bool} {history past : History} {x : Entry} {b : Bench}
  {part : Answers → Bench → Prop}

/-- The calls made on the events of a history, those of the latest event first. -/
def History.calls (history : History) : List Call := history.flatMap Entry.calls

/-- The bench after a history. -/
def History.bench (initially : Bench) : History → Bench
  | [] => initially
  | x :: past => x.calls.foldl Bench.after (History.bench initially past)

/-- On every event the answers were partly those of the bench. -/
def History.On (part : Answers → Bench → Prop) (b : Bench) : History → Prop
  | [] => True
  | x :: past => part x.answers (History.bench b past) ∧ History.On part b past

/-- The switch is the one of the bench. -/
structure Answers.SwitchOf (a : Answers) (b : Bench) : Prop where
  addRule : a.addRule = b.answers.addRule
  sendPacket : a.sendPacket = b.answers.sendPacket
  freeBuffer : a.freeBuffer = b.answers.freeBuffer

/-- The simulation is the one of the bench. -/
structure Answers.EngineOf (a : Answers) (b : Bench) : Prop where
  process : a.process = b.answers.process
  freeFlow : a.freeFlow = b.answers.freeFlow
  addPort : a.addPort = b.answers.addPort
  removePort : a.removePort = b.answers.removePort

namespace Bench

theorem switch_foldl (calls : List Call) (b : Bench) :
    (calls.foldl Bench.after b).switch = calls.foldl Switch.after b.switch := by
  induction calls generalizing b with
  | nil => rfl
  | cons call calls ih => exact ih _

theorem engine_foldl (calls : List Call) (b : Bench) :
    (calls.foldl Bench.after b).engine = calls.foldl Engine.after b.engine := by
  induction calls generalizing b with
  | nil => rfl
  | cons call calls ih => exact ih _

end Bench

/-! ### Trials -/

/-- Tells a controller events in turn among the collaborators of a bench. -/
def Bench.trial (b : Bench) (s : History × Controller) : List Event → History × Controller
  | [] => s
  | e :: rest => b.trial (⟨s.2, (s.1.bench b).answers, e⟩ :: s.1, (s.2.step (s.1.bench b).answers e).controller) rest

/-- It goes as a trial of the controller on the bench goes. -/
theorem Bench.trial_tell (b : Bench) (s : History × Controller) (events : List Event) :
    events.foldl (fun (t : ControllerTrial) e => (t.tell e).1) ⟨s.2, s.1.bench b⟩ =
      ⟨(b.trial s events).2, (b.trial s events).1.bench b⟩ := by
  induction events generalizing s with
  | nil => rfl
  | cons e events ih => exact ih (⟨s.2, (s.1.bench b).answers, e⟩ :: s.1, (s.2.step (s.1.bench b).answers e).controller)

theorem Run.trial {s : History × Controller} (run : Run config observed s.1 s.2) (b : Bench) (events : List Event) :
    Run config observed (b.trial s events).1 (b.trial s events).2 := by
  induction events generalizing s with
  | nil => exact run
  | cons e events ih => exact ih (s := (_ :: s.1, _)) (.handle _ e run)

/-- All the collaborators are those of the bench. -/
theorem History.On.trial {s : History × Controller} (on : s.1.On part b) (own : ∀ b : Bench, part b.answers b)
    (events : List Event) : (b.trial s events).1.On part b := by
  induction events generalizing s with
  | nil => exact on
  | cons e events ih => exact ih (s := (_ :: s.1, _)) ⟨own _, on⟩

/-- A switch that counts, a topology without routes, and a policy that leaves matches as they are. -/
def Sample.standalone : Bench := { switch := .counting {}, engine := .bare {} }

end VirtualRouter
