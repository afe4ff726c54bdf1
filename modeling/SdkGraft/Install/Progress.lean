import SdkGraft.Text.Basic

/-!
# Progress of an installation

* `Step` : the four steps in their order; `StepState` : pending, or finished one way or the other;
* `Progress` : how far each step has come, and what a listener has been told;
* `Progress.move` : a step finished; `Misstep` : why it cannot be;
* `Progress.snapshot` : all steps in order.
-/

namespace SdkGraft.Install

inductive Step where
  | credentials
  | project
  | entryPoint
  | insertion
  deriving DecidableEq, Repr

namespace Step

def all : List Step := [.credentials, .project, .entryPoint, .insertion]

def before (s : Step) : List Step := all.takeWhile (· != s)

def name : Step → Text
  | .credentials => "credentials".toList
  | .project => "project".toList
  | .entryPoint => "entry-point".toList
  | .insertion => "insertion".toList

def ofName? (name : Text) : Option Step := all.find? fun s => s.name == name

end Step

inductive StepState where
  | pending
  | success
  | failed
  deriving DecidableEq, Repr

def StepState.name : StepState → Text
  | .pending => "pending".toList
  | .success => "success".toList
  | .failed => "failed".toList

structure Event where
  step : Step
  state : StepState
  detail : Option Text
  deriving DecidableEq, Repr

structure Progress where
  states : Step → StepState
  details : Step → Option Text
  /-- What the listener has been told, oldest first. -/
  told : List Event

/-- Why a step cannot be finished. -/
inductive Misstep where
  /-- The step is finished already. -/
  | already (step : Step) (state : StepState)
  /-- A step before it has not succeeded. -/
  | tooEarly (step earlier : Step)
  deriving DecidableEq, Repr

def Misstep.message : Misstep → Text
  | .already step state => "Step '".toList ++ step.name ++ "' already ".toList ++ state.name
  | .tooEarly step earlier =>
    "Step '".toList ++ step.name ++ "' cannot finish before '".toList ++ earlier.name
      ++ "' succeeded".toList

namespace Progress

def start : Progress := ⟨fun _ => .pending, fun _ => none, []⟩

def event (p : Progress) (s : Step) : Event := ⟨s, p.states s, p.details s⟩

def snapshot (p : Progress) : List Event := Step.all.map p.event

def record (p : Progress) (e : Event) : Progress where
  states s := if s = e.step then e.state else p.states s
  details s := if s = e.step then e.detail else p.details s
  told := p.told ++ [e]

/-- A step moved to a state: a step is moved once, after all before it have succeeded. -/
def move (p : Progress) (e : Event) : Except Misstep Progress :=
  if p.states e.step = .pending then
    match e.step.before.find? fun s => p.states s != .success with
    | some earlier => .error (.tooEarly e.step earlier)
    | none => .ok (p.record e)
  else .error (.already e.step (p.states e.step))

def succeed (p : Progress) (s : Step) (detail : Option Text) : Except Misstep Progress :=
  p.move ⟨s, .success, detail⟩

def fail (p : Progress) (s : Step) (detail : Option Text) : Except Misstep Progress :=
  p.move ⟨s, .failed, detail⟩

end Progress

end SdkGraft.Install
