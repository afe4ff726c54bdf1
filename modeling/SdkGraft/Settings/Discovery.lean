import SdkGraft.Settings.Basic
import SdkGraft.Toml.Document

/-!
# Finding the configuration

* `Surroundings` : what the user has set around the program, and how much of the stack is left to it;
* `configPaths` : where a configuration may be, the first that is there counts;
* `Tree.configuration` : what the configuration says, if there is one;
* `Tree.settings` : the settings of a run;
* `configValue` : a single value of the configuration by its dotted name.
-/

namespace SdkGraft

/-- What the user has set around the program, and how much of the stack is left to it. -/
structure Surroundings where
  /-- Where the configuration is; empty means that nothing is said. -/
  configPath : Text
  /-- Whether output is for people. -/
  humanMode : Text
  stack : Stack

/-- Where a configuration may be: where the user says, in the working directory, in the home
directory. -/
def Tree.configPaths (t : Tree) (around : Surroundings) : List Text :=
  let named := if around.configPath.isEmpty then [] else [Path.tidy around.configPath]
  named ++ ["plengi.toml".toList,
    Path.under (Tree.pathOf t.home) [".config".toList, "plengi".toList, "config.toml".toList]]

/-- A refusal of the configuration file at a path as a fault of a run. -/
def Toml.Refusal.fault (path : Text) : Toml.Refusal → Fault
  | .malformed => .config (.malformed path)
  | .tooManyDigits => .tooManyDigits
  | .tooDeep => .tooDeep

def Tree.readConfiguration (t : Tree) (stack : Stack) (path : Text) : Except Fault Table :=
  match t.readFile path with
  | .error e => .error (.unreadable e)
  | .ok bytes =>
    match Utf8.decode bytes with
    | .error f => .error (.undecodable f)
    | .ok text =>
      (Toml.parse stack.reading text).mapError (Toml.Refusal.fault path)

def Tree.firstConfiguration (t : Tree) (stack : Stack) : List Text → Except Fault (Option Table)
  | [] => .ok none
  | path :: rest =>
    match t.find? path with
    | .ok (some _) => (t.readConfiguration stack path).map some
    | .ok none => t.firstConfiguration stack rest
    | .error e => .error (.unreadable e)

/-- What the configuration says, if there is one. -/
def Tree.configuration (t : Tree) (around : Surroundings) : Except Fault (Option Table) :=
  t.firstConfiguration around.stack (t.configPaths around)

/-- The settings of a run: the defaults, what the configuration says, what the caller says. -/
def Tree.settings (t : Tree) (around : Surroundings) (overrides : Value) : Except Fault Settings := do
  Settings.ofLayers around.stack (← t.configuration around) overrides

/-- The value that names lead to through tables. -/
def Value.atNames (v : Value) : List Text → Option Value
  | [] => some v
  | name :: rest =>
    match v with
    | .table fields => (Table.get? fields name).bind fun inner => inner.atNames rest
    | _ => none

/-- The value of the configuration at a dotted name, the default where there is none. -/
def configValue (configuration : Option Table) (key : Text) (default : Value) : Value :=
  match configuration with
  | none => default
  | some table => ((Value.table table).atNames (Text.splitAt '.' key)).getD default

end SdkGraft
