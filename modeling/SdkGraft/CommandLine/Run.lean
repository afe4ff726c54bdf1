import SdkGraft.CommandLine.Command
import SdkGraft.Console.Machine
import SdkGraft.Console.Table
import SdkGraft.Install.Rendering
import SdkGraft.Settings.Discovery
import SdkGraft.Value.Compact

/-!
# The command line program

* `Ending` : the exit code of a run, what it printed, and what it died of;
* `Mode` : output for machines or for people;
* `Tree.runCommand` : a command line carried out on a tree.
-/

namespace SdkGraft.CommandLine

open Console Install

/-- What a run can die of. -/
inductive Death where
  | fault (f : Fault)
  /-- A text for people cannot be shown. -/
  | markup (t : Trouble)

structure Ending where
  exit : Nat
  printed : Text
  death : Option Death

def Ending.exited (exit : Nat) (printed : Text) : Ending := ⟨exit, printed, none⟩

def Ending.died (death : Death) : Ending := ⟨1, [], some death⟩

/-- A run that printed a text for people, unless the text cannot be shown. -/
def Ending.shown (exit : Nat) (printed : Except Trouble Text) : Ending :=
  match printed with
  | .ok printed => .exited exit printed
  | .error t => .died (.markup t)

def Refusal.ending : Refusal → Ending
  | .usage => .exited 2 []
  | .help => .exited 0 []
  | .noClientId => .exited 1 "Client ID: ".toList
  | .noClientSecret => .exited 1 "Client secret: \n\n".toList

structure Mode where
  human : Bool
  json : Bool

def wantsHuman (around : Surroundings) : Bool :=
  ["1".toList, "true".toList, "yes".toList].contains (around.humanMode.map Char.toLower)

def jsonLine (fields : Table) : Text := (Value.table fields).compact ++ ['\n']

def coloured (colour text : Text) : Text :=
  '[' :: colour ++ ']' :: escape text ++ "[/".toList ++ colour ++ [']']

def colouredLine (colour text : Text) : Except Trouble Text :=
  humanPrint [.text (coloured colour text)]

def Mode.error (m : Mode) (exit : Nat) (fields : Table) (human : Text) : Ending :=
  if m.human && !m.json then .shown exit (colouredLine "red".toList human)
  else .exited exit (jsonLine fields)

def Mode.configError (m : Mode) (root : Text) (p : ConfigProblem) : Ending :=
  m.error 2 (structuredError (.text "CONFIG_ERROR".toList) (.text p.message) (.text root)
      (.text "Fix plengi.toml".toList))
    ("Configuration error: ".toList ++ p.message)

def Mode.documentError (m : Mode) (root : Text) (e : DocumentError) : Ending :=
  m.error 1 (structuredError (.text "IO_ERROR".toList) (.text e.message) (.text root) .null) e.message

/-! ## Installing -/

/-- The steps of an installation as a table. -/
def stepsTable (events : List Event) : Except Trouble Text := do
  let rows ← events.mapM fun e => do
    return [.plain e.step.name, .plain e.state.name, ← Console.shown (e.detail.getD [])]
  Grid.draw ⟨"Plengi SDK setup".toList,
    ["Step", "State", "Detail"].map fun name => .plain name.toList, rows⟩

def humanReport (r : Report) : Except Trouble Text := do
  let table ← stepsTable r.steps
  let message ← colouredLine (if r.outcome.isSuccess then "green".toList else "red".toList) r.message
  let diff := r.diff.getD []
  return table ++ message ++ if diff.isEmpty then [] else plainPrint diff

def Mode.report (m : Mode) (r : Report) : Ending :=
  let exit := if r.outcome.isSuccess then 0 else 1
  if m.json then
    let status := Value.text (statusWord r.outcome.isSuccess)
    .exited exit (jsonLine (r.fields ++ [("status".toList, status)]))
  else if m.human then .shown exit (humanReport r)
  else .exited exit (machineLine r.message ++ withoutCodes (r.diff.getD []))

def Mode.installed (m : Mode) (root : Text) (done : Except Fault Report) : Ending :=
  match done with
  | .ok r => m.report r
  | .error (.config p) => m.configError root p
  | .error f => .died (.fault f)

/-! ## Looking -/

/-- A field of a detection as it is printed. -/
def fieldMarkup (e : Text × Value) : Text :=
  "[cyan]".toList ++ e.1 ++ "[/cyan]: ".toList ++ escape e.2.display

def Mode.fields (m : Mode) (fields : Table) : Except Trouble Text :=
  if m.human then (fields.mapM fun e => humanPrint [.text (fieldMarkup e)]).map List.flatten
  else .ok (machinePrint (fields.map fun e => .text (fieldMarkup e)))

def Mode.detection (m : Mode) (d : Detection) : Ending :=
  let exit := if d.file.isSome then 0 else 1
  if m.json then .exited exit (jsonLine d.fields) else .shown exit (m.fields d.fields)

def Mode.detected (m : Mode) (root : Text) (done : Except Fault Detection) : Ending :=
  match done with
  | .ok d => m.detection d
  | .error (.config p) => m.configError root p
  | .error (.document e) => m.documentError root e
  | .error f => .died (.fault f)

end SdkGraft.CommandLine

namespace SdkGraft.Tree

open CommandLine Install

def installHere (t : Tree) (mishaps : Mishaps) (around : Surroundings) (r : Request) :
    Tree × Except Fault Report :=
  match t.settings around .null with
  | .error f => (t, .error f)
  | .ok s => t.install mishaps s r

def detectHere (t : Tree) (around : Surroundings) (root : Text) : Except Fault Detection := do
  t.detect (← t.settings around .null) (some root)

/-- The root that is meant: the working directory if none was given. -/
def meantRoot (t : Tree) (root : Option Text) : Text :=
  match root with
  | some root => Path.tidy root
  | none => t.herePath

def carryOut (t : Tree) (mishaps : Mishaps) (around : Surroundings) (human : Bool) :
    Command → Tree × Ending
  | .version => (t, .exited 0 ("plengi-installer v".toList ++ versionNumber ++ ['\n']))
  | .detect root json =>
    let root := t.meantRoot root
    (t, Mode.detected ⟨human, json⟩ root (t.detectHere around root))
  | .install root clientId clientSecret dryRun json =>
    let root := t.meantRoot root
    let done := t.installHere mishaps around
      ⟨.text root, .text clientId, .text clientSecret, .bool dryRun⟩
    (done.1, Mode.installed ⟨human, json⟩ root done.2)

def runCommand (t : Tree) (mishaps : Mishaps) (around : Surroundings) (args : List Text) :
    Tree × Ending :=
  match Invocation.parse args with
  | .error refusal => (t, refusal.ending)
  | .ok i => t.carryOut mishaps around (i.human || wantsHuman around) i.command

end SdkGraft.Tree
