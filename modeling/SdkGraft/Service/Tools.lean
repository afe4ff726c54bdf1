import SdkGraft.Install.Rendering
import SdkGraft.CommandLine.Run

/-!
# Tools for assistants

* `ToolCall` : what a tool is asked; `ToolCall.parse` : its arguments read;
* `Tree.callTool` : the answer of a tool.
-/

namespace SdkGraft.Service

open Install

/-- What a tool is asked. Without a root, the working directory is meant. -/
inductive ToolCall where
  | install (clientId clientSecret : Value) (root : Option Text) (dryRun : Value)
  | detect (root : Option Text)
  | health

def known (names : List Text) (args : Table) : Bool := args.all fun e => names.contains e.1

/-- The root; what counts as not given is none. -/
def root? (args : Table) : Except Fault (Option Text) :=
  match (args.get? "root".toList).getD .null with
  | .text t => .ok (if t.isEmpty then none else some t)
  | v => if v.isSet then .error .mistyped else .ok none

def installCall (args : Table) : Except Fault ToolCall :=
  if known ["client_id".toList, "client_secret".toList, "root".toList, "dry_run".toList] args then
    match args.get? "client_id".toList, args.get? "client_secret".toList with
    | some id, some secret => do
      return .install id secret (← root? args) ((args.get? "dry_run".toList).getD (.bool false))
    | _, _ => .error .mistyped
  else .error .mistyped

/-- The tool of that name with its arguments; `none` if there is none. -/
def ToolCall.parse (name : Text) (args : Table) : Option (Except Fault ToolCall) :=
  if name = "install_plengi_sdk".toList then some (installCall args)
  else if name = "detect_plengi_entry_point".toList then
    some (if known ["root".toList] args then (root? args).map .detect else .error .mistyped)
  else if name = "health_check".toList then
    some (if args.isEmpty then .ok .health else .error .mistyped)
  else none

/-- An error as an answer. -/
def errorAnswer (type message : Text) : Table :=
  [("status".toList, .text (statusWord false)), ("error_type".toList, .text type),
    ("message".toList, .text message)]

/-- A refused configuration as an answer. -/
def configAnswer (p : ConfigProblem) : Table := errorAnswer "config_error".toList p.message

/-- The name of an outcome as a type of error. -/
def errorType (o : InstallOutcome) : Text := o.name.map fun c => if c = '-' then '_' else c

def installAnswer (r : Report) : Table :=
  [("status".toList, .text (statusWord r.outcome.isSuccess)),
    ("outcome".toList, .text r.outcome.name), ("message".toList, .text r.message),
    ("file".toList, .ofText? r.file), ("kind".toList, .ofText? (r.kind.map Source.EntryKind.name)),
    ("dry_run".toList, .bool r.dryRun), ("steps".toList, eventsValue r.steps)]
    ++ (if r.outcome.isSuccess then [] else [("error_type".toList, .text (errorType r.outcome))])
    ++ (match r.diff with
      | some diff => if diff.isEmpty then [] else [("diff".toList, .text diff)]
      | none => [])

def detectAnswer (d : Detection) : Table :=
  ("status".toList, .text (statusWord (d.file.any fun f => !f.path.isEmpty))) :: d.fields

def healthAnswer (s : Settings) : Except Fault Table := do
  let delegateFile ← s.delegateFile
  let marker ← s.rootMarker
  return [("status".toList, .text "healthy".toList), ("version".toList, .text versionNumber),
    ("sdk_module".toList, .text s.moduleName), ("init_call".toList, .text s.initCall),
    ("delegate_file".toList, .text delegateFile), ("root_marker".toList, .text marker)]

def degradedAnswer (p : ConfigProblem) : Table :=
  [("status".toList, .text "degraded".toList), ("version".toList, .text versionNumber),
    ("message".toList, .text p.message)]

end SdkGraft.Service

namespace SdkGraft.Tree

open Service Install

def answerDetect (t : Tree) (around : Surroundings) (root : Option Text) : Except Fault Table :=
  match t.detectHere around (t.meantRoot root) with
  | .ok d => .ok (detectAnswer d)
  | .error (.config p) => .ok (configAnswer p)
  | .error (.document e) => .ok (errorAnswer "io_error".toList e.message)
  | .error f => .error f

def answerInstall (done : Except Fault Report) : Except Fault Table :=
  match done with
  | .ok r => .ok (installAnswer r)
  | .error (.config p) => .ok (configAnswer p)
  | .error f => .error f

def answerHealth (t : Tree) (around : Surroundings) : Except Fault Table :=
  match t.settings around .null with
  | .ok s => healthAnswer s
  | .error (.config p) => .ok (degradedAnswer p)
  | .error f => .error f

def callTool (t : Tree) (mishaps : Mishaps) (around : Surroundings) :
    ToolCall → Tree × Except Fault Table
  | .health => (t, t.answerHealth around)
  | .detect root => (t, t.answerDetect around root)
  | .install clientId clientSecret root dryRun =>
    let done := t.installHere mishaps around
      ⟨.text (t.meantRoot root), clientId, clientSecret, dryRun⟩
    (done.1, answerInstall done.2)

end SdkGraft.Tree
