import SdkGraft.Install.Progress
import SdkGraft.Install.Locate
import SdkGraft.Install.Mutation

/-!
# Installing the library into a project

* `Request` : what is asked for; `InstallOutcome`, `Report` : how it ended;
* `Tree.prepare` : the three steps that only look: the credentials, the project, the entry point;
* `Tree.complete` : the step that edits; `Tree.install` : all four.
-/

namespace SdkGraft.Install

open Source (EntryKind)

structure Request where
  root : Value
  clientId : Value
  clientSecret : Value
  /-- Nothing is to be written, if this is set. -/
  dryRun : Value

inductive InstallOutcome where
  | inserted
  | alreadyPresent
  | noAnchor
  | notAProject
  | noEntryPoint
  | noWorkspace
  | invalidCredentials
  | ioError
  deriving DecidableEq, Repr

namespace InstallOutcome

def name : InstallOutcome → Text
  | .inserted => "inserted".toList
  | .alreadyPresent => "already-present".toList
  | .noAnchor => "no-anchor".toList
  | .notAProject => "not-a-project".toList
  | .noEntryPoint => "no-entry-point".toList
  | .noWorkspace => "no-workspace".toList
  | .invalidCredentials => "invalid-credentials".toList
  | .ioError => "io-error".toList

/-- The library is in the project afterwards. -/
def isSuccess (o : InstallOutcome) : Bool := o == .inserted || o == .alreadyPresent

/-- The outcome of an installation whose edit came to that. -/
def ofEdit : Source.Outcome → InstallOutcome
  | .inserted => .inserted
  | .alreadyPresent => .alreadyPresent
  | .noAnchor => .noAnchor

end InstallOutcome

structure Report where
  outcome : InstallOutcome
  message : Text
  /-- The root as it was given; empty if none was. -/
  root : Text
  file : Option Text
  kind : Option EntryKind
  dryRun : Bool
  steps : List Event
  diff : Option Text
  /-- What the listener was told on the way. -/
  told : List Event
  deriving DecidableEq, Repr

/-- An installation after the steps that only look. -/
inductive Prepared where
  | ended (report : Report)
  | ready (progress : Progress) (credentials : Credentials) (file : EntryFile)

namespace Request

/-- The root as reports tell it. -/
def rootText (r : Request) : Text :=
  match r.root with
  | .null => []
  | v => v.display

/-- The report of an installation that ended with its steps as they are. What was given for a dry
run has to stand for a truth value, however the installation ended. -/
def report (r : Request) (p : Progress) (outcome : InstallOutcome) (message : Text)
    (file : Option EntryFile) (diff : Option Text) : Except Fault Report :=
  match r.dryRun.flag? with
  | none => .error .noFlag
  | some dryRun => .ok {
    outcome := outcome
    message := message
    root := r.rootText
    file := file.map EntryFile.path
    kind := file.map EntryFile.kind
    dryRun := dryRun
    steps := p.snapshot
    diff := diff
    told := p.told }

def passed (p : Progress) (s : Step) (detail : Option Text) : Except Fault Progress :=
  (p.succeed s detail).mapError .misstep

def failed (r : Request) (p : Progress) (s : Step) (outcome : InstallOutcome) (message : Text)
    (file : Option EntryFile) : Except Fault Report :=
  match p.fail s (some message) with
  | .error m => .error (.misstep m)
  | .ok p => r.report p outcome message file none

end Request

def editMessage (path : Text) : Source.Outcome → Text
  | .inserted => "SDK initialization code inserted into ".toList ++ path ++ ['.']
  | .alreadyPresent => "SDK initialization code already exists in ".toList ++ path ++ ['.']
  | .noAnchor => "Could not find a suitable location to insert the code in ".toList ++ path ++ ['.']

def entryDetail (file : EntryFile) : Text :=
  file.path ++ " (".toList ++ file.kind.name ++ [')']

def Request.edited (r : Request) (p : Progress) (file : EntryFile) (m : Mutation) :
    Except Fault Report :=
  let message := editMessage file.path m.outcome
  if m.outcome = .noAnchor then r.failed p .insertion .noAnchor message (some file)
  else do
    let p ← Request.passed p .insertion (some message)
    r.report p (.ofEdit m.outcome) message (some file) m.diff

end SdkGraft.Install

namespace SdkGraft.Tree

open Install

/-- The file to edit in a directory known to be a project, if there is one. -/
def prepareEntry (t : Tree) (s : Settings) (r : Request) (p : Progress) (c : Credentials)
    (root : Text) : Except Fault Prepared := do
  match ← t.locate s root with
  | .missing delegateFile marker =>
    let message := missingMessage delegateFile marker ++ ['.']
    return .ended (← r.failed p .entryPoint .noEntryPoint message none)
  | .found file => return .ready (← Request.passed p .entryPoint (some (entryDetail file))) c file

/-- The directory to work in, if it is a project, and the file to edit. -/
def prepareProject (t : Tree) (s : Settings) (r : Request) (p : Progress) (c : Credentials) :
    Except Fault Prepared := do
  match ← t.workspaceAt? r.root with
  | none => return .ended (← r.failed p .project .noWorkspace (noWorkspaceMessage ++ ['.']) none)
  | some root =>
    if ← t.isProject s root then
      t.prepareEntry s r (← Request.passed p .project (some root)) c root
    else return .ended (← r.failed p .project .notAProject (noProjectMessage root ++ ['.']) none)

/-- The steps that only look. Credentials that cannot be inserted end the installation first. -/
def prepare (t : Tree) (s : Settings) (r : Request) : Except Fault Prepared :=
  match Credentials.validate r.clientId r.clientSecret with
  | .error e => (r.failed .start .credentials .invalidCredentials e.message none).map .ended
  | .ok c => do t.prepareProject s r (← Request.passed .start .credentials none) c

/-- The step that edits. A file that cannot be read or written fails it. -/
def complete (t : Tree) (mishaps : Mishaps) (s : Settings) (r : Request) (p : Progress)
    (c : Credentials) (file : EntryFile) : Tree × Except Fault Report :=
  match s.editor with
  | .error f => (t, .error f)
  | .ok e =>
    match t.mutate mishaps e file.path (some file.kind) c r.dryRun.isSet with
    | (t, .ok m) => (t, r.edited p file m)
    | (t, .error (.document d)) => (t, r.failed p .insertion .ioError d.message (some file))
    | (t, .error f) => (t, .error f)

def install (t : Tree) (mishaps : Mishaps) (s : Settings) (r : Request) : Tree × Except Fault Report :=
  match t.prepare s r with
  | .error f => (t, .error f)
  | .ok (.ended report) => (t, .ok report)
  | .ok (.ready p c file) => t.complete mishaps s r p c file

end SdkGraft.Tree
