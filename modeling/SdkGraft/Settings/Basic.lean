import SdkGraft.Fault
import SdkGraft.Source.Graft

/-!
# Settings

* `Settings.defaults` : the settings that hold where nothing else is said;
* `Settings` : settings that have passed the checks;
* `Settings.check` : the checks, in their order;
* `Settings.ofLayers` : the defaults, what a file says and what a caller says, checked;
* `Settings.byDefault` : what comes of that where neither says anything;
* `Settings.plan`, `Settings.patterns`, `Settings.exclusions` : what the settings mean for a graft,
  for finding its place, and for a walk.
-/

namespace SdkGraft

/-- Settings that have passed the checks. -/
structure Settings where
  /-- All of them by name. -/
  table : Table
  /-- The section that names the library. -/
  sdk : Table
  moduleName : Text
  initCall : Text
  /-- The endings of the names of project bundles. -/
  bundleSuffixes : List Text
  /-- The names of directories that hold no sources. -/
  skipDirs : List Text
  /-- The section on entry points: every setting in it is a text. -/
  entryPoint : List (Text × Text)
  /-- The section on editing, in whatever shape it came. -/
  editing : Value
  /-- How deep a value may be that is written into code. -/
  showing : Nat

namespace Settings

/-- The settings where nothing else is said. -/
def defaults : Table :=
  [("sdk".toList, .table
      [("module".toList, .text "Plengi".toList),
        ("init_call".toList, .text "Plengi.initialize".toList),
        ("success_case".toList, .text ".SUCCESS".toList)]),
    ("project".toList, .table
      [("bundle_suffixes".toList,
          .list [.text ".xcodeproj".toList, .text ".xcworkspace".toList]),
        ("skip_dirs".toList, .list [.text ".git".toList, .text ".build".toList])]),
    ("entry_point".toList, .table
      [("delegate_file".toList, .text "AppDelegate.swift".toList),
        ("delegate_keyword".toList, .text "func application".toList),
        ("launch_options".toList, .text "didFinishLaunchingWithOptions".toList),
        ("root_marker".toList, .text "@main".toList),
        ("root_type_keyword".toList, .text "struct".toList),
        ("root_type_fragment".toList, .text "App".toList),
        ("source_suffix".toList, .text ".swift".toList)]),
    ("editing".toList, .table
      [("preserve_line_endings".toList, .bool true),
        ("default_indent".toList, .text "    ".toList)])]

/-! ## Checks -/

def section? (t : Table) (name : Text) : Except Fault Table :=
  match (t.get? name).bind Value.table? with
  | some fields => .ok fields
  | none => .error .notATable

def checkText (section' key : Text) : Option Value → Except Fault Text
  | some (.text t) => if Text.isAllBlank t then .error (.config (.blank section' key)) else .ok t
  | _ => .error (.config (.blank section' key))

/-- The ending of a bundle's name: a text that starts with a dot. -/
def checkSuffix (showing : Nat) : Value → Except Fault Text
  | .text t => if t.head? = some '.' then .ok t else .error (.config (.suffixWithoutDot (.text t)))
  | v =>
    match v.showFault? showing with
    | some f => .error f.fault
    | none => .error (.config (.suffixWithoutDot v))

/-- The endings of the names of bundles; there has to be one. -/
def checkSuffixes (showing : Nat) : Option Value → Except Fault (List Text)
  | some (.list (v :: vs)) => (v :: vs).mapM (checkSuffix showing)
  | _ => .error (.config .suffixesNotList)

def name? : Value → Option Text
  | .text t => if Text.isAllBlank t then none else some t
  | _ => none

def checkSkipDirs (v : Option Value) : Except Fault (List Text) :=
  match (v.bind Value.list?).bind fun items => items.mapM name? with
  | some names => .ok names
  | none => .error (.config .skipDirs)

def checkEntry (e : Text × Value) : Except Fault (Text × Text) :=
  (checkText "entry_point".toList e.1 (some e.2)).map (e.1, ·)

/-- The settings, if they pass the checks: first the library's names, then the endings of bundles,
the names of directories, and what is said on entry points. -/
def check (showing : Nat) (t : Table) : Except Fault Settings := do
  let sdk ← section? t "sdk".toList
  let moduleName ← checkText "sdk".toList "module".toList (sdk.get? "module".toList)
  let initCall ← checkText "sdk".toList "init_call".toList (sdk.get? "init_call".toList)
  let project ← section? t "project".toList
  let suffixes ← checkSuffixes showing (project.get? "bundle_suffixes".toList)
  let skipDirs ← checkSkipDirs (project.get? "skip_dirs".toList)
  let entries ← section? t "entry_point".toList
  let entryPoint ← entries.mapM checkEntry
  return {
    table := t
    sdk := sdk
    moduleName := moduleName
    initCall := initCall
    bundleSuffixes := suffixes
    skipDirs := skipDirs
    entryPoint := entryPoint
    editing := (t.get? "editing".toList).getD .null
    showing := showing }

/-- A value laid over a table, which is copied first. -/
def merged (copying : Nat) (base : Table) (override : Value) : Except Fault Table :=
  if copying < (Value.table base).depth then .error .tooDeep
  else
    match override with
    | .table fields => .ok (base.overlay fields)
    | _ => .error .notATable

/-- The defaults with what a file says and what a caller says laid over them; what counts as not given
changes nothing. -/
def layered (copying : Nat) (file : Option Table) (overrides : Value) : Except Fault Table := do
  let t ← merged copying defaults (.table (file.getD []))
  if overrides.isSet then merged copying t overrides else return t

/-- The layers, checked. -/
def ofLayers (stack : Stack) (file : Option Table) (overrides : Value) : Except Fault Settings := do
  check stack.showing (← layered stack.copying file overrides)

/-- The settings where nothing else is said, checked. -/
def byDefault : Settings where
  table := defaults
  sdk := [("module".toList, .text "Plengi".toList), ("init_call".toList, .text "Plengi.initialize".toList),
    ("success_case".toList, .text ".SUCCESS".toList)]
  moduleName := "Plengi".toList
  initCall := "Plengi.initialize".toList
  bundleSuffixes := [".xcodeproj".toList, ".xcworkspace".toList]
  skipDirs := [".git".toList, ".build".toList]
  entryPoint := [("delegate_file".toList, "AppDelegate.swift".toList),
    ("delegate_keyword".toList, "func application".toList),
    ("launch_options".toList, "didFinishLaunchingWithOptions".toList), ("root_marker".toList, "@main".toList),
    ("root_type_keyword".toList, "struct".toList), ("root_type_fragment".toList, "App".toList),
    ("source_suffix".toList, ".swift".toList)]
  editing := .table [("preserve_line_endings".toList, .bool true), ("default_indent".toList, .text "    ".toList)]
  showing := Stack.plenty.showing

theorem ofLayers_nothing : ofLayers .plenty none .null = .ok byDefault := by rfl

/-! ## What the settings mean -/

def entry (s : Settings) (key : Text) : Except Fault Text :=
  match s.entryPoint.lookup key with
  | some t => .ok t
  | none => .error (.missing key)

def delegateFile (s : Settings) : Except Fault Text := s.entry "delegate_file".toList

def rootMarker (s : Settings) : Except Fault Text := s.entry "root_marker".toList

def sourceSuffix (s : Settings) : Except Fault Text := s.entry "source_suffix".toList

def patterns (s : Settings) : Except Fault Source.EntryPatterns := do
  return {
    delegateKeyword := ← s.entry "delegate_keyword".toList
    launchOptions := ← s.entry "launch_options".toList
    rootMarker := ← s.rootMarker
    rootTypeKeyword := ← s.entry "root_type_keyword".toList
    rootTypeFragment := ← s.entry "root_type_fragment".toList }

/-- The names by which the inserted code calls the library, and what keeps them from being written. -/
def sdkNames (s : Settings) : Except Fault (Source.Sdk × Option Value.ShowFault) :=
  match s.sdk.get? "success_case".toList with
  | some v => .ok (⟨s.moduleName, s.initCall, v.display⟩, v.showFault? s.showing)
  | none => .error (.missing "success_case".toList)

def editingSetting (s : Settings) (key : Text) : Except Fault Value :=
  match s.editing with
  | .table fields =>
    match Table.get? fields key with
    | some v => .ok v
    | none => .error (.missing key)
  | _ => .error .mistyped

def plan (s : Settings) : Except Fault Source.Plan := do
  let (sdk, fault?) ← s.sdkNames
  let preserve ← s.editingSetting "preserve_line_endings".toList
  let indent ← s.editingSetting "default_indent".toList
  return ⟨sdk, fault?, preserve.isSet, indent.text?⟩

def exclusions (s : Settings) : Except Fault Ignore.Spec :=
  (Ignore.exclusions (.list (s.skipDirs.map .text)) (.list (s.bundleSuffixes.map .text))).mapError
    Ignore.ExclusionFault.fault

end Settings

end SdkGraft
