import SdkGraft.CommandLine.Options

/-!
# Commands

* `Command`, `Invocation` : what a command line asks for;
* `Refusal` : why it asks for nothing that can be done;
* `Invocation.parse` : the command line read.
-/

namespace SdkGraft.CommandLine

/-- What can be asked for. Without a root, the working directory is meant. -/
inductive Command where
  | install (root : Option Text) (clientId clientSecret : Text) (dryRun json : Bool)
  | detect (root : Option Text) (json : Bool)
  | version
  deriving DecidableEq, Repr

structure Invocation where
  human : Bool
  command : Command
  deriving DecidableEq, Repr

inductive Refusal where
  /-- The command line breaks the rules. -/
  | usage
  /-- Only an explanation is asked for. -/
  | help
  /-- The client's identifier is missing, and nobody is there to ask. -/
  | noClientId
  /-- The client's secret is missing, and nobody is there to ask. -/
  | noClientSecret
  deriving DecidableEq, Repr

def helpOption : OptionSpec := ⟨"help".toList, none, false⟩

def globalOptions : List OptionSpec :=
  [⟨"human".toList, some 'H', false⟩, ⟨"verbose".toList, some 'v', false⟩, helpOption]

def jsonOption : OptionSpec := ⟨"json".toList, none, false⟩

def installOptions : List OptionSpec :=
  [⟨"client-id".toList, some 'i', true⟩, ⟨"client-secret".toList, some 's', true⟩,
    ⟨"dry-run".toList, none, false⟩, jsonOption, helpOption]

/-- The arguments of a command told apart; an explanation asked for comes before all else. -/
def scanCommand (specs : List OptionSpec) (args : List Text) : Except Refusal Scanned :=
  match scan specs true .empty args with
  | none => .error .usage
  | some s => if s.has "help".toList then .error .help else .ok s

/-- The arguments, unless the first position cannot be a path: a null character stands in it. -/
def pathLike (s : Scanned) : Except Refusal Scanned :=
  if s.positions.head?.any (·.contains '\x00') then .error .usage else .ok s

/-- The root, if at most one position was given. -/
def rootOf (s : Scanned) : Except Refusal (Option Text) :=
  match s.positions with
  | [] => .ok none
  | [root] => .ok (some root)
  | _ => .error .usage

/-- An installation. Credentials are asked for after the root has been looked at, and before
positions are counted. -/
def installCommand (args : List Text) : Except Refusal Command := do
  let s ← pathLike (← scanCommand installOptions args)
  match s.last? "client-id".toList, s.last? "client-secret".toList with
  | none, _ => .error .noClientId
  | some _, none => .error .noClientSecret
  | some id, some secret =>
    return .install (← rootOf s) id secret (s.has "dry-run".toList) (s.has "json".toList)

/-- A look without editing. -/
def detectCommand (args : List Text) : Except Refusal Command := do
  let s ← pathLike (← scanCommand [jsonOption, helpOption] args)
  return .detect (← rootOf s) (s.has "json".toList)

def versionCommand (args : List Text) : Except Refusal Command := do
  let s ← scanCommand [helpOption] args
  if s.positions.isEmpty then return .version else .error .usage

def Command.parse (name : Text) (args : List Text) : Except Refusal Command :=
  if name = "install".toList then installCommand args
  else if name = "detect".toList then detectCommand args
  else if name = "version".toList then versionCommand args
  else .error .usage

def Invocation.parse (args : List Text) : Except Refusal Invocation := do
  match scan globalOptions false .empty args with
  | none => .error .usage
  | some s =>
    if s.has "help".toList then .error .help
    else
      match s.positions with
      | [] => .error .usage
      | name :: rest => return ⟨s.has "human".toList, ← Command.parse name rest⟩

end SdkGraft.CommandLine
