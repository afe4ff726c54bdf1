import SdkGraft.Text.Basic

/-!
# Options on a command line

* `OptionSpec` : an option by its names, and whether it takes a value;
* `readOption` : what one argument gives; `scan` : options and positions told apart;
* `Scanned.last?`, `Scanned.has` : what was given.
-/

namespace SdkGraft.CommandLine

structure OptionSpec where
  /-- The name behind two dashes. -/
  long : Text
  /-- The letter behind one dash. -/
  short : Option Char
  takesValue : Bool
  deriving DecidableEq, Repr

/-- Options in the order in which they were given, by their long names, flags with an empty value;
and what stands between them. -/
structure Scanned where
  options : List (Text × Text)
  positions : List Text
  deriving DecidableEq, Repr

def Scanned.empty : Scanned := ⟨[], []⟩

def Scanned.withOptions (s : Scanned) (more : List (Text × Text)) : Scanned :=
  { s with options := s.options ++ more }

def Scanned.withPositions (s : Scanned) (more : List Text) : Scanned :=
  { s with positions := s.positions ++ more }

def Scanned.last? (s : Scanned) (long : Text) : Option Text :=
  ((s.options.filter fun e => e.1 == long).getLast?).map Prod.snd

def Scanned.has (s : Scanned) (long : Text) : Bool := s.options.any fun e => e.1 == long

inductive Given where
  /-- Whole options. -/
  | options (found : List (Text × Text))
  /-- Options, the last of which takes the next argument as its value. -/
  | wanting (found : List (Text × Text)) (long : Text)
  deriving DecidableEq, Repr

/-- An option by its long name, with a value behind an equals sign or without; `none` if there is
no such option, or if it is a flag with a value. -/
def longOption? (specs : List OptionSpec) (name : Text) (value : Option Text) : Option Given :=
  match specs.find? fun o => o.long == name with
  | none => none
  | some o =>
    match o.takesValue, value with
    | true, some v => some (.options [(o.long, v)])
    | true, none => some (.wanting [] o.long)
    | false, none => some (.options [(o.long, [])])
    | false, some _ => none

/-- Options by their letters, several flags in one argument; what follows the letter of an option
with a value is that value. -/
def shortOptions? (specs : List OptionSpec) (found : List (Text × Text)) : Text → Option Given
  | [] => some (.options found)
  | c :: r =>
    match specs.find? fun o => o.short == some c with
    | none => none
    | some o =>
      if o.takesValue then
        if r.isEmpty then some (.wanting found o.long) else some (.options (found ++ [(o.long, r)]))
      else shortOptions? specs (found ++ [(o.long, [])]) r

def readOption (specs : List OptionSpec) (arg : Text) : Option Given :=
  match Text.dropStart? ['-', '-'] arg with
  | some body =>
    let name := body.takeWhile (· != '=')
    longOption? specs name (if body.contains '=' then some (body.drop (name.length + 1)) else none)
  | none => shortOptions? specs [] (arg.drop 1)

/-- An argument that is an option: a dash and something behind it. -/
def isOption (arg : Text) : Bool := arg.head? == some '-' && 1 < arg.length

/-- Options and positions told apart; `none` if an option is unknown or lacks its value. Two dashes
end the options; where positions may not stand among options, the first position ends them too. -/
def scan (specs : List OptionSpec) (mixed : Bool) (s : Scanned) : List Text → Option Scanned
  | [] => some s
  | arg :: rest =>
    if arg = ['-', '-'] then some (s.withPositions rest)
    else if isOption arg then
      match readOption specs arg with
      | none => none
      | some (.options found) => scan specs mixed (s.withOptions found) rest
      | some (.wanting found long) =>
        match rest with
        | [] => none
        | value :: rest => scan specs mixed (s.withOptions (found ++ [(long, value)])) rest
    else if mixed then scan specs mixed (s.withPositions [arg]) rest
    else some (s.withPositions (arg :: rest))

end SdkGraft.CommandLine
