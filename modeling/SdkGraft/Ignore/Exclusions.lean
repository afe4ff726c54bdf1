import SdkGraft.Ignore.Pattern
import SdkGraft.Text.Blank
import SdkGraft.Value.Display

/-!
# Directories left out of a walk

* `ExclusionProblem` : what can be wrong with the lists of exclusions, with its wording;
* `checkSkipDirs`, `checkSuffixes` : the two lists as texts;
* `exclusionPatterns` : a pattern for each name and each suffix;
* `exclusions` : the patterns ready to match.
-/

namespace SdkGraft.Ignore

inductive ExclusionProblem where
  | skipDirsNotList
  | skipDirNotText (v : Value)
  | skipDirBlank
  | suffixesNotList
  | suffixNotText (v : Value)
  | suffixWithoutDot (suffix : Text)
  | suffixTooShort (suffix : Text)

def ExclusionProblem.message : ExclusionProblem → Text
  | .skipDirsNotList => "Skip directories must be a list of strings".toList
  | .skipDirNotText v =>
    "Invalid skip directory: ".toList ++ v.display ++ " (must be a string)".toList
  | .skipDirBlank => "Skip directories cannot be empty or whitespace-only".toList
  | .suffixesNotList => "Bundle suffixes must be a list of strings".toList
  | .suffixNotText v =>
    "Invalid bundle suffix: ".toList ++ v.display ++ " (must be a string)".toList
  | .suffixWithoutDot suffix =>
    "Bundle suffix '".toList ++ suffix ++ "' must start with a dot (e.g., '.xcodeproj')".toList
  | .suffixTooShort suffix =>
    "Bundle suffix '".toList ++ suffix ++ "' is too short (minimum: 2 characters)".toList

/-- A directory name: any text but a blank one. -/
def checkSkipDir : Value → Except ExclusionProblem Text
  | .text t => if Text.isAllBlank t then .error .skipDirBlank else .ok t
  | v => .error (.skipDirNotText v)

def checkSkipDirs : Value → Except ExclusionProblem (List Text)
  | .list items => items.mapM checkSkipDir
  | _ => .error .skipDirsNotList

/-- The ending of a bundle's name: a dot and something behind it. -/
def checkSuffix : Value → Except ExclusionProblem Text
  | .text t =>
    if t.head? != some '.' then .error (.suffixWithoutDot t)
    else if t.length < 2 then .error (.suffixTooShort t)
    else .ok t
  | v => .error (.suffixNotText v)

def checkSuffixes : Value → Except ExclusionProblem (List Text)
  | .list items => items.mapM checkSuffix
  | _ => .error .suffixesNotList

/-- The text without the slashes at either end. -/
def trimSlashes (t : Text) : Text :=
  ((t.dropWhile (· == '/')).reverse.dropWhile (· == '/')).reverse

def skipDirPattern (name : Text) : Text := trimSlashes name ++ ['/']

def suffixPattern (suffix : Text) : Text := '*' :: suffix ++ ['/']

/-- The patterns of what is left out: the names first. -/
def exclusionPatterns (skipDirs suffixes : Value) : Except ExclusionProblem (List Text) := do
  let names ← checkSkipDirs skipDirs
  let endings ← checkSuffixes suffixes
  return names.map skipDirPattern ++ endings.map suffixPattern

inductive ExclusionFault where
  | problem (p : ExclusionProblem)
  | pattern (p : PatternFault)

def exclusions (skipDirs suffixes : Value) : Except ExclusionFault Spec :=
  match exclusionPatterns skipDirs suffixes with
  | .error p => .error (.problem p)
  | .ok lines => (Spec.parse lines).mapError .pattern

end SdkGraft.Ignore
