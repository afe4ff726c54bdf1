import SdkGraft.Ignore.Exclusions
import SdkGraft.Tree.Basic
import SdkGraft.Install.Progress

/-!
# Faults

* `ConfigProblem` : what users can have got wrong in their configuration, with its wording;
* `DocumentError` : why a source file cannot be read or written, with its wording;
* `Fault` : everything that can keep a run from reaching its end.
-/

namespace SdkGraft

inductive ConfigProblem where
  /-- A file breaks the rules of its format. -/
  | malformed (path : Text)
  /-- A setting of a section has to be a text with something in it. -/
  | blank (section' key : Text)
  | suffixesNotList
  | suffixWithoutDot (suffix : Value)
  | skipDirs
  /-- The exclusions cannot be used by a walk. -/
  | exclusion (p : Ignore.ExclusionProblem)

/-- The wording of a problem. What breaks the format of a file is not told. -/
def ConfigProblem.message : ConfigProblem → Text
  | .malformed path => "Invalid TOML in ".toList ++ path ++ ": ".toList
  | .blank part key => part ++ '.' :: key ++ " must be a non-empty string".toList
  | .suffixesNotList => "project.bundle_suffixes must be a non-empty list of strings".toList
  | .suffixWithoutDot suffix =>
    "Bundle suffix '".toList ++ suffix.display ++ "' must start with a dot (e.g., '.xcodeproj')".toList
  | .skipDirs => "project.skip_dirs must be a list of non-empty strings".toList
  | .exclusion p => p.message

inductive DocumentOperation where
  | read
  | write
  deriving DecidableEq, Repr

def DocumentOperation.name : DocumentOperation → Text
  | .read => "read".toList
  | .write => "write".toList

inductive DocumentCause where
  | file (e : PathError)
  | undecodable (f : DecodeFault)
  deriving DecidableEq, Repr

structure DocumentError where
  operation : DocumentOperation
  path : Text
  cause : DocumentCause
  deriving DecidableEq, Repr

def DocumentCause.message : DocumentCause → Text
  | .file e => e.message
  | .undecodable f => f.message

def DocumentError.message (e : DocumentError) : Text :=
  "Failed to ".toList ++ e.operation.name ++ ' ' :: e.path ++ ": ".toList ++ e.cause.message

/-- What can keep a run from reaching its end. -/
inductive Fault where
  /-- The configuration is refused, and the user is told why. -/
  | config (problem : ConfigProblem)
  /-- A section of the settings, or the settings as a whole, are no table. -/
  | notATable
  /-- A setting that is needed is missing. -/
  | missing (key : Text)
  /-- A setting is of a kind that cannot be used. -/
  | mistyped
  /-- What was given for a flag stands for no truth value. -/
  | noFlag
  /-- A whole number has too many digits to be read or to stand in a text. -/
  | tooManyDigits
  /-- Values of a configuration stand in too many others. -/
  | tooDeep
  /-- An exclusion is no pattern. -/
  | pattern (fault : Ignore.PatternFault)
  /-- What is asked for at a path cannot be found out. -/
  | unreadable (e : FileError)
  | undecodable (f : DecodeFault)
  /-- A text holds what UTF-8 has no bytes for. -/
  | unencodable
  /-- A null character stands in a path. -/
  | nullInPath
  | document (e : DocumentError)
  /-- A step of an installation has been taken out of its order. -/
  | misstep (m : Install.Misstep)

/-- A fault in showing a value as one of a run. -/
def Value.ShowFault.fault : Value.ShowFault → Fault
  | .tooManyDigits => .tooManyDigits
  | .tooDeep => .tooDeep

theorem Value.ShowFault.fault_ne_config (f : ShowFault) (p : ConfigProblem) : f.fault ≠ .config p := by
  cases f <;> exact fun h => by cases h

theorem Value.ShowFault.fault_ne_misstep (f : ShowFault) (m : Install.Misstep) : f.fault ≠ .misstep m := by
  cases f <;> exact fun h => by cases h

/-- A fault of the exclusions as one of a run. -/
def Ignore.ExclusionFault.fault : Ignore.ExclusionFault → Fault
  | .problem p => .config (.exclusion p)
  | .pattern f => .pattern f

end SdkGraft
