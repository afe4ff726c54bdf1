import SdkGraft.Install.Run
import SdkGraft.Install.Detect

/-!
# Reports as values

* `Event.value`, `Report.fields`, `Detection.fields` : reports as tables, for machines to read;
* `structuredError` : an error as a table.
-/

namespace SdkGraft

def Value.ofText? (t : Option Text) : Value :=
  match t with
  | some t => .text t
  | none => .null

def Install.Event.value (e : Install.Event) : Value :=
  .table [("step".toList, .text e.step.name), ("state".toList, .text e.state.name),
    ("detail".toList, .ofText? e.detail)]

def Install.eventsValue (events : List Install.Event) : Value := .list (events.map Install.Event.value)

def Install.Report.fields (r : Install.Report) : Table :=
  [("outcome".toList, .text r.outcome.name), ("message".toList, .text r.message),
    ("root".toList, .text r.root), ("file_path".toList, .ofText? r.file),
    ("kind".toList, .ofText? (r.kind.map Source.EntryKind.name)), ("dry_run".toList, .bool r.dryRun),
    ("steps".toList, Install.eventsValue r.steps), ("diff".toList, .ofText? r.diff)]

def Detection.fields (d : Detection) : Table :=
  [("root".toList, .text d.root), ("workspace".toList, .bool d.workspace),
    ("project".toList, .bool d.project), ("file".toList, .ofText? (d.file.map EntryFile.path)),
    ("kind".toList, .ofText? (d.file.map fun f => f.kind.name)),
    ("anchor_line".toList, match d.anchorLine with | some n => .int n | none => .null),
    ("has_constructor".toList, .bool d.hasConstructor), ("installed".toList, .bool d.installed)]

def statusWord (ok : Bool) : Text := if ok then "ok".toList else "error".toList

/-- An error for machines. What caused it and how to mend it are told if they are set. -/
def structuredError (code message input fix : Value) : Table :=
  [("status".toList, .text "error".toList), ("code".toList, code), ("message".toList, message)]
    ++ (if input.isSet then [("input".toList, input)] else [])
    ++ (if fix.isSet then [("actionable_fix".toList, fix)] else [])

def versionNumber : Text := "0.3.0".toList

end SdkGraft
