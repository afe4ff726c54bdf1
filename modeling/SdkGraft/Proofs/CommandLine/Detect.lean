import SdkGraft.CommandLine.Run
import SdkGraft.Proofs.Bind
import SdkGraft.Proofs.Console.Verbatim
import SdkGraft.Proofs.Install.Stages

/-!
# What a look prints for machines

* `IsFieldName` : a name that is left as it is; `machineItem_fieldMarkup` : what is printed of a field (`plainLine`,
  `printedLine`);
* `faithfulLine` : what a reader of the report needs: the name and the value, but for blanks at the end;
* `printedLine_eq_faithfulLine`, `flatMap_printedLine_eq_iff` : a report is printed so if the values are verbatim, and
  only then;
* `isVerbatim_fields_iff` : of the fields of a detection only the root and the file may not be;
* `runCommand_detect` : what the program prints, and when it is the report.
-/

namespace SdkGraft.CommandLine

open Console

/-! ## One field -/

/-- The name of a field: it is left as it is in front of its value. -/
structure IsFieldName (name : Text) : Prop where
  starts : ∃ c r, name = c :: r ∧ isBlank c = false
  no_open : '[' ∉ name
  no_escape : escapeChar ∉ name

def labelled (name t : Text) : Text := name ++ ": ".toList ++ t

/-- A field as machines are shown it: its value is escaped, and what looks like a style is gone. -/
def plainLine (e : Text × Value) : Text := Text.trimEnd (labelled e.1 (withoutStyles (escape e.2.display)))

/-- A field as it is printed. -/
def printedLine (e : Text × Value) : Text := machineLine (plainLine e)

/-- A field as a report shows it: its name and its value, without the blanks at the end. -/
def faithfulLine (e : Text × Value) : Text := Text.trimEnd (labelled e.1 e.2.display) ++ ['\n']

variable {e : Text × Value} {c : Char}

theorem count_labelled (c : Char) (name t : Text) :
    (labelled name t).count c = name.count c + (": ".toList).count c + t.count c := by
  rw [labelled, List.count_append, List.count_append]

theorem count_line (hc : isBlank c = false) (name t : Text) :
    (Text.trimEnd (labelled name t) ++ ['\n']).count c = (labelled name t).count c + ['\n'].count c := by
  rw [List.count_append, Text.count_trimEnd hc]

theorem fieldMarkup_eq (name : Text) (v : Value) : fieldMarkup (name, v) =
    "[cyan]".toList ++ (name ++ ("[/cyan]".toList ++ (": ".toList ++ escape v.display))) :=
  have hbehind : "[/cyan]: ".toList = "[/cyan]".toList ++ ": ".toList := by decide
  calc fieldMarkup (name, v)
    _ = "[cyan]".toList ++ name ++ ("[/cyan]".toList ++ ": ".toList) ++ escape v.display :=
      congrArg (fun behind => "[cyan]".toList ++ name ++ behind ++ escape v.display) hbehind
    _ = _ := by rw [List.append_assoc, List.append_assoc, List.append_assoc]

section
variable {name : Text} (h : IsFieldName name)
include h

/-- The markup around the name of a field is taken out, and nothing else of what stands before its value. -/
theorem withoutStyles_fieldMarkup (v : Value) :
    withoutStyles (fieldMarkup (name, v)) = labelled name (withoutStyles (escape v.display)) := by
  have hcyan : ∀ c ∈ "cyan".toList, isStyleChar c = true := List.all_eq_true.1 (by decide)
  have hopening : IsStyle "[cyan]".toList := .opening (List.cons_ne_nil _ _) hcyan
  have hclosing : IsStyle "[/cyan]".toList := .closing (List.cons_ne_nil _ _) hcyan
  have hcolon : '[' ∉ ": ".toList := by decide
  rw [withoutStyles_eq, withoutStyles_eq, fieldMarkup_eq, cutFrom_append removes_styles hopening,
    cutFrom_append_of_not_mem h.no_open, cutFrom_append removes_styles hclosing, cutFrom_append_of_not_mem hcolon,
    labelled, List.append_assoc]

theorem trim_labelled (t : Text) : Text.trim (labelled name t) = Text.trimEnd (labelled name t) := by
  obtain ⟨c, r, rfl, hc⟩ := h.starts
  rw [Text.trim, labelled, List.cons_append, List.cons_append, Text.trimStart_of_head hc]

theorem trimEnd_labelled_ne_nil (t : Text) : Text.trimEnd (labelled name t) ≠ [] := by
  obtain ⟨c, r, rfl, hc⟩ := h.starts
  intro hnil
  have hcount := Text.count_trimEnd hc (labelled (c :: r) t)
  rw [hnil, count_labelled, List.count_cons_self, List.count_nil] at hcount
  omega

theorem machineItem_fieldMarkup (v : Value) : machineItem (.text (fieldMarkup (name, v))) = printedLine (name, v) := by
  rw [machineItem, withoutStyles_fieldMarkup h, trim_labelled h]
  exact if_neg (by simpa using trimEnd_labelled_ne_nil h _)

end

/-! ## Fields that are printed as they are -/

/-- A verbatim value is printed as it is. -/
theorem printedLine_eq_faithfulLine (h : IsFieldName e.1) (hv : IsVerbatim e.2.display) :
    printedLine e = faithfulLine e := by
  obtain ⟨hescape, hstyles, hcodes⟩ := isVerbatim_iff.1 hv
  have hcolon : escapeChar ∉ ": ".toList := by decide
  have hwhole : withoutCodes (labelled e.1 e.2.display) = labelled e.1 e.2.display := by
    rw [withoutCodes_eq] at hcodes ⊢
    rw [labelled, List.append_assoc, cutFrom_append_of_not_mem h.no_escape, cutFrom_append_of_not_mem hcolon, hcodes]
  have hline : withoutCodes (Text.trimEnd (labelled e.1 e.2.display)) = Text.trimEnd (labelled e.1 e.2.display) := by
    obtain ⟨b, -, hb⟩ := Text.exists_trimEnd (labelled e.1 e.2.display)
    have hprefix : Text.trimEnd (labelled e.1 e.2.display) <:+: labelled e.1 e.2.display :=
      List.IsPrefix.isInfix ⟨b, hb.symm⟩
    exact withoutCodes_eq_self_iff.2 fun u hu hin => withoutCodes_eq_self_iff.1 hwhole u hu (hin.trans hprefix)
  rw [printedLine, plainLine, faithfulLine, hescape, hstyles, machineLine, hline]

theorem count_printedLine_le_plainLine (c : Char) (e : Text × Value) :
    (printedLine e).count c ≤ (plainLine e ++ ['\n']).count c :=
  ((withoutCodes_sublist (plainLine e)).append_right ['\n']).count_le c

theorem count_plainLine_le (hc : isBlank c = false) (hback : c ≠ '\\') (e : Text × Value) :
    (plainLine e ++ ['\n']).count c ≤ (faithfulLine e).count c := by
  have hstyles := (withoutStyles_sublist (escape e.2.display)).count_le c
  rw [count_escape hback] at hstyles
  rw [plainLine, faithfulLine, count_line hc, count_line hc, count_labelled, count_labelled]
  omega

/-- No more of a character is printed than the value has, but for the backslashes that escaping adds. -/
theorem count_printedLine_le (hc : isBlank c = false) (hback : c ≠ '\\') (e : Text × Value) :
    (printedLine e).count c ≤ (faithfulLine e).count c :=
  (count_printedLine_le_plainLine c e).trans (count_plainLine_le hc hback e)

theorem withoutCodes_of_count (h : (printedLine e).count escapeChar = (faithfulLine e).count escapeChar) :
    withoutCodes (plainLine e) = plainLine e := by
  have hplain := count_plainLine_le (by decide : isBlank escapeChar = false) (by decide) e
  have hcount := le_antisymm (count_printedLine_le_plainLine escapeChar e) (hplain.trans_eq h.symm)
  rw [printedLine, machineLine, List.count_append, List.count_append, Nat.add_right_cancel_iff] at hcount
  exact withoutCodes_of_count_eq hcount

theorem withoutStyles_of_count (h : (printedLine e).count '[' = (faithfulLine e).count '[') :
    withoutStyles (escape e.2.display) = escape e.2.display := by
  have hblank : isBlank '[' = false := by decide
  have hcount := le_antisymm (count_plainLine_le hblank (by decide) e)
    (h.symm.trans_le (count_printedLine_le_plainLine '[' e))
  rw [plainLine, faithfulLine, count_line hblank, count_line hblank, count_labelled, count_labelled] at hcount
  refine withoutStyles_of_count_eq ?_
  rw [count_escape (by decide)]
  omega

/-- Where nothing has been taken out, and escaping has added no backslash, the value is verbatim. -/
theorem isVerbatim_of_count
    (hcodes : withoutCodes (plainLine e) = plainLine e)
    (hstyles : withoutStyles (escape e.2.display) = escape e.2.display)
    (hback : (faithfulLine e).count '\\' = (printedLine e).count '\\') : IsVerbatim e.2.display := by
  have hblank : isBlank '\\' = false := by decide
  rw [printedLine, machineLine, hcodes, plainLine, hstyles, faithfulLine, count_line hblank, count_line hblank,
    count_labelled, count_labelled] at hback
  have hescape : escape e.2.display = e.2.display := escape_eq_self_of_count (by omega)
  rw [plainLine, hstyles, hescape] at hcodes
  rw [hescape] at hstyles
  refine isVerbatim_iff.2 ⟨hescape, hstyles, withoutCodes_eq_self_iff.2 fun u hu hin => ?_⟩
  -- A code has no blanks, so it would stand in the line as well.
  have hpart : e.2.display <:+: labelled e.1 e.2.display := (List.suffix_append _ _).isInfix
  exact withoutCodes_eq_self_iff.1 hcodes u hu (Text.infix_trimEnd hu.not_blank (hin.trans hpart))

/-! ## Many fields -/

/-- Fields are printed one behind the other as a report shows them just if all their values are verbatim. -/
theorem flatMap_printedLine_eq_iff {fields : Table} (h : ∀ e ∈ fields, IsFieldName e.1) :
    fields.flatMap printedLine = fields.flatMap faithfulLine ↔ ∀ e ∈ fields, IsVerbatim e.2.display := by
  constructor
  · intro hsame
    have hcount := fun c => congrArg (List.count c) hsame
    have hescapes := count_eq_of_flatMap (fun e _ => count_printedLine_le (by decide) (by decide) e) (hcount escapeChar)
    have hopens := count_eq_of_flatMap (fun e _ => count_printedLine_le (by decide) (by decide) e) (hcount '[')
    have hle : ∀ e ∈ fields, (faithfulLine e).count '\\' ≤ (printedLine e).count '\\' := by
      intro e he
      have hblank : isBlank '\\' = false := by decide
      rw [printedLine, machineLine, withoutCodes_of_count (hescapes e he), plainLine,
        withoutStyles_of_count (hopens e he), faithfulLine, count_line hblank, count_line hblank, count_labelled,
        count_labelled]
      exact Nat.add_le_add_right (Nat.add_le_add_left (le_count_escape _) _) _
    have hbacks := count_eq_of_flatMap hle (hcount '\\').symm
    exact fun e he => isVerbatim_of_count (withoutCodes_of_count (hescapes e he))
      (withoutStyles_of_count (hopens e he)) (hbacks e he)
  · intro hverbatim
    exact List.flatMap_congr fun e he => printedLine_eq_faithfulLine (h e he) (hverbatim e he)

/-! ## A detection -/

theorem isFieldName_of_mem {d : Detection} (h : e ∈ d.fields) : IsFieldName e.1 := by
  have hnames : d.fields.map Prod.fst = ["root", "workspace", "project", "file", "kind", "anchor_line",
      "has_constructor", "installed"].map String.toList := rfl
  have hname := List.mem_map_of_mem (f := Prod.fst) h
  rw [hnames] at hname
  have hall : ∀ name ∈ ["root", "workspace", "project", "file", "kind", "anchor_line", "has_constructor",
      "installed"].map String.toList, (name.head?.any fun c => !isBlank c) = true ∧ '[' ∉ name ∧ escapeChar ∉ name := by
    decide
  obtain ⟨hstart, hopen, hescape⟩ := hall _ hname
  obtain ⟨c, hc, hblank⟩ := (Option.any_eq_true _ _).1 hstart
  obtain ⟨r, hr⟩ := List.head?_eq_some_iff.1 hc
  exact ⟨⟨c, r, hr, by simpa using hblank⟩, hopen, hescape⟩

theorem isVerbatim_decimalInt (i : Int) : IsVerbatim (Text.decimalInt i) := by
  have hdigit : ∀ n c, c ∈ Text.decimal n → c.isDigit = true := fun n c hc =>
    Nat.isDigit_of_mem_toDigits (by decide) (by decide) hc
  have hno : ∀ n c, c.isDigit = false → c ∉ Text.decimal n := fun n c hc hm => by simp [hdigit n c hm] at hc
  cases i with
  | ofNat n => exact isVerbatim_of_not_mem (hno n _ (by decide)) (hno n _ (by decide))
  | negSucc n =>
    refine isVerbatim_of_not_mem ?_ ?_ <;> rw [Text.decimalInt, List.mem_cons, not_or] <;>
      exact ⟨by decide, hno _ _ (by decide)⟩

/-- Of the values in a detection only the root and the path of the file may be taken for something else. -/
theorem isVerbatim_fields_iff {d : Detection} : (∀ e ∈ d.fields, IsVerbatim e.2.display) ↔
    IsVerbatim d.root ∧ ∀ file ∈ d.file, IsVerbatim file.path := by
  have hflag : ∀ b, IsVerbatim (Value.bool b).display := by decide
  have hnone : IsVerbatim Value.null.display := by decide
  have hkind : ∀ kind : Source.EntryKind, IsVerbatim kind.name := by
    intro kind
    cases kind <;> decide
  constructor
  · intro h
    refine ⟨h ("root".toList, .text d.root) (by simp [Detection.fields]), fun file hfile => ?_⟩
    exact h ("file".toList, .text file.path) (by simp [Detection.fields, Option.mem_def.1 hfile, Value.ofText?])
  · rintro ⟨hroot, hfile⟩
    have hpath : IsVerbatim (Value.ofText? (d.file.map EntryFile.path)).display := by
      cases hd : d.file with
      | none => exact hnone
      | some file => exact hfile file hd
    have hkinds : IsVerbatim (Value.ofText? (d.file.map fun file => file.kind.name)).display := by
      cases d.file with
      | none => exact hnone
      | some file => exact hkind file.kind
    simp only [Detection.fields, List.forall_mem_cons, List.not_mem_nil, false_implies, implies_true, and_true]
    refine ⟨hroot, hflag _, hflag _, hpath, hkinds, ?_, hflag _, hflag _⟩
    cases d.anchorLine with
    | none => exact hnone
    | some n => exact isVerbatim_decimalInt n

/-! ## The program -/

variable {t : Tree} {around : Surroundings} {args : List Text} {root : Option Text} {d : Detection}

theorem machinePrint_fields (d : Detection) :
    machinePrint (d.fields.map fun e => .text (fieldMarkup e)) = d.fields.flatMap printedLine := by
  rw [machinePrint, List.flatMap_map]
  exact List.flatMap_congr fun e he => machineItem_fieldMarkup (isFieldName_of_mem he) e.2

section
variable (mishaps : Mishaps) (hargs : Invocation.parse args = .ok ⟨false, .detect root false⟩)
  (haround : wantsHuman around = false) (hd : t.detectHere around (t.meantRoot root) = .ok d)
include hargs haround hd

/-- What the program prints of what it finds. -/
theorem runCommand_of_detectHere : t.runCommand mishaps around args =
    (t, .exited (if d.file.isSome then 0 else 1) (d.fields.flatMap printedLine)) := by
  rw [Tree.runCommand, hargs]
  simp only [haround, Bool.or_false, Tree.carryOut, hd, Mode.detected, Mode.detection, Mode.fields]
  rw [machinePrint_fields]
  rfl

/-- A look that comes to its end prints one line for each field of the report, in order, and nothing else, the output
being no terminal. These lines are the report, value for value, just if its root and the path of its file are
verbatim. -/
theorem runCommand_detect : ∃ printed,
    t.runCommand mishaps around args = (t, .exited (if d.file.isSome then 0 else 1) printed) ∧
    printed = d.fields.flatMap printedLine ∧
    (printed = d.fields.flatMap faithfulLine ↔ IsVerbatim d.root ∧ ∀ file ∈ d.file, IsVerbatim file.path) := by
  refine ⟨_, runCommand_of_detectHere mishaps hargs haround hd, rfl, ?_⟩
  rw [flatMap_printedLine_eq_iff fun e he => isFieldName_of_mem he, isVerbatim_fields_iff]

end

def projectNamed (name : Text) : Tree where
  top := .dir [(name, .dir [("App.xcodeproj".toList, .dir [] 0o755),
    ("App.swift".toList, .file (Utf8.encode Tree.demoText) 0o644)] 0o755)] 0o755
  here := []
  home := []

def namedDetection (name : Text) : Detection where
  root := name
  workspace := true
  project := true
  file := some ⟨name ++ "/App.swift".toList, .annotatedRoot⟩
  anchorLine := some 2
  hasConstructor := false
  installed := false

/-- Brackets around a number are no tag: the report of a project in such a directory is printed as it is. -/
theorem runCommand_detect_of_number : ∃ printed,
    (projectNamed "v[2]".toList).runCommand noMishaps ⟨[], [], .plenty⟩ ["detect".toList, "v[2]".toList] =
      (projectNamed "v[2]".toList, .exited 0 printed) ∧
    printed = (namedDetection "v[2]".toList).fields.flatMap faithfulLine := by
  have hargs : Invocation.parse ["detect".toList, "v[2]".toList] =
      .ok ⟨false, .detect (some "v[2]".toList) false⟩ := by decide
  have hd : (projectNamed "v[2]".toList).detectHere ⟨[], [], .plenty⟩
      ((projectNamed "v[2]".toList).meantRoot (some "v[2]".toList)) = .ok (namedDetection "v[2]".toList) :=
    Except.of_toOption_eq_some (by decide +kernel)
  obtain ⟨printed, hrun, -, hfaithful⟩ := runCommand_detect noMishaps hargs (by decide) hd
  refine ⟨printed, hrun, hfaithful.2 ⟨by decide, fun file hfile => ?_⟩⟩
  cases hfile
  decide

/-- Brackets around letters are taken for a style: what is printed of a project in such a directory is not its
report. -/
theorem detect_misprints_letters : ∃ printed,
    (projectNamed "p[a]".toList).detectHere ⟨[], [], .plenty⟩ "p[a]".toList = .ok (namedDetection "p[a]".toList) ∧
    (projectNamed "p[a]".toList).runCommand noMishaps ⟨[], [], .plenty⟩ ["detect".toList, "p[a]".toList] =
      (projectNamed "p[a]".toList, .exited 0 printed) ∧
    "root: p\\\nworkspace: True\n".toList <+: printed ∧
    printed ≠ (namedDetection "p[a]".toList).fields.flatMap faithfulLine := by
  have hargs : Invocation.parse ["detect".toList, "p[a]".toList] =
      .ok ⟨false, .detect (some "p[a]".toList) false⟩ := by decide
  have hd : (projectNamed "p[a]".toList).detectHere ⟨[], [], .plenty⟩ "p[a]".toList =
      .ok (namedDetection "p[a]".toList) := Except.of_toOption_eq_some (by decide +kernel)
  exact ⟨_, hd, runCommand_of_detectHere noMishaps hargs (by decide) hd, by decide, by decide⟩

end SdkGraft.CommandLine
