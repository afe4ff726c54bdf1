import SdkGraft.Source.Code
import SdkGraft.Text.WordChar

/-!
# Import statements

* `attribute?` : one attribute in front of a statement; `dropAll` : as many as there are;
* `isImport` : the code of a line imports something; `importsModule` : it imports one module;
* `hasImport`, `importIndex` : over the lines of a document;
* `insertImport?` : the import put after the last one, unless it is there already.
-/

namespace SdkGraft.Source

/-! ## Recognising -/

/-- The rest after an attribute: the at sign, its name and the blanks behind it. -/
def attribute? : Text → Option Text
  | '@' :: r =>
    if (r.takeWhile isWordChar).isEmpty then none else Text.dropBlanks? (r.dropWhile isWordChar)
  | _ => none

/-- The rest after at most `n` steps. -/
def dropUpTo (step : Text → Option Text) : (n : Nat) → Text → Text
  | 0, t => t
  | n + 1, t =>
    match step t with
    | some rest => dropUpTo step n rest
    | none => t

/-- The rest after as many steps as the text allows; each step takes a character at least. -/
def dropAll (step : Text → Option Text) (t : Text) : Text := dropUpTo step t.length t

/-- What follows the word `import` of a statement, its attributes skipped. -/
def afterImport? (code : Text) : Option Text :=
  Text.dropStart? "import".toList (dropAll attribute? code)

def isImport (code : Text) : Bool :=
  match afterImport? code with
  | some rest => (Text.dropBlanks? rest).any (!·.isEmpty)
  | none => false

/-- Nothing but one optional semicolon follows. -/
def endsStatement (t : Text) : Bool :=
  let rest := Text.trimStart t
  rest.isEmpty || rest == [';']

def namesModule (moduleName : Text) : Text → Bool
  | [] => false
  | c :: r =>
    isBlank c
      && ((Text.dropStart? moduleName r).any endsStatement || namesModule moduleName r)

/-- The code of a line imports exactly the module. -/
def importsModule (moduleName code : Text) : Bool :=
  (afterImport? code).any (namesModule moduleName)

/-! ## In a document -/

def importStatement (moduleName : Text) : Text := "import ".toList ++ moduleName

def hasImport (moduleName : Text) (lines : List Text) : Bool :=
  (codeParts lines).any (importsModule moduleName)

/-- One more than the index of the last code that `p` holds of, zero if there is none. -/
def afterLast (p : Text → Bool) : List Text → Nat
  | [] => 0
  | code :: rest =>
    match afterLast p rest with
    | 0 => if p code then 1 else 0
    | n + 1 => n + 2

/-- Where a new import goes: directly after the last import, at the top if there is none. -/
def importIndex (lines : List Text) : Nat := afterLast isImport (codeParts lines)

/-- The index of the new import and the lines with it, unless the module is imported already. -/
def insertImport? (moduleName : Text) (lines : List Text) : Option (Nat × List Text) :=
  if hasImport moduleName lines then none
  else
    let index := importIndex lines
    some (index, lines.take index ++ importStatement moduleName :: lines.drop index)

theorem afterLast_le (p : Text → Bool) (codes : List Text) : afterLast p codes ≤ codes.length := by
  induction codes with
  | nil => simp [afterLast]
  | cons code rest ih =>
    rw [afterLast]
    split
    · split <;> simp
    · rename_i n h; rw [h] at ih; simp; omega

theorem importIndex_le (lines : List Text) : importIndex lines ≤ lines.length := by
  have h := afterLast_le isImport (codeParts lines)
  rwa [codeParts_length] at h

end SdkGraft.Source
