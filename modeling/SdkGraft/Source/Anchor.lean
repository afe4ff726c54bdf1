import SdkGraft.Source.Import

/-!
# Where the initialization goes

Entry points are recognised line by line in the code of a document, without parsing it.

* `EntryKind` : the two conventions; `EntryPatterns` : what their lines are recognised by;
* `findCallback?`, `findMarker?`, `findDeclaration?` : the lines that name an entry point;
* `Braces` : the depth of braces; `findConstructor?` : an argument-free `init` directly inside a
  declaration; `findBody?` : the line that opens its body and leaves it open;
* `Target`, `classify` : the line after which the initialization goes.
-/

namespace SdkGraft.Source

/-- How an application declares its entry point. -/
inductive EntryKind where
  /-- A launch callback of the application's delegate. -/
  | delegateCallback
  /-- A type marked as the root of the application. -/
  | annotatedRoot
  deriving DecidableEq, Repr

def EntryKind.name : EntryKind → Text
  | .delegateCallback => "delegate-callback".toList
  | .annotatedRoot => "annotated-root".toList

def EntryKind.ofName? (name : Text) : Option EntryKind :=
  [EntryKind.delegateCallback, .annotatedRoot].find? fun k => k.name == name

structure EntryPatterns where
  /-- Stands in the line of the launch callback, -/
  delegateKeyword : Text
  /-- together with this. -/
  launchOptions : Text
  /-- Marks the root of the application. -/
  rootMarker : Text
  /-- A word of its own in the declaration of the root, -/
  rootTypeKeyword : Text
  /-- together with this. -/
  rootTypeFragment : Text

/-! ## Lines that name an entry point -/

def findCallback? (p : EntryPatterns) (codes : List Text) : Option Nat :=
  codes.findIdx? fun code =>
    Text.occursIn p.delegateKeyword code && Text.occursIn p.launchOptions code

def findMarker? (p : EntryPatterns) (codes : List Text) : Option Nat :=
  codes.findIdx? (Text.occursIn p.rootMarker)

def isRootDeclaration (p : EntryPatterns) (code : Text) : Bool :=
  Text.hasWord p.rootTypeKeyword code && Text.occursIn p.rootTypeFragment code

/-- The first declaration of a root at the marker or after it; without a marker, anywhere. -/
def findDeclaration? (p : EntryPatterns) (codes : List Text) : Option Nat :=
  let start := (findMarker? p codes).getD 0
  ((codes.drop start).findIdx? (isRootDeclaration p)).map (start + ·)

/-! ## Braces -/

/-- How deep the braces are, and whether one has been opened at all. -/
structure Braces where
  depth : Int
  opened : Bool
  deriving DecidableEq, Repr

def Braces.none : Braces := ⟨0, false⟩

def Braces.step (b : Braces) (c : Char) : Braces :=
  if c = '\x7b' then ⟨b.depth + 1, true⟩
  else if c = '\x7d' then ⟨b.depth - 1, b.opened⟩
  else b

def Braces.read (b : Braces) (code : Text) : Braces := code.foldl Braces.step b

def Braces.isClosed (b : Braces) : Bool := b.opened && decide (b.depth ≤ 0)

/-! ## Constructors -/

def modifierWords : List Text :=
  ["public".toList, "internal".toList, "private".toList, "fileprivate".toList, "override".toList,
    "convenience".toList, "required".toList]

def modifier? (code : Text) : Option Text :=
  (modifierWords.findSome? fun w => (Text.dropStart? w code).bind Text.dropBlanks?).or (attribute? code)

/-- The code begins with a constructor that takes no arguments. -/
def startsConstructor (code : Text) : Bool :=
  match Text.dropStart? "init".toList (dropAll modifier? code) with
  | none => false
  | some rest =>
    match Text.dropStart? ['('] (Text.trimStart rest) with
    | none => false
    | some inside => (Text.trimStart inside).head? == some ')'

/-- How many codes further on a constructor stands directly inside the braces opened since the
start, the braces being as given here. The search ends where they are all closed. -/
def findConstructorFrom? (braces : Braces) : List Text → Option Nat
  | [] => none
  | code :: rest =>
    if braces.opened && braces.depth == 1 && startsConstructor code then some 0
    else if (braces.read code).isClosed then none
    else (findConstructorFrom? (braces.read code) rest).map (· + 1)

/-- The constructor directly inside the declaration that starts at `declaration`. -/
def findConstructor? (codes : List Text) (declaration : Nat) : Option Nat :=
  (findConstructorFrom? Braces.none (codes.drop declaration)).map (declaration + ·)

def leavesOpen (code : Text) : Bool := code.count '\x7d' < code.count '\x7b'

/-- How many codes further on a body is opened and left open, only empty code standing before. -/
def findBodyFrom? : List Text → Option Nat
  | [] => none
  | code :: rest =>
    if code.contains '\x7b' then (if leavesOpen code then some 0 else none)
    else if code.isEmpty then (findBodyFrom? rest).map (· + 1)
    else none

/-- The line that opens the body of the constructor at `constructor` and leaves it open. -/
def findBody? (codes : List Text) (constructor : Nat) : Option Nat :=
  match codes.drop constructor with
  | [] => none
  | code :: rest =>
    if code.contains '\x7b' then (if leavesOpen code then some constructor else none)
    else (findBodyFrom? rest).map (constructor + 1 + ·)

/-! ## Targets -/

/-- Where the initialization goes. The indices are as a caller gives them, inside the document or
not. -/
structure Target where
  kind : EntryKind
  /-- The launch callback, or the declaration of the root. -/
  line : Int
  hasConstructor : Bool
  /-- The line that opens the body of an existing constructor. -/
  constructorLine : Option Int
  deriving DecidableEq, Repr

/-- The line after which the initialization goes. -/
def Target.anchor (t : Target) : Int :=
  if t.hasConstructor then t.constructorLine.getD t.line else t.line

def Target.callback (line : Nat) : Target := ⟨.delegateCallback, line, false, none⟩

/-- The target in a root at `declaration`, if its constructor has an open body or there is none. -/
def rootTarget? (codes : List Text) (declaration : Nat) : Option Target :=
  match findConstructor? codes declaration with
  | none => some ⟨.annotatedRoot, declaration, false, none⟩
  | some constructor =>
    (findBody? codes constructor).map fun body => ⟨.annotatedRoot, declaration, true, some (body : Int)⟩

/-- The target in a document. A launch callback always comes first; where the file is known to be
a delegate's, a root is not looked for. -/
def classify (p : EntryPatterns) (kind : Option EntryKind) (lines : List Text) : Option Target :=
  let codes := codeParts lines
  match findCallback? p codes with
  | some line => some (.callback line)
  | none =>
    if kind = some .delegateCallback then none
    else (findDeclaration? p codes).bind (rootTarget? codes)

end SdkGraft.Source
