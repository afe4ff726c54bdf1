import SdkGraft.Console.Emoji
import SdkGraft.Console.Literal
import SdkGraft.Console.Painted
import SdkGraft.Console.Style

/-!
# Markup

Texts for people may name styles between square brackets, and pictures between colons.

* `Piece`, `pieces` : a text cut into characters, brackets that open no tag, and tags;
* `escape` : a text written so that no tag in it counts;
* `Trouble` : why a markup cannot be shown;
* `Run`, `runs` : the runs of text between tags, and the tags (`runs_chars`);
* `Opened`, `Painting` : the tags that are open, and the text and its stretches so far;
* `shown` : the text that a markup shows, painted.
-/

namespace SdkGraft.Console

/-! ## Tags -/

/-- The text of a tag, its first bracket read: it starts with a small letter, a number sign, a slash
or an at sign, and goes up to the next bracket, which has to close it. -/
def tag? (t : Text) : Option Text :=
  let opens (c : Char) : Bool := ('a' ≤ c && c ≤ 'z') || c == '#' || c == '/' || c == '@'
  if t.head?.any opens then
    let inner := t.takeWhile fun c => c != '[' && c != ']'
    if (t.drop inner.length).head? = some ']' then some inner else none
  else none

inductive Piece where
  | char (c : Char)
  /-- An opening bracket that opens no tag, behind so many backslashes. -/
  | bracket (slashes : Nat)
  /-- A tag behind so many backslashes. -/
  | tag (slashes : Nat) (inner : Text)
  deriving DecidableEq, Repr

def backslashes (n : Nat) : Text := List.replicate n '\\'

/-- The pieces of a text behind `slashes` backslashes, its first `skip` characters left out. -/
def piecesFrom : (skip slashes : Nat) → Text → List Piece
  | _, slashes, [] => (backslashes slashes).map .char
  | skip + 1, _, _ :: r => piecesFrom skip 0 r
  | 0, slashes, c :: r =>
    if c = '\\' then piecesFrom 0 (slashes + 1) r
    else if c = '[' then
      match tag? r with
      | some inner => .tag slashes inner :: piecesFrom (inner.length + 1) 0 r
      | none => .bracket slashes :: piecesFrom 0 0 r
    else (backslashes slashes).map .char ++ .char c :: piecesFrom 0 0 r

def pieces (t : Text) : List Piece := piecesFrom 0 0 t

/-! ## Escaping -/

/-- A piece behind one backslash more than twice as many as it had, if it is a tag. -/
def Piece.escaped : Piece → Text
  | .char c => [c]
  | .bracket slashes => backslashes slashes ++ ['[']
  | .tag slashes inner => backslashes (2 * slashes + 1) ++ '[' :: inner ++ [']']

/-- One backslash at the end of a text becomes two. -/
def doubleLast (t : Text) : Text :=
  if Text.endsWith t ['\\'] && !Text.endsWith t ['\\', '\\'] then t ++ ['\\'] else t

/-- The text written so that no tag in it counts. -/
def escape (t : Text) : Text := doubleLast ((pieces t).flatMap Piece.escaped)

/-! ## Runs -/

inductive Run where
  | text (t : Text)
  | tag (inner : Text)
  deriving DecidableEq, Repr

def intoRun (t : Text) : List Run → List Run
  | .text run :: rest => .text (t ++ run) :: rest
  | rest => .text t :: rest

/-- The runs that pieces make: no picture is named across the end of a run. A backslash makes a
bracket count as a character and does not show. -/
def runs : List Piece → List Run
  | [] => []
  | .char c :: rest => intoRun [c] (runs rest)
  | .bracket slashes :: rest => intoRun (backslashes (slashes - 1) ++ ['[']) (runs rest)
  | .tag slashes inner :: rest =>
    let tag := if slashes % 2 = 1 then .text ('[' :: inner ++ [']']) else .tag inner
    .text [] :: .text (backslashes (slashes / 2)) :: tag :: .text [] :: runs rest

/-! ## Tags that are open -/

inductive Trouble where
  /-- A tag closes what is not open, or hands on what is no value. -/
  | mismatch
  /-- A part of a colour is no number at all. -/
  | noNumber
  deriving DecidableEq, Repr

structure Opened where
  /-- The usual name of its style. -/
  name : Text
  /-- What stands behind an equals sign. -/
  detail : Text
  /-- How many characters are shown in front of it. -/
  start : Nat
  deriving DecidableEq, Repr

def tagName (name : Text) : Except Trouble Text := (styleName name).mapError fun _ => .noNumber

/-- What a tag hands on: the values between the round brackets behind a name, none if there are no
brackets, and everything if that is not how it is written. -/
def handedOn (detail : Text) : Text :=
  let rest := detail.dropWhile fun c => isWordChar c || c == '.'
  if rest.isEmpty then "()".toList
  else if rest.head? = some '(' && Text.endsWith rest [')'] && !rest.contains '\n' then rest
  else detail

/-- The tag may be closed: what it hands on is a value, if its name says that it hands on anything. -/
def Opened.mayClose (o : Opened) : Bool :=
  o.name.head? != some '@' || o.detail.isEmpty || isLiteral (handedOn (Text.trim o.detail))

/-- The tag can be painted: with what stands behind its equals sign it lacks no number. -/
def Opened.isSound (o : Opened) : Bool :=
  match Style.read .plain (Text.words o.name ++ Text.words o.detail) with
  | .error .noNumber => false
  | _ => true

def Opened.stretch (stop : Nat) (o : Opened) : Stretch := ⟨o.start, stop, o.isSound⟩

/-! ## What is shown -/

/-- A control that a screen would obey and that is not printed. -/
def isObeyed (c : Char) : Bool := ['\x07', '\x08', '\x0b', '\x0c', '\r'].contains c

/-- A text as it is printed: with pictures for their names and without controls. -/
def printable (t : Text) : Text := (withPictures t).filter fun c => !isObeyed c

structure Painting where
  /-- The texts that are shown so far, the last one first. -/
  texts : List Text
  /-- How many characters they have. -/
  size : Nat
  /-- The tags that are open, the last one first. -/
  opened : List Opened
  /-- The stretches of tags that are closed. -/
  stretches : List Stretch

namespace Painting

def start : Painting := ⟨[], 0, [], []⟩

def addText (p : Painting) (t : Text) : Painting :=
  { p with texts := printable t :: p.texts, size := p.size + (printable t).length }

def close (p : Painting) (o : Opened) : Except Trouble Painting :=
  if o.mayClose then
    .ok { p with opened := p.opened.erase o, stretches := o.stretch p.size :: p.stretches }
  else .error .mismatch

/-- One more tag. A closing tag without a name closes the last one, and another one the last of its
name. -/
def addTag (p : Painting) (inner : Text) : Except Trouble Painting :=
  let name := inner.takeWhile (· != '=')
  match name with
  | '/' :: name =>
    if Text.isAllBlank name then
      match p.opened with
      | [] => .error .mismatch
      | o :: _ => p.close o
    else do
      let name ← tagName (Text.trim name)
      match p.opened.find? fun o => o.name == name with
      | none => .error .mismatch
      | some o => p.close o
  | name => do
    let o : Opened := ⟨← tagName name, inner.drop (name.length + 1), p.size⟩
    return { p with opened := o :: p.opened }

def add (p : Painting) : Run → Except Trouble Painting
  | .text t => .ok (p.addText t)
  | .tag inner => p.addTag inner

/-- What is shown in the end; tags that are still open paint up to the end. -/
def painted (p : Painting) : Painted :=
  ⟨p.texts.reverse.flatten, p.stretches ++ p.opened.map (Opened.stretch p.size)⟩

end Painting

def shown (t : Text) : Except Trouble Painted :=
  ((runs (pieces t)).foldlM Painting.add .start).map Painting.painted

/-- A text without tags and brackets is one run. -/
theorem runs_chars (c : Char) (t : Text) : runs (Piece.char c :: t.map .char) = [.text (c :: t)] := by
  induction t generalizing c with
  | nil => rfl
  | cons d r ih => rw [List.map_cons, runs, ih]; rfl

end SdkGraft.Console
