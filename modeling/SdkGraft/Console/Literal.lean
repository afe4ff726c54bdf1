import SdkGraft.Text.CharName
import SdkGraft.Text.WordChar
import SdkGraft.Value.Basic

/-!
# Literal values

What a tag hands on to whoever handles it has to be a literal value.

* `Token`, `token?` : numbers, strings, words and signs;
* `Scanning`, `tokens?` : a text cut into tokens, line by line (`tokens?_of_null`);
* `Kind` : what a literal is good for; `Kind.sum?`, `Kind.negated?` : where signs may stand;
* `isLiteral` : a text is a literal: a number, a string, a name of a constant, or several of them
  between brackets.
-/

namespace SdkGraft.Console

/-! ## Tokens -/

inductive Token where
  /-- A number; a huge one is a whole number that no double comes near. -/
  | number (imaginary huge : Bool)
  | string (bytes : Bool)
  /-- A name of a constant. -/
  | constant
  /-- The name that makes an empty set when empty brackets follow. -/
  | emptySet
  | dots
  | sign (c : Char)
  /-- The end of a line outside of all brackets. -/
  | line
  deriving DecidableEq, Repr

/-- How many characters a run of digits takes: single low lines may stand between them; `none` if
there is no digit or a low line stands elsewhere. -/
def runLength? (isDigit : Char → Bool) (t : Text) : Option Nat :=
  let run := t.takeWhile fun c => isDigit c || c == '_'
  if run.isEmpty || run.head? = some '_' || Text.endsWith run ['_'] || Text.occursIn ['_', '_'] run then none
  else some run.length

def isHexFigure (c : Char) : Bool := c.isDigit || ('a' ≤ c.toLower && c.toLower ≤ 'f')

def base? (c : Char) : Option Nat :=
  if c.toLower = 'x' then some 16
  else if c.toLower = 'o' then some 8
  else if c.toLower = 'b' then some 2
  else none

def figure (c : Char) : Nat := if c.isDigit then c.toNat - 0x30 else c.toLower.toNat - 0x57

def figures (base : Nat) (t : Text) : Nat := t.foldl (fun n c => base * n + figure c) 0

def isFigure (base : Nat) (c : Char) : Bool := isHexFigure c && figure c < base

/-- No double comes near the number: it is not below the middle between the largest double and the
power of two behind it. -/
def isHuge (n : Nat) : Bool := Nat.pow 2 1024 - Nat.pow 2 970 ≤ n

/-- How many characters a power of ten takes, if one stands here. -/
def powerLength? : Text → Option Nat
  | e :: r =>
    if e.toLower = 'e' then
      match r with
      | '+' :: s => (runLength? Char.isDigit s).map (· + 2)
      | '-' :: s => (runLength? Char.isDigit s).map (· + 2)
      | s => (runLength? Char.isDigit s).map (· + 1)
    else some 0
  | [] => some 0

/-- How many characters a fraction takes, if one stands here; the digits behind the point may be
missing where a whole part stands in front of it. -/
def fractionLength? (hasWhole : Bool) : Text → Option Nat
  | '.' :: r =>
    if r.head?.any (fun c => c.isDigit || c == '_') then (runLength? Char.isDigit r).map (· + 1)
    else if hasWhole then some 1 else none
  | _ => some 0

/-- The digits of a whole number to the base ten: zeros, or not too many, the first one no zero. -/
def areWholeDigits (digits : Text) : Bool :=
  digits.all (· == '0') || digits.head? != some '0' && digits.length ≤ Value.mostDigits

/-- A number that is written to the base ten, its whole part `whole` characters long. -/
def decimalNumber? (whole : Nat) (t : Text) : Option (Token × Nat) := do
  let fraction ← fractionLength? (whole != 0) (t.drop whole)
  let power ← powerLength? (t.drop (whole + fraction))
  let length := whole + fraction + power
  let imaginary := (t.drop length).head?.any fun c => c.toLower == 'j'
  if imaginary then some (.number true false, length + 1)
  else if fraction + power = 0 then
    let digits := (t.take whole).filter (· != '_')
    if areWholeDigits digits then some (.number false (isHuge (figures 10 digits)), length) else none
  else some (.number false false, length)

def number? (t : Text) : Option (Token × Nat) :=
  match t with
  | '0' :: c :: r =>
    match base? c with
    | some base =>
      let body := if r.head? = some '_' then r.drop 1 else r
      (runLength? (isFigure base) body).map fun n =>
        (.number false (isHuge (figures base ((body.take n).filter (· != '_')))),
          2 + (r.length - body.length) + n)
    | none => (runLength? Char.isDigit t).bind fun n => decimalNumber? n t
  | '.' :: _ => decimalNumber? 0 t
  | _ => (runLength? Char.isDigit t).bind fun n => decimalNumber? n t

def hexCount (bytes : Bool) (c : Char) : Nat :=
  if c = 'x' then 2 else if bytes then 0 else if c = 'u' then 4 else if c = 'U' then 8 else 0

def isNamed : Text → Bool
  | '\x7b' :: r =>
    let name := r.takeWhile (· != '\x7d')
    name.length < r.length && isCharName name
  | _ => false

/-- What stands behind a backslash is a character: itself, by its number or by its name. -/
def isEscape (bytes : Bool) (c : Char) (r : Text) : Bool :=
  let digits := r.take (hexCount bytes c)
  digits.length = hexCount bytes c && digits.all isHexFigure && figures 16 digits ≤ 0x10FFFF
    && (bytes || c != 'N' || isNamed r)

/-- How a string is written: what closes it, whether backslashes stand for themselves, and whether
it is made of bytes. -/
structure Quoting where
  closing : Text
  raw : Bool
  bytes : Bool

/-- How many characters a string takes up to and with its end, its beginning read and its first
`skip` characters accepted. -/
def stringLength? (q : Quoting) : (skip : Nat) → Text → Option Nat
  | _, [] => none
  | skip + 1, _ :: r => (stringLength? q skip r).map (· + 1)
  | 0, c :: r =>
    if q.closing.isPrefixOf (c :: r) then some q.closing.length
    else if q.bytes && 0x80 ≤ c.toNat then none
    else if c = '\n' && q.closing.length = 1 then none
    else if c = '\\' then
      match r with
      | [] => none
      | d :: s =>
        if q.bytes && 0x80 ≤ d.toNat then none
        else if q.raw || isEscape q.bytes d s then (stringLength? q 1 r).map (· + 1)
        else none
    else (stringLength? q 0 r).map (· + 1)

/-- A string without its prefix. -/
def string? (raw bytes : Bool) (t : Text) : Option (Token × Nat) :=
  match t with
  | [] => none
  | quote :: r =>
    if quote = '"' || quote = '\'' then
      let closing := if [quote, quote].isPrefixOf r then [quote, quote, quote] else [quote]
      (stringLength? ⟨closing, raw, bytes⟩ 0 (t.drop closing.length)).map fun n =>
        (.string bytes, closing.length + n)
    else none

/-- What the letters in front of a string say: whether backslashes stand for themselves, and whether
it is made of bytes. -/
def letters? (word : Text) : Option (Bool × Bool) :=
  let word := word.map Char.toLower
  if word = [] || word = ['u'] then some (false, false)
  else if word = ['r'] then some (true, false)
  else if word = ['b'] then some (false, true)
  else if word = ['b', 'r'] || word = ['r', 'b'] then some (true, true)
  else none

def setLetters : List Text :=
  ["sſˢₛｓ𝐬𝑠𝒔𝓈𝓼𝔰𝕤𝖘𝗌𝘀𝘴𝙨𝚜", "eᵉₑℯⅇｅ𝐞𝑒𝒆𝓮𝔢𝕖𝖊𝖾𝗲𝘦𝙚𝚎", "tᵗₜｔ𝐭𝑡𝒕𝓉𝓽𝔱𝕥𝖙𝗍𝘁𝘵𝙩𝚝"].map String.toList

def isSetName (word : Text) : Bool :=
  word.length = setLetters.length && (word.zip setLetters).all fun e => e.2.contains e.1

def wordOrString? (t : Text) : Option (Token × Nat) :=
  let word := t.takeWhile isWordChar
  let rest := t.drop word.length
  if rest.head? = some '"' || rest.head? = some '\'' then
    (letters? word).bind fun how =>
      (string? how.1 how.2 rest).map fun e => (e.1, word.length + e.2)
  else if ["True", "False", "None"].contains (String.ofList word) then some (.constant, word.length)
  else if isSetName word then some (.emptySet, word.length)
  else none

/-- The token at the beginning of the text and its length; a number ends where no letter goes on. -/
def token? (t : Text) : Option (Token × Nat) :=
  match t with
  | [] => none
  | c :: r =>
    if "+-(),:\x7b\x7d".toList.contains c then some (.sign c, 1)
    else if ['.', '.', '.'].isPrefixOf t then some (.dots, 3)
    else if c.isDigit || (c = '.' && r.head?.any Char.isDigit) then
      match number? t with
      | some (token, n) => if (t.drop n).head?.any isWordChar then none else some (token, n)
      | none => none
    else wordOrString? t

def mostBrackets : Nat := 200

/-- How many brackets are open after a token; `none` if they are too many. -/
def depthAfter? (depth : Nat) : Token → Option Nat
  | .sign c =>
    if c = '(' || c = '\x7b' then if depth < mostBrackets then some (depth + 1) else none
    else if c = ')' || c = '\x7d' then some (depth - 1)
    else some depth
  | _ => some depth

/-! ## Lines -/

inductive Scanning where
  /-- At the beginning of a line, which is indented or not, in front of the first backslash or now. -/
  | line (first now : Bool)
  /-- Within a line. -/
  | token
  /-- In a remark, up to the end of the line, on a line of its own or not. -/
  | remark (own : Bool)
  /-- So many characters are left in front of what follows. -/
  | within (left : Nat) (next : Scanning)
  deriving DecidableEq, Repr

/-- The scanning goes on so many characters later. -/
def Scanning.after (n : Nat) (s : Scanning) : Scanning := if n = 0 then s else .within n s

/-- What a character tells: the token that begins with it, if one does, how the scanning goes on, and
how many brackets are open then. -/
abbrev Told := Option Token × Scanning × Nat

def beginning? (depth : Nat) (t : Text) : Option Told := do
  let (token, length) ← token? t
  return (some token, Scanning.after (length - 1) .token, ← depthAfter? depth token)

/-- A backslash at the end of a line, which is not the last one, joins it to the next one. -/
def joint? (depth : Nat) (next : Scanning) : Text → Option Told
  | '\n' :: _ :: _ => some (none, .within 1 next, depth)
  | _ => none

def lineEnd (depth : Nat) (own : Bool) : Told :=
  (if depth = 0 && !own then some .line else none, .line false false, depth)

/-- What the next character tells, so many brackets being open; `none` if it cannot stand there. A
line with a token in it is not indented outside of all brackets. -/
def Scanning.next? (depth : Nat) (c : Char) (r : Text) : Scanning → Option Told
  | .line first now =>
    if c = ' ' || c = '\t' then some (none, .line first true, depth)
    else if c = '\x0c' then some (none, .line first false, depth)
    else if c = '\n' then some (lineEnd depth true)
    else if c = '#' then some (none, .remark true, depth)
    else if c = '\\' then joint? depth (.line (first || now) now) r
    else if depth = 0 && (first || now) then none
    else beginning? depth (c :: r)
  | .token =>
    if c = ' ' || c = '\t' || c = '\x0c' then some (none, .token, depth)
    else if c = '\n' then some (lineEnd depth false)
    else if c = '#' then some (none, .remark false, depth)
    else if c = '\\' then joint? depth .token r
    else beginning? depth (c :: r)
  | .remark own => if c = '\n' then some (lineEnd depth own) else some (none, .remark own, depth)
  | .within left next => some (none, next.after (left - 1), depth)

def Scanning.mayEnd (depth : Nat) : Scanning → Bool
  | .line first now => depth != 0 || !(first || now)
  | _ => true

/-- The tokens of a text, so many brackets being open; `none` if something is no token. -/
def tokensFrom? (s : Scanning) (depth : Nat) : Text → Option (List Token)
  | [] => if s.mayEnd depth then some [] else none
  | c :: r => do
    let (token, s, depth) ← s.next? depth c r
    return token.toList ++ (← tokensFrom? s depth r)

/-- The tokens of a text; `none` if something is no token. -/
def tokens? (t : Text) : Option (List Token) :=
  if t.contains '\x00' then none else tokensFrom? (.line false false) 0 (Text.foldReturns t)

theorem tokens?_of_null {t : Text} (h : '\x00' ∈ t) : tokens? t = none := by
  rw [tokens?, if_pos (List.contains_iff_mem.2 h)]

/-! ## Values -/

/-- What a literal is good for. -/
inductive Kind where
  /-- A number, imaginary or not, huge or not; a bare one has no sign yet. -/
  | number (imaginary huge bare : Bool)
  /-- Anything else that can be an item of a set. -/
  | fixed
  /-- A value that can be no item of a set. -/
  | changing
  deriving DecidableEq, Repr

def Kind.isFixed (k : Kind) : Bool := k ≠ .changing

/-- A value behind a sign: a bare number. -/
def Kind.negated? : Kind → Option Kind
  | .number imaginary huge true => some (.number imaginary huge false)
  | _ => none

/-- A value and another one added to it or taken from it: a bare imaginary number behind a number
that is neither imaginary nor huge. -/
def Kind.sum? : Kind → Kind → Option Kind
  | .number false false _, .number true _ true => some .fixed
  | _, _ => none

def tupleKind (items : List Kind) : Kind := if items.all Kind.isFixed then .fixed else .changing

/-- The tokens behind the strings that follow a string; `none` if one is of another make. -/
def afterStrings? (bytes : Bool) : List Token → Option (List Token)
  | .string b :: rest => if b = bytes then afterStrings? bytes rest else none
  | rest => some rest

def afterSetName? : List Token → Option (List Token)
  | .emptySet :: r => some r
  | .sign '(' :: r =>
    match afterSetName? r with
    | some (.sign ')' :: rest) => some rest
    | _ => none
  | _ => none

def afterEmptySet? (ts : List Token) : Option (List Token) :=
  match afterSetName? ts with
  | some (.sign '(' :: .sign ')' :: rest) => some rest
  | _ => none

mutual

/-- A value without a sign, with at most so many steps of reading. -/
def atom? : (n : Nat) → List Token → Option (Kind × List Token)
  | 0, _ => none
  | _ + 1, .number imaginary huge :: r => some (.number imaginary huge true, r)
  | _ + 1, .string bytes :: r => (afterStrings? bytes r).map fun rest => (.fixed, rest)
  | _ + 1, .constant :: r => some (.fixed, r)
  | _ + 1, .dots :: r => some (.fixed, r)
  | _ + 1, .sign '(' :: .sign ')' :: r => some (.fixed, r)
  | n + 1, .sign '(' :: r => do
    match ← sum? n r with
    | (k, .sign ')' :: rest) => return (k, rest)
    | (k, .sign ',' :: rest) =>
      match ← items? n rest with
      | (ks, .sign ')' :: rest) => return (tupleKind (k :: ks), rest)
      | _ => none
    | _ => none
  | _ + 1, .sign '\x7b' :: .sign '\x7d' :: r => some (.changing, r)
  | n + 1, .sign '\x7b' :: r => do
    match ← sum? n r with
    | (k, .sign ':' :: rest) =>
      let (_, rest) ← sum? n rest
      if k.isFixed then return (.changing, ← pairs? n rest) else none
    | (k, .sign ',' :: rest) =>
      match ← items? n rest with
      | (ks, .sign '\x7d' :: rest) => if (k :: ks).all Kind.isFixed then return (.changing, rest) else none
      | _ => none
    | (k, .sign '\x7d' :: rest) => if k.isFixed then return (.changing, rest) else none
    | _ => none
  | _ + 1, _ => none

def signed? : (n : Nat) → List Token → Option (Kind × List Token)
  | 0, _ => none
  | n + 1, .sign '+' :: r => do
    let (k, rest) ← signed? n r
    return (← k.negated?, rest)
  | n + 1, .sign '-' :: r => do
    let (k, rest) ← signed? n r
    return (← k.negated?, rest)
  | n + 1, r =>
    match afterEmptySet? r with
    | some rest => some (.changing, rest)
    | none => atom? n r

def sum? : (n : Nat) → List Token → Option (Kind × List Token)
  | 0, _ => none
  | n + 1, r => do
    let (k, rest) ← signed? n r
    match rest with
    | .sign '+' :: rest =>
      let (l, rest) ← signed? n rest
      return (← k.sum? l, rest)
    | .sign '-' :: rest =>
      let (l, rest) ← signed? n rest
      return (← k.sum? l, rest)
    | _ => return (k, rest)

/-- Values with commas between them, perhaps none, perhaps with a comma at the end. -/
def items? : (n : Nat) → List Token → Option (List Kind × List Token)
  | 0, _ => none
  | _ + 1, [] => some ([], [])
  | _ + 1, .sign ')' :: r => some ([], .sign ')' :: r)
  | _ + 1, .sign '\x7d' :: r => some ([], .sign '\x7d' :: r)
  | _ + 1, .line :: r => some ([], .line :: r)
  | n + 1, r => do
    let (k, rest) ← sum? n r
    match rest with
    | .sign ',' :: rest =>
      let (ks, rest) ← items? n rest
      return (k :: ks, rest)
    | _ => return ([k], rest)

def pairs? : (n : Nat) → List Token → Option (List Token)
  | 0, _ => none
  | _ + 1, .sign '\x7d' :: r => some r
  | _ + 1, .sign ',' :: .sign '\x7d' :: r => some r
  | n + 1, .sign ',' :: r => do
    match ← sum? n r with
    | (k, .sign ':' :: rest) =>
      let (_, rest) ← sum? n rest
      if k.isFixed then pairs? n rest else none
    | _ => none
  | _ + 1, _ => none

end

def isValue (ts : List Token) : Bool :=
  match sum? (4 * ts.length + 4) ts with
  | some (_, .sign ',' :: rest) =>
    (items? (4 * ts.length + 4) rest).any fun e => e.2.all (· == .line)
  | some (_, rest) => rest.all (· == .line)
  | none => false

def isLiteral (t : Text) : Bool := (tokens? (t.dropWhile fun c => c == ' ' || c == '\t')).any isValue

end SdkGraft.Console
