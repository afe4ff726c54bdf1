import SdkGraft.Toml.Scan

/-!
# Reading configuration files: texts

* `basic` : a text between double quotes, with escapes; `literal` : one between apostrophes, as it
  stands; each on one line or, between triple quotes, on several;
* `string` : any of the four.
-/

namespace SdkGraft.Toml

def hexChar (count : Nat) : Reader Char := fun t =>
  let ds := t.take count
  let n := numberOf 16 ds
  if ds.length = count ∧ ds.all isHexDigit ∧ (n < 0xD800 ∨ (0xE000 ≤ n ∧ n < 0x110000)) then
    some (Char.ofNat n, t.drop count)
  else none

def escape : Reader Char
  | 'b' :: r => some ('\x08', r)
  | 't' :: r => some ('\t', r)
  | 'n' :: r => some ('\n', r)
  | 'f' :: r => some ('\x0c', r)
  | 'r' :: r => some ('\r', r)
  | '"' :: r => some ('"', r)
  | '\\' :: r => some ('\\', r)
  | 'u' :: r => hexChar 4 r
  | 'U' :: r => hexChar 8 r
  | _ => none

/-- The text after a backslash that ends its line: the next line and all blank space go with it. -/
def dropLineEnd? (t : Text) : Option Text :=
  match dropSpaces t with
  | '\n' :: r => some (dropLines r)
  | _ => none

/-- The rest of a text between double quotes, in at most `n` steps. -/
def basicIn (multiline : Bool) : (n : Nat) → Reader Text
  | 0, _ => none
  | _ + 1, [] => none
  | n + 1, '"' :: r =>
    if multiline then
      match expect ['"', '"'] r with
      | some rest => some ([], rest)
      | none => (basicIn multiline n r).map fun e => ('"' :: e.1, e.2)
    else some ([], r)
  | n + 1, '\\' :: r =>
    if multiline && r.head?.any (fun c => isSpace c || c == '\n') then
      (dropLineEnd? r).bind (basicIn multiline n)
    else
      (escape r).bind fun e => (basicIn multiline n e.2).map fun f => (e.1 :: f.1, f.2)
  | n + 1, c :: r =>
    if isPlain c || (multiline && c == '\n') then
      (basicIn multiline n r).map fun e => (c :: e.1, e.2)
    else none

def basic (multiline : Bool) : Reader Text := fun t => basicIn multiline (t.length + 1) t

def literal : Reader Text := fun t =>
  let body := t.takeWhile (· != '\'')
  match t.dropWhile (· != '\'') with
  | _ :: r => if body.all isPlain then some (body, r) else none
  | [] => none

def literalLines : Reader Text
  | [] => none
  | c :: r =>
    match expect ['\'', '\'', '\''] (c :: r) with
    | some rest => some ([], rest)
    | none =>
      if isPlain c || c == '\n' then (literalLines r).map fun e => (c :: e.1, e.2) else none

/-- Up to two quotes that stand directly before the closing three belong to the text. -/
def trailingQuotes (quote : Char) (e : Text × Text) : Text × Text :=
  match e with
  | (t, a :: b :: r) =>
    if a = quote then (if b = quote then (t ++ [a, b], r) else (t ++ [a], b :: r)) else (t, a :: b :: r)
  | (t, [a]) => if a = quote then (t ++ [a], []) else (t, [a])
  | (t, []) => (t, [])

/-- A line feed directly behind the opening quotes is no part of the text. -/
def dropFirstFeed : Text → Text
  | '\n' :: r => r
  | t => t

def string : Reader Text
  | '"' :: '"' :: '"' :: r => (basic true (dropFirstFeed r)).map (trailingQuotes '"')
  | '"' :: r => basic false r
  | '\'' :: '\'' :: '\'' :: r => (literalLines (dropFirstFeed r)).map (trailingQuotes '\'')
  | '\'' :: r => literal r
  | _ => none

def lineString : Reader Text
  | '"' :: r => basic false r
  | '\'' :: r => literal r
  | _ => none

end SdkGraft.Toml
