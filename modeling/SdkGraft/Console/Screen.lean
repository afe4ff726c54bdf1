import SdkGraft.Console.Markup
import SdkGraft.Console.Spread

/-!
# Printing for people

* `onScreen` : a text as the lines that it takes on a screen;
* `plainPrint` : a text printed as it is; `humanPrint` : values printed for people.
-/

namespace SdkGraft.Console

/-- A painted text as it stands on a screen, if it can be painted there. -/
def onScreen (p : Painted) : Except Trouble Text :=
  let lines := laidOut screenWidth p
  if lines.all Painted.isSound then .ok (Text.unlines (lines.map (cropped screenWidth)))
  else .error .noNumber

/-- A text printed for people without looking for tags in it. -/
def plainPrint (t : Text) : Text :=
  Text.unlines ((laidOut screenWidth (.plain (printable t))).map Painted.text) ++ ['\n']

def inlineText : Value → Except Trouble Painted
  | .text t => shown t
  | v => .ok (.plain (v.display.filter fun c => !isObeyed c))

def standsAlone : Value → Bool
  | .list _ => true
  | .table _ => true
  | _ => false

/-- The line of texts with blanks between them; no texts make no line. -/
def inlineLine (line : List Painted) : List Painted :=
  if line.isEmpty then [] else [Painted.joined line]

/-- The texts that values are printed as, those of the line so far being `line`. -/
def humanLines (line : List Painted) : List Value → Except Trouble (List Painted)
  | [] => .ok (inlineLine line)
  | v :: rest =>
    if standsAlone v then
      (humanLines [] rest).map fun below => inlineLine line ++ .plain (spread screenWidth v) :: below
    else do humanLines (line ++ [← inlineText v]) rest

/-- What is printed for a person; without a value, an empty line. -/
def humanPrint (values : List Value) : Except Trouble Text :=
  match values with
  | [] => .ok ['\n']
  | values => do
    let lines ← (← humanLines [] values).mapM onScreen
    return lines.flatMap fun line => line ++ ['\n']

end SdkGraft.Console
