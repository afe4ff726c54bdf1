import SdkGraft.Source.Indent
import SdkGraft.Credentials

/-!
# The inserted code

* `Sdk` : the names by which the inserted code calls the library;
* `branch` : the statement that starts the library and looks at its answer;
* `constructorBlock` : a constructor around it;
* `snippet` : either of them as lines of a document.
-/

namespace SdkGraft.Source

/-- The names by which the inserted code calls the library. -/
structure Sdk where
  moduleName : Text
  /-- The call that starts the library. -/
  initCall : Text
  /-- The answer that means success. -/
  successCase : Text
  deriving DecidableEq, Repr

def snippetIndent : Text := "    ".toList

/-- The first line of the branch: the call with the credentials as string literals. -/
def callLine (sdk : Sdk) (c : Credentials) : Text :=
  "if ".toList ++ sdk.initCall ++ "(clientID: \"".toList ++ c.clientId ++ "\", clientSecret: \"".toList
    ++ c.clientSecret ++ "\") == ".toList ++ sdk.successCase ++ " \x7b".toList

def echoLine (sdk : Sdk) : Text :=
  "    //  ".toList ++ sdk.moduleName
    ++ ".setEchoCode(echoCode: \"<customer user identifier, no personal data>\")".toList

def branch (sdk : Sdk) (c : Credentials) : Text :=
  Text.unlines
    [callLine sdk c,
      "    // Register an echo code here if users must be identified per customer".toList,
      echoLine sdk,
      "\x7d else \x7b".toList,
      "    // Initialization failed".toList,
      "\x7d".toList]

/-- One level deeper, unless the line is empty. -/
def deeper (line : Text) : Text := if line.isEmpty then line else snippetIndent ++ line

/-- A constructor that does nothing but start the library. -/
def constructorBlock (sdk : Sdk) (c : Credentials) : Text :=
  "init() \x7b\n".toList ++ Text.unlines ((Text.lines (branch sdk c)).map deeper) ++ "\n\x7d".toList

/-- The inserted code with or without a constructor around it. -/
def snippetCode (sdk : Sdk) (c : Credentials) (withConstructor : Bool) : Text :=
  if withConstructor then constructorBlock sdk c else branch sdk c

/-- The inserted code as lines of a document, the outermost at `base`. -/
def snippet (sdk : Sdk) (c : Credentials) (base unit : Text) (withConstructor : Bool) : List Text :=
  reindent (snippetCode sdk c withConstructor) base unit snippetIndent.length

end SdkGraft.Source
