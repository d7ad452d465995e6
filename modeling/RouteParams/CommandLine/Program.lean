import RouteParams.CommandLine.Resolve
import RouteParams.CommandLine.Table
import RouteParams.CommandLine.Usage

/-!
The program: which command a command line asks for, and what the program answers. Wrong words end it
with status two and a failed command with status one.
-/
namespace RouteParams.CommandLine

structure Outcome where
  status : Nat
  output : String
  errors : String
  deriving DecidableEq

namespace Outcome

def success (output : String) : Outcome := ⟨0, output, ""⟩

def failure (message : String) : Outcome := ⟨1, "", "Error: " ++ message ++ "\n"⟩

def ofStop (grammar : Grammar) : Stop → Outcome
  | .help => success grammar.help
  | .wrong message =>
    ⟨2, "", grammar.usage ++ grammar.program ++ ": error: " ++ message ++ "\n"⟩

end Outcome

inductive Command where
  | resolve (request : ResolveRequest)
  | classify (segments : List String)
  deriving DecidableEq

namespace Command

def grammars : List (String × Grammar) :=
  [("resolve", resolveGrammar), ("classify", classifyGrammar)]

def resolveRequest (reading : Reading) : ResolveRequest where
  file := (reading.texts "tree").headD ""
  pathname := (reading.texts "pathname").headD ""
  params := reading.texts "--param"
  fallbacks := reading.texts "--fallback"
  options :=
    ⟨!reading.mentions "--keep-duplicates", !reading.mentions "--allow-groups"⟩

def ofReading (name : String) (reading : Reading) : Command :=
  if name = "resolve" then .resolve (resolveRequest reading)
  else .classify (reading.texts "segments")

def unknownName (name : String) : Stop :=
  .wrong ("argument command: invalid choice: " ++ Text.quoted name ++ " (choose from "
    ++ String.intercalate ", " (grammars.map fun command => Text.quoted command.1) ++ ")")

/-- Words that neither the program nor the command takes are reported together. -/
def checkLeftovers (leftovers : List String) : Except Outcome Unit :=
  if leftovers.isEmpty then .ok ()
  else .error (.ofStop topGrammar
    (.wrong ("unrecognized arguments: " ++ String.intercalate " " leftovers)))

def ofArguments (arguments : List String) : Except Outcome Command := do
  let top ← (topGrammar.read arguments).mapError (.ofStop topGrammar)
  match top.texts "command" with
  | [] =>
    checkLeftovers top.leftovers
    .error (.success topGrammar.help)
  | name :: words =>
    match grammars.lookup name with
    | none => .error (.ofStop topGrammar (unknownName name))
    | some grammar =>
      let reading ← (grammar.read words).mapError (.ofStop grammar)
      checkLeftovers (top.leftovers ++ reading.leftovers)
      pure (ofReading name reading)

end Command

/-- The answer of the resolve command: one line of JSON, or the message of the step that failed. -/
def ResolveRequest.outcome (request : ResolveRequest)
    (content : Except FileError (List UInt8)) : Outcome :=
  match request.run content with
  | .error error => .failure error.message
  | .ok store => .success ((storeJson store).print ++ "\n")

def run (readFile : String → Except FileError (List UInt8)) (arguments : List String) : Outcome :=
  match Command.ofArguments arguments with
  | .error outcome => outcome
  | .ok (.resolve request) => request.outcome (readFile request.file)
  | .ok (.classify segments) => .success (lines (Table.ofSegments segments))

end RouteParams.CommandLine
