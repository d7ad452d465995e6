import RouteParams.CommandLine.Arguments

/-!
The grammars of the program and its two commands, with their usage and help texts.
-/
namespace RouteParams.CommandLine

def lines (texts : List String) : String :=
  String.join (texts.map fun text => text ++ "\n")

def helpSwitch : Switch := ⟨["-h", "--help"], .help⟩

def topUsage : String :=
  lines ["usage: wren [-h] \x7bresolve,classify\x7d ..."]

/-- The program takes the name of a command and leaves the words after it to the command. -/
def topGrammar : Grammar where
  program := "wren"
  usage := topUsage
  help := topUsage ++ lines
    ["",
     "Wren — route param resolution for nested layout trees.",
     "",
     "positional arguments:",
     "  \x7bresolve,classify\x7d",
     "    resolve           Resolve route params for a pathname",
     "    classify          Classify loader tree segments",
     "",
     "options:",
     "  -h, --help          show this help message and exit"]
  switches := [helpSwitch]
  slots := [⟨"command", .remainder, false⟩]

def resolveUsage : String :=
  lines
    ["usage: wren resolve [-h] [--param NAME=VALUE] [--fallback NAME:TYPE]",
     "                    [--allow-groups] [--keep-duplicates]",
     "                    tree pathname"]

def resolveGrammar : Grammar where
  program := "wren resolve"
  usage := resolveUsage
  help := resolveUsage ++ lines
    ["",
     "positional arguments:",
     "  tree                  Path to a JSON loader tree",
     "  pathname              Matched pathname (e.g. /blog/[slug])",
     "",
     "options:",
     "  -h, --help            show this help message and exit",
     "  --param NAME=VALUE    Param already bound by an enclosing layout (repeat for",
     "                        a list)",
     "  --fallback NAME:TYPE  Param already known to be a fallback (TYPE: dynamic,",
     "                        catchall, optional-catchall)",
     "  --allow-groups        Accept route group and parallel route segments in the",
     "                        pathname",
     "  --keep-duplicates     Record a fallback param again when its name is already",
     "                        recorded"]
  switches :=
    [helpSwitch, ⟨["--param"], .value⟩, ⟨["--fallback"], .value⟩, ⟨["--allow-groups"], .flag⟩,
     ⟨["--keep-duplicates"], .flag⟩]
  slots := [⟨"tree", .one, true⟩, ⟨"pathname", .one, true⟩]

def classifyUsage : String :=
  lines ["usage: wren classify [-h] segments [segments ...]"]

def classifyGrammar : Grammar where
  program := "wren classify"
  usage := classifyUsage
  help := classifyUsage ++ lines
    ["",
     "positional arguments:",
     "  segments    Raw segments (e.g. '[...slug]')",
     "",
     "options:",
     "  -h, --help  show this help message and exit"]
  switches := [helpSwitch]
  slots := [⟨"segments", .several, true⟩]

end RouteParams.CommandLine
