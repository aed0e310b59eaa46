/-
# Help

The texts that explain the program and its commands.
-/

import CanvasPress.CommandLine.Invocation

namespace CanvasPress.CommandLine

/-- The name and the version of the program. -/
def versionText : String :=
  "canvas-render 0.1.0\n"

/-- A line of help: what is explained, and its explanation in a column of its own. -/
def helpLine (width : Nat) (entry : String × String) : String :=
  "  " ++ entry.1 ++ String.ofList (List.replicate (width - entry.1.length) ' ') ++ "  " ++
    entry.2 ++ "\n"

/-- A titled list of explanations in aligned columns. -/
def helpTable (title : String) (entries : List (String × String)) : String :=
  let width := (entries.map fun e => e.1.length).foldl max 0
  title ++ ":\n" ++ String.join (entries.map (helpLine width))

/-- What a command does. -/
def Verb.about : Verb → String
  | render => "Render a single canvas document"
  | batch => "Render a JSON array of canvas documents"
  | templates => "Print the SVG template for a canvas type and theme"

/-- What a switch does. -/
def Topic.about : Topic → String
  | config => "JSON renderer configuration"
  | concurrency => "Items rendered per group (default: min(CPUs, maxConcurrentRenders))"
  | format => "svg|vector, png|jpeg|raster, pdf|paginatedDocument"
  | noMetadata => "Omit the embedded <metadata> element"
  | kind => "[default: " ++ standardKind ++ "]"
  | _ => ""

/-- The name of a switch's value in help. -/
def Switch.valueName (s : Switch) : String :=
  String.ofList (s.long.toList.map fun c => if c = '-' then '_' else c.toUpper)

/-- How a switch is written. -/
def Switch.usage (s : Switch) : String :=
  (match s.letter with
    | some c => "-" ++ String.singleton c ++ ", "
    | none => "    ") ++
    "--" ++ s.long ++ (if s.operand = .nothing then "" else " <" ++ s.valueName ++ ">")

/-- The switch that asks for help. -/
def helpEntry : String × String :=
  ("-h, --help", "Print help")

/-- The switches that a command has. -/
def switchTable (table : List Switch) (more : List (String × String)) : String :=
  helpTable "Options" ((table.map fun s => (s.usage, s.topic.about)) ++ helpEntry :: more)

/-- The explanation of a command. -/
def Verb.help (v : Verb) : String :=
  v.about ++ "\n\nUsage: canvas-render " ++ v.name ++ " [OPTIONS]" ++
    (if v = templates then "" else " --input <INPUT>") ++ "\n\n" ++ switchTable (Switch.ofVerb v) []

/-- What the command does that explains the others. -/
def helpAbout : String :=
  "Print this message or the help of the given subcommand(s)"

/-- The explanation of the command that explains the others. -/
def helpHelp : String :=
  helpAbout ++ "\n\nUsage: canvas-render help [COMMAND]...\n\n" ++
    helpTable "Arguments" [("[COMMAND]...", "Print help for the subcommand(s)")]

/-- The explanation of the program. -/
def programHelp : String :=
  "Render business canvases to SVG, PNG/JPEG or PDF\n\n" ++
    "Usage: canvas-render [OPTIONS] <COMMAND>\n\n" ++
    helpTable "Commands" ((Verb.all.map fun v => (v.name, v.about)) ++
      [("help", helpAbout)]) ++ "\n" ++
    switchTable [Switch.config] [("-V, --version", "Print version")]

/-- The text that explains something. -/
def helpText : Subject → String
  | .program => programHelp
  | .command verb => verb.help
  | .help => helpHelp

end CanvasPress.CommandLine
