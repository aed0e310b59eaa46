/-
# Invocations

What the words of a command line ask for.  A command is chosen by name; switches
stand behind it in any order and each at most once.  The switch that names the
configuration may also stand in front of the command; where it stands in both
places, the later one counts.
-/

import CanvasPress.Decimal.Power
import CanvasPress.Text.Ascii

namespace CanvasPress.CommandLine

/-- The commands. -/
inductive Verb where
  | render
  | batch
  | templates
deriving DecidableEq, Inhabited

namespace Verb

/-- All commands, in the order in which help lists them. -/
def all : List Verb :=
  [render, batch, templates]

/-- The name of a command. -/
def name : Verb → String
  | render => "render"
  | batch => "batch"
  | templates => "templates"

/-- The command with a name. -/
def ofName? (s : String) : Option Verb :=
  all.find? fun v => v.name == s

end Verb

/-- What a switch takes. -/
inductive Operand where
  | nothing
  | text
  /-- A path, which is never empty. -/
  | path
  /-- A number up to a bound, without a minus sign. -/
  | natural (bound : Nat)
  /-- A number from zero up to a bound, with either sign in front: minus zero is zero. -/
  | integer (bound : Nat)
deriving DecidableEq, Inhabited

/-- What a switch is about. -/
inductive Topic where
  | config
  | input
  | outputDir
  | concurrency
  | format
  | theme
  | width
  | height
  | dpi
  | noMetadata
  | kind
deriving DecidableEq, Inhabited

/-- A switch: its topic, its long name, its letter if it has one, and what it takes. -/
structure Switch where
  topic : Topic
  long : String
  letter : Option Char
  operand : Operand
deriving DecidableEq, Inhabited

namespace Switch

/-- The greatest number of 32 bits. -/
def wordBound : Nat := twoTo 32 - 1

/-- The greatest number of 64 bits. -/
def longBound : Nat := twoTo 64 - 1

/-- The switch that may stand in front of a command and behind it. -/
def config : Switch :=
  ⟨.config, "config", none, .path⟩

/-- The switches that say where documents come from and where artifacts go. -/
def files : List Switch :=
  [⟨.input, "input", some 'i', .path⟩, ⟨.outputDir, "output-dir", some 'o', .path⟩]

/-- The switches that override render options. -/
def options : List Switch :=
  [⟨.format, "format", some 'f', .text⟩, ⟨.theme, "theme", some 't', .text⟩,
    ⟨.width, "width", none, .integer wordBound⟩, ⟨.height, "height", none, .integer wordBound⟩,
    ⟨.dpi, "dpi", none, .integer wordBound⟩, ⟨.noMetadata, "no-metadata", none, .nothing⟩]

/-- The switches behind a command. -/
def ofVerb : Verb → List Switch
  | .render => config :: files ++ options
  | .batch =>
    config :: files ++ ⟨.concurrency, "concurrency", some 'c', .natural longBound⟩ :: options
  | .templates =>
    [⟨.kind, "canvas-type", none, .text⟩, config, ⟨.theme, "theme", none, .text⟩]

end Switch

/-- The number that digits write. -/
def readDigits? (digits : List Char) : Option Nat :=
  if digits.isEmpty || !digits.all Char.isDigit then none
  else some (digits.foldl (fun n c => 10 * n + (c.toNat - 48)) 0)

/-- The number that a text writes: digits, with a sign at most. -/
def readNumber? (s : String) : Option Int :=
  match s.toList with
  | '+' :: digits => (readDigits? digits).map Int.ofNat
  | '-' :: digits => (readDigits? digits).map fun n => -(n : Int)
  | digits => (readDigits? digits).map Int.ofNat

/-- Whether a text writes a number from zero up to a bound. -/
def isWithin (bound : Nat) (s : String) : Bool :=
  match readNumber? s with
  | some n => 0 ≤ n ∧ n ≤ bound
  | none => false

/-- Whether a switch takes a value. -/
def Operand.accepts : Operand → String → Bool
  | nothing, _ => false
  | text, _ => true
  | path, s => !s.isEmpty
  | natural bound, s => s.toList.head? != some '-' && isWithin bound s
  | integer bound, s => isWithin bound s

/-- The switches that were given with their values, the latest first. -/
abbrev Given := List (Topic × String)

namespace Given

/-- The value of a topic. -/
def value? (g : Given) (topic : Topic) : Option String :=
  (g.find? fun entry => entry.1 == topic).map (·.2)

/-- The number of a topic. -/
def number? (g : Given) (topic : Topic) : Option Nat :=
  ((g.value? topic).bind readNumber?).map Int.toNat

/-- Whether a topic was given. -/
def has (g : Given) (topic : Topic) : Bool :=
  (g.value? topic).isSome

end Given

/-- How the reading of words ends. -/
inductive Reading where
  /-- There are no more words, or the first of them is no switch. -/
  | given (switches : Given) (rest : List String)
  | help
  | version
  | misuse
deriving DecidableEq, Inhabited

/-- A word that begins a switch. -/
def isSwitch (word : String) : Bool :=
  match word.toList with
  | '-' :: _ :: _ => true
  | _ => false

/-- Add a switch with its value, unless it was given or does not take that value. -/
def add? (g : Given) (switch : Switch) (value : String) : Option Given :=
  if g.has switch.topic || !switch.operand.accepts value then none
  else some ((switch.topic, value) :: g)

/-- What one word contributes. -/
inductive Word where
  | help
  | version
  /-- A switch, and the value that is written in the same word. -/
  | switch (s : Switch) (value : Option String)
  /-- From here on no word is a switch. -/
  | finish
  | plain
  | unknown
deriving DecidableEq, Inhabited

/-- Read a word that begins with two hyphens. -/
def Word.ofLong (table : List Switch) (hasVersion : Bool) (body : List Char) : Word :=
  let name := String.ofList (body.takeWhile (· ≠ '='))
  let value :=
    match body.dropWhile (· ≠ '=') with
    | _ :: behind => some (String.ofList behind)
    | [] => none
  if body.isEmpty then finish
  else if name = "help" then if value.isNone then help else unknown
  else if name = "version" ∧ hasVersion then if value.isNone then version else unknown
  else
    match table.find? fun s => s.long == name with
    | some s => switch s value
    | none => unknown

/-- Read a word that begins with one hyphen. -/
def Word.ofLetter (table : List Switch) (hasVersion : Bool) (letter : Char) (rest : List Char) :
    Word :=
  if letter = 'h' then help
  else if letter = 'V' ∧ hasVersion then version
  else
    match table.find? fun s => s.letter == some letter with
    | none => unknown
    | some s =>
      match rest with
      | [] => switch s none
      | '=' :: value => switch s (some (String.ofList value))
      | value => switch s (some (String.ofList value))

/-- Read a word. -/
def Word.read (table : List Switch) (hasVersion : Bool) (word : String) : Word :=
  match word.toList with
  | '-' :: '-' :: body => .ofLong table hasVersion body
  | '-' :: letter :: rest => .ofLetter table hasVersion letter rest
  | _ => .plain

/-- Read switches from words up to a word that is none. -/
def readSwitches (table : List Switch) (hasVersion : Bool) :
    Given → List String → Reading
  | g, [] => .given g []
  | g, word :: rest =>
    match Word.read table hasVersion word with
    | .help => .help
    | .version => .version
    | .unknown => .misuse
    | .plain => .given g (word :: rest)
    | .finish => if rest.isEmpty then .given g [] else .misuse
    | .switch s (some value) =>
      match add? g s value with
      | some g => readSwitches table hasVersion g rest
      | none => .misuse
    | .switch s none =>
      if s.operand = .nothing then
        if g.has s.topic then .misuse
        else readSwitches table hasVersion ((s.topic, "") :: g) rest
      else
        match rest with
        | value :: rest =>
          if isSwitch value then .misuse
          else
            match add? g s value with
            | some g => readSwitches table hasVersion g rest
            | none => .misuse
        | [] => .misuse

/-- The switches that override render options. -/
structure Overrides where
  format : Option String
  theme : Option String
  width : Option Nat
  height : Option Nat
  dpi : Option Nat
  noMetadata : Bool
deriving DecidableEq, Inhabited

/-- The overrides among the switches given. -/
def Overrides.ofGiven (g : Given) : Overrides where
  format := g.value? .format
  theme := g.value? .theme
  width := g.number? .width
  height := g.number? .height
  dpi := g.number? .dpi
  noMetadata := g.has .noMetadata

/-- What a command is to do. -/
inductive Command where
  | render (input : String) (outputDir : Option String) (overrides : Overrides)
  | batch (input : String) (outputDir : Option String) (concurrency : Option Nat)
      (overrides : Overrides)
  | templates (kindName : String) (theme : Option String)
deriving DecidableEq, Inhabited

/-- The kind whose template is printed when none is named. -/
def standardKind : String := "businessModel"

/-- What a command is to do, if all that it needs is given. -/
def Command.ofGiven? (verb : Verb) (g : Given) : Option Command :=
  match verb with
  | .render =>
    (g.value? .input).map fun input => .render input (g.value? .outputDir) (.ofGiven g)
  | .batch =>
    (g.value? .input).map fun input =>
      .batch input (g.value? .outputDir) (g.number? .concurrency) (.ofGiven g)
  | .templates => some (.templates ((g.value? .kind).getD standardKind) (g.value? .theme))

/-- A command with the configuration that it works under. -/
structure Invocation where
  config : Option String
  command : Command
deriving DecidableEq, Inhabited

/-- What can be explained. -/
inductive Subject where
  | program
  | command (verb : Verb)
  /-- The command that explains the others. -/
  | help
deriving DecidableEq, Inhabited

/-- What the words of a command line ask for. -/
inductive Wish where
  | perform (invocation : Invocation)
  | explain (subject : Subject)
  | tellVersion
  /-- The words make no sense. -/
  | misuse
deriving DecidableEq, Inhabited

/-- Read the words behind a command. -/
def Wish.ofVerb (verb : Verb) (config : Option String) (words : List String) : Wish :=
  match readSwitches (Switch.ofVerb verb) false [] words with
  | .help => .explain (.command verb)
  | .version => .misuse
  | .misuse => .misuse
  | .given g [] =>
    match Command.ofGiven? verb g with
    | some command => .perform ⟨g.value? .config <|> config, command⟩
    | none => .misuse
  | .given _ (_ :: _) => .misuse

/-- Read the words behind the name of the command that explains the others. -/
def Wish.ofTopics : List String → Wish
  | [] => .explain .program
  | [name] =>
    if name = "help" then .explain .help
    else
      match Verb.ofName? name with
      | some verb => .explain (.command verb)
      | none => .misuse
  | _ => .misuse

/-- Read all words. -/
def Wish.ofWords (words : List String) : Wish :=
  match readSwitches [Switch.config] true [] words with
  | .help => .explain .program
  | .version => .tellVersion
  | .misuse => .misuse
  | .given _ [] => .misuse
  | .given g (name :: rest) =>
    if name = "help" then .ofTopics rest
    else
      match Verb.ofName? name with
      | some verb => .ofVerb verb (g.value? .config) rest
      | none => .misuse

end CanvasPress.CommandLine
