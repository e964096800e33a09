/-
The command line of the program.

What the program is to do is named by a command.  Options may stand before the
command if they concern every command, and behind it in any order, mixed with the
arguments of the command.  An option with a long name takes its value from behind an
equals sign, or else from the next word; options with short names may be written in
one word, of which the last one may take a value.  Behind two hyphens there are
only arguments.  No option may be given twice in one place.
-/
import Draftsman.Settings.Basic
import Draftsman.Text.Cut

namespace Draftsman.Program

open Draftsman.Text (cut)

/-! ### Commands -/

/-- What a run of the program is asked for. -/
structure Order where
  task : String
  /-- Where the diagram is to be written. -/
  output : String
  /-- Whether the result is to be printed as JSON. -/
  json : Bool
  overrides : Settings.Overrides
  deriving DecidableEq, Repr

/-- What the program can do. -/
inductive Command where
  /-- Let a model draw a diagram. -/
  | run (order : Order)
  /-- Show which service would be used. -/
  | providers (provider : Option String)
  /-- Draw the diagram that a file spells. -/
  | render (file : String) (output : Option String)
  deriving DecidableEq, Repr

/-- A command and what concerns every command. -/
structure CommandLine where
  /-- The file with the settings. -/
  config : Option String
  verbose : Bool
  command : Command
  deriving DecidableEq, Repr

/-- Why there is no command to carry out. -/
inductive Stop where
  /-- Help was asked for. -/
  | help
  /-- The version was asked for. -/
  | version
  /-- The command line makes no sense. -/
  | misuse
  deriving DecidableEq, Repr

/-! ### Options -/

/-- The kinds of options and arguments. -/
inductive Kind where
  | flag
  | text
  /-- A path, which is never empty. -/
  | path
  /-- A natural number of 32 bits. -/
  | count
  | help
  | version
  deriving DecidableEq, Repr

/-- Whether an option of a kind has a value. -/
def Kind.takesValue (kind : Kind) : Bool := kind == .text || kind == .path || kind == .count

/-- A natural number of 32 bits, perhaps with a sign. -/
def count? (text : String) : Option UInt32 :=
  match text.toList with
  | '-' :: ds => if !ds.isEmpty && ds.all (· == '0') then some 0 else none
  | ds => Settings.word32? ds

/-- Whether a word may be a value of a kind. -/
def Kind.accepts (value : String) : Kind → Bool
  | .path => !value.isEmpty
  | .count => (count? value).isSome
  | _ => true

/-- An option. -/
structure Switch where
  name : String
  short : Option Char
  kind : Kind
  deriving DecidableEq, Repr

/-- The options that concern every command. -/
def globalSwitches : List Switch :=
  [⟨"config", none, .path⟩, ⟨"verbose", some 'v', .flag⟩, ⟨"help", some 'h', .help⟩]

/-- The option that says where to write. -/
def outputSwitch : Switch := ⟨"output", some 'o', .path⟩

/-- What may be written in one place of a command line. -/
structure Grammar where
  switches : List Switch
  /-- The kinds of the arguments, all of which have to be there. -/
  arguments : List Kind
  deriving DecidableEq, Repr

/-- What may be written before the command. -/
def beforeCommand : Grammar := ⟨⟨"version", some 'V', .version⟩ :: globalSwitches, []⟩

/-- What may be written behind `run`. -/
def behindRun : Grammar :=
  ⟨[outputSwitch, ⟨"json", none, .flag⟩, ⟨"max-iterations", none, .count⟩,
      ⟨"provider", none, .text⟩, ⟨"model", none, .text⟩] ++ globalSwitches, [.text]⟩

/-- What may be written behind `providers`. -/
def behindProviders : Grammar := ⟨⟨"provider", none, .text⟩ :: globalSwitches, []⟩

/-- What may be written behind `render`. -/
def behindRender : Grammar := ⟨outputSwitch :: globalSwitches, [.path]⟩

/-! ### Reading words -/

/-- What has been read in one place of a command line. -/
structure Reading where
  /-- The options given, with their values. -/
  options : List (String × String)
  /-- The arguments, the first one first. -/
  arguments : List String
  /-- The option whose value is the next word. -/
  pending : Option Switch
  /-- Whether two hyphens have been read. -/
  onlyArguments : Bool
  deriving DecidableEq, Repr

namespace Reading

/-- Nothing has been read. -/
def empty : Reading := ⟨[], [], none, false⟩

/-- The value of an option. -/
def value? (r : Reading) (name : String) : Option String := r.options.lookup name

/-- Whether an option was given. -/
def has (r : Reading) (name : String) : Bool := (r.value? name).isSome

/-- Adds an option with its value. -/
def put (r : Reading) (s : Switch) (value : String) : Except Stop Reading :=
  if r.has s.name || !s.kind.accepts value then .error .misuse
  else .ok { r with options := (s.name, value) :: r.options, pending := none }

/-- Adds an option that has no value. -/
def set (r : Reading) (s : Switch) : Except Stop Reading :=
  match s.kind with
  | .help => .error .help
  | .version => .error .version
  | _ => r.put s ""

/-- Adds an option whose value is the next word. -/
def await (r : Reading) (s : Switch) : Except Stop Reading := .ok { r with pending := some s }

/-- Adds an argument. -/
def putArgument (g : Grammar) (r : Reading) (word : String) : Except Stop Reading :=
  match g.arguments[r.arguments.length]? with
  | some kind =>
    if kind.accepts word then .ok { r with arguments := r.arguments ++ [word] } else .error .misuse
  | none => .error .misuse

/-- Reads an option with a long name, which stands without its hyphens. -/
def long (g : Grammar) (r : Reading) (word : List Char) : Except Stop Reading :=
  let (name, attached) :=
    match cut '=' word with
    | some (name, value) => (name, some (String.ofList value))
    | none => (word, none)
  match g.switches.find? fun s => s.name == String.ofList name, attached with
  | some s, some value => if s.kind.takesValue then r.put s value else .error .misuse
  | some s, none => if s.kind.takesValue then r.await s else r.set s
  | none, _ => .error .misuse

/-- Reads options with short names, which stand in one word without its hyphen. -/
def short (g : Grammar) : Reading → List Char → Except Stop Reading
  | r, [] => .ok r
  | r, c :: rest =>
    match g.switches.find? fun s => s.short == some c with
    | none => .error .misuse
    | some s =>
      if s.kind.takesValue then
        match rest with
        | [] => r.await s
        | '=' :: value => r.put s (String.ofList value)
        | value => r.put s (String.ofList value)
      else do short g (← r.set s) rest

/-- Whether a word looks like an option. -/
def isOption (word : List Char) : Bool := word.head? == some '-' && word != ['-']

/-- Reads a word. -/
def add (g : Grammar) (r : Reading) (word : String) : Except Stop Reading :=
  if r.onlyArguments then r.putArgument g word
  else
    match r.pending with
    | some s => if isOption word.toList then .error .misuse else r.put s word
    | none =>
      match word.toList with
      | ['-'] => r.putArgument g word
      | ['-', '-'] => .ok { r with onlyArguments := true }
      | '-' :: '-' :: rest => r.long g rest
      | '-' :: rest => r.short g rest
      | _ => r.putArgument g word

/-- What has been read, if nothing is missing. -/
def finish (g : Grammar) (r : Reading) : Except Stop Reading :=
  if r.pending.isSome || r.arguments.length < g.arguments.length then .error .misuse else .ok r

/-- Reads all words in one place. -/
def ofWords (g : Grammar) (words : List String) : Except Stop Reading := do
  (← words.foldlM (add g) empty).finish g

/-- Whether the next word may name a command. -/
def expectsCommand (r : Reading) : Bool := r.pending.isNone && !r.onlyArguments

end Reading

/-! ### Whole command lines -/

/-- The names of the commands. -/
def commandNames : List String := ["run", "providers", "render", "help"]

/-- What stands before the command, the name of the command, and what stands behind it. -/
def splitAtCommand : Reading → List String → Except Stop (Reading × String × List String)
  | _, [] => .error .misuse
  | r, word :: rest =>
    if r.expectsCommand && commandNames.contains word then .ok (r, word, rest)
    else do splitAtCommand (← r.add beforeCommand word) rest

/-- The first argument. -/
def Reading.argument (r : Reading) : String := r.arguments.headD ""

/-- What `run` is asked for. -/
def Reading.order (r : Reading) : Order where
  task := r.argument
  output := (r.value? "output").getD "diagram.svg"
  json := r.has "json"
  overrides :=
    { provider := r.value? "provider"
      model := r.value? "model"
      maxIterations := (r.value? "max-iterations").bind count? }

/-- A command line with a command, `above` being what stands before the command. -/
def CommandLine.ofReadings (above : Reading) (r : Reading) (command : Command) : CommandLine where
  config := (r.value? "config").or (above.value? "config")
  verbose := above.has "verbose" || r.has "verbose"
  command

/-- Why there is nothing to do if help is asked for by a command. -/
def helpOn (words : List String) : Stop :=
  match words with
  | [] => .help
  | [name] => if commandNames.contains name then .help else .misuse
  | _ => .misuse

/-- The command line that words spell. -/
def CommandLine.parse (words : List String) : Except Stop CommandLine := do
  let (above, name, rest) ← splitAtCommand .empty words
  match name with
  | "run" => do
    let r ← Reading.ofWords behindRun rest
    .ok (.ofReadings above r (.run r.order))
  | "providers" => do
    let r ← Reading.ofWords behindProviders rest
    .ok (.ofReadings above r (.providers (r.value? "provider")))
  | "render" => do
    let r ← Reading.ofWords behindRender rest
    .ok (.ofReadings above r (.render r.argument (r.value? "output")))
  | _ => .error (helpOn rest)

/-! ### What the program says about itself -/

/-- The name of the program with its version. -/
def versionText : String := "figagent 0.1.0\n"

/-- How the program is used. -/
def usageText : String :=
  "Usage: figagent [OPTIONS] <COMMAND>\n\n" ++
    "Commands:\n" ++
    "  run TASK       Run the agent on a task\n" ++
    "  providers      Show which LLM backend would be used\n" ++
    "  render FILE    Render a diagram spec file without a model\n" ++
    "  help           Print this message\n\n" ++
    "Options:\n" ++
    "      --config PATH          Configuration file\n" ++
    "  -v, --verbose              Log at debug level\n" ++
    "  -o, --output PATH          Where to write the SVG (run, render)\n" ++
    "      --json                 Print the run result as JSON on stdout (run)\n" ++
    "      --max-iterations N     Override the iteration budget (run)\n" ++
    "      --provider NAME        Backend name or alias (run, providers)\n" ++
    "      --model NAME           Model identifier for the selected backend (run)\n" ++
    "  -h, --help                 Print help\n" ++
    "  -V, --version              Print version\n"

end Draftsman.Program
