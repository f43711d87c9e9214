/-!
# Options on a command line

Options come in any order, each at most once: `--name value`, `--name=value`, `-n value`, `-nvalue`
or `-n=value`, or a bare `--name` for an option without a value.  The words are taken from left to
right, so a request for the version or the help is met only if nothing before it is wrong.
-/

namespace DatagramSession.CommandLine

/-- An option that a program knows. -/
structure Spec where
  name : String
  /-- The letter of the short form; only options with a value have one. -/
  short : Option Char
  /-- Which values the option takes, or none when it takes no value. -/
  accepts : Option (String → Bool)
  default : String
  /-- What the help says about the option. -/
  about : String

/-- The options of a command line with their values, latest first. -/
abbrev Given := List (String × String)

/-- Why a program ends before it has begun. -/
inductive Halt where
  | usage
  | help
  | version
deriving DecidableEq, Repr

namespace Spec

/-- The value on the command line, or the default. -/
def value (spec : Spec) (given : Given) : String := (given.lookup spec.name).getD spec.default

def isGiven (spec : Spec) (given : Given) : Bool := (given.lookup spec.name).isSome

/-- The option is given a value, unless it has one or refuses this one. -/
def give (spec : Spec) (value : String) (given : Given) : Except Halt Given :=
  let isGood := match spec.accepts with
    | some accepts => accepts value
    | none => true
  if spec.isGiven given || !isGood then .error .usage
  else .ok ((spec.name, value) :: given)

end Spec

/-- A word that is an option and cannot be a value. -/
def isOption (word : String) : Bool :=
  match word.toList with
  | '-' :: _ :: _ => true
  | _ => false

/-- What one word says. -/
inductive Word where
  | halt (reason : Halt)
  /-- An option that is complete. -/
  | complete (spec : Spec) (value : String)
  /-- An option whose value is the next word. -/
  | pending (spec : Spec)
  /-- No option follows this word. -/
  | last

/-- The text before the first equals sign, and the text after it. -/
def splitEquals (cs : List Char) : String × Option String :=
  match cs.span (· ≠ '=') with
  | (name, _ :: value) => (String.ofList name, some (String.ofList value))
  | (name, []) => (String.ofList name, none)

def longWord (specs : List Spec) (cs : List Char) : Word :=
  match splitEquals cs with
  | ("help", none) => .halt .help
  | ("version", none) => .halt .version
  | (name, value?) =>
    match specs.find? (·.name = name) with
    | none => .halt .usage
    | some spec =>
      match spec.accepts, value? with
      | none, none => .complete spec ""
      | none, some _ => .halt .usage
      | some _, some value => .complete spec value
      | some _, none => .pending spec

def shortWord (specs : List Spec) (c : Char) (tail : List Char) : Word :=
  if c = 'h' then .halt .help
  else if c = 'V' then .halt .version
  else
    match specs.find? (·.short = some c), tail with
    | none, _ => .halt .usage
    | some spec, [] => .pending spec
    | some spec, '=' :: value => .complete spec (String.ofList value)
    | some spec, value => .complete spec (String.ofList value)

def readWord (specs : List Spec) (word : String) : Word :=
  match word.toList with
  | ['-', '-'] => .last
  | '-' :: '-' :: cs => longWord specs cs
  | '-' :: c :: tail => shortWord specs c tail
  | _ => .halt .usage

/-- The options that the words give, after those already given. -/
def readWords (specs : List Spec) : Given → List String → Except Halt Given
  | given, [] => .ok given
  | given, word :: rest =>
    match readWord specs word with
    | .halt reason => .error reason
    | .last => if rest.isEmpty then .ok given else .error .usage
    | .complete spec value => do
      let given ← spec.give value given
      readWords specs given rest
    | .pending spec =>
      match rest with
      | [] => .error .usage
      | value :: rest =>
        if isOption value then .error .usage
        else do
          let given ← spec.give value given
          readWords specs given rest

/-- The options of a whole command line. -/
def read (specs : List Spec) (words : List String) : Except Halt Given := readWords specs [] words

/-! ## Help -/

/-- A name in capitals, with underscores. -/
def placeholder (name : String) : String :=
  String.ofList (name.toList.map fun c => if c = '-' then '_' else c.toUpper)

/-- How an option is written, and what it does. -/
def Spec.helpRow (spec : Spec) : String × String :=
  let short := match spec.short with
    | some c => "-" ++ String.ofList [c] ++ ", "
    | none => "    "
  match spec.accepts with
  | some _ =>
    (short ++ "--" ++ spec.name ++ " <" ++ placeholder spec.name ++ ">",
      spec.about ++ " [default: " ++ spec.default ++ "]")
  | none => (short ++ "--" ++ spec.name, spec.about)

def helpText (program : String) (specs : List Spec) : String :=
  let rows := specs.map Spec.helpRow
    ++ [("-h, --help", "Print help"), ("-V, --version", "Print version")]
  let width := rows.foldl (fun width row => max width row.1.length) 0
  let lines := rows.map fun (how, what) =>
    "  " ++ how ++ String.ofList (List.replicate (width - how.length + 2) ' ') ++ what ++ "\n"
  "Usage: " ++ program ++ " [OPTIONS]\n\nOptions:\n" ++ String.join lines

/-! ## Ends -/

/-- How a program ended: its exit status and its standard output. -/
structure Report where
  exit : Nat
  output : String
deriving DecidableEq, Repr

def versionText : String := "0.1.0"

/-- The end of a program that a command line halts. -/
def Halt.report (program : String) (specs : List Spec) : Halt → Report
  | .usage => ⟨2, ""⟩
  | .help => ⟨0, helpText program specs⟩
  | .version => ⟨0, program ++ " " ++ versionText ++ "\n"⟩

end DatagramSession.CommandLine
