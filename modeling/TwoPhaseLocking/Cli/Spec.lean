/-!
The command-line interface, described as data: each command with its options, positional
arguments and subcommands, in the order its help lists them, and how each value is read.
-/
namespace TwoPhaseLocking
namespace Cli

/-- How a value on the command line is read. -/
inductive ValueType where
  | text
  /-- A path; an empty one is refused. -/
  | path
  /-- A whole number read as a signed 64-bit number, then bounded to `[0, max]`. -/
  | bounded (max : Nat)
  /-- An unsigned 64-bit number. -/
  | unsigned
  | choice (values : List String)
  deriving DecidableEq, Repr, Inhabited

inductive OptKind where
  | switch
  | value (name : String) (type : ValueType)
  | help
  | version
  deriving DecidableEq, Repr, Inhabited

structure Opt where
  id : String
  long : String
  short : Option Char := none
  help : String := ""
  kind : OptKind
  default : Option String := none
  required : Bool := false
  global : Bool := false
  deriving DecidableEq, Repr, Inhabited

structure Positional where
  id : String
  name : String
  help : String := ""
  type : ValueType
  required : Bool := true
  /-- Takes every remaining word. -/
  many : Bool := false
  deriving DecidableEq, Repr, Inhabited

/-- A command: its place under the program, what it is for, its options in help order, its
positionals, and its subcommands in help order. -/
structure Command where
  path : List String
  about : String
  opts : List Opt
  positionals : List Positional := []
  subcommands : List String := []
  subcommandRequired : Bool := false
  deriving DecidableEq, Repr, Inhabited

/-- A program: its name, version and commands. -/
structure Program where
  name : String
  version : String
  commands : List Command
  deriving Repr, Inhabited

namespace Opt

/-- The option as it is shown: `--long`, then ` <NAME>` for one that takes a value. -/
def display (o : Opt) : String :=
  "--" ++ o.long ++ match o.kind with
    | .value n _ => " <" ++ n ++ ">"
    | _ => ""

def takesValue (o : Opt) : Bool :=
  match o.kind with
  | .value .. => true
  | _ => false

/-- The words a value must be one of, if the option has such a list. -/
def choices (o : Opt) : List String :=
  match o.kind with
  | .value _ (.choice vs) => vs
  | _ => []

end Opt

/-- The positional as it is shown: `<NAME>`, or `[NAME]...` for an optional one that takes
every remaining word. -/
def Positional.display (p : Positional) : String :=
  (if p.required then "<" ++ p.name ++ ">" else "[" ++ p.name ++ "]") ++ (if p.many then "..." else "")

namespace Command

/-- Whether the command has options besides help and version, which usage shows as `[OPTIONS]`. -/
def hasOptions (c : Command) : Bool :=
  c.opts.any fun o => !o.required && match o.kind with
    | .help | .version => false
    | _ => true

def long? (c : Command) (name : String) : Option Opt := c.opts.find? (·.long = name)

def short? (c : Command) (ch : Char) : Option Opt := c.opts.find? (·.short = some ch)

end Command

namespace Program

def command? (p : Program) (path : List String) : Option Command :=
  p.commands.find? (·.path = path)

/-- The name a command goes by in usage: the program's name and the path. -/
def usageName (p : Program) (path : List String) : String := " ".intercalate (p.name :: path)

end Program

/-- The help subcommand of a command with subcommands. -/
def helpCommand (path : List String) : Command :=
  let names : Positional :=
    { id := "subcommand", name := "COMMAND", type := .text, required := false, many := true,
      help := "Print help for the subcommand(s)" }
  { path := path ++ ["help"], about := "Print this message or the help of the given subcommand(s)",
    opts := [], positionals := [names] }

end Cli
end TwoPhaseLocking
