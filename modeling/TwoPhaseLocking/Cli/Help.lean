import TwoPhaseLocking.Cli.Spec

/-!
Help and usage texts, and the text of a refused command line. Each section lists
`name  description` lines aligned on the longest name, within 100 columns.
-/
namespace TwoPhaseLocking
namespace Cli

def pad (n : Nat) : String := String.ofList (List.replicate n ' ')

def helpWidth : Nat := 100

/-- Whether descriptions go on lines of their own: some description of `width` columns would
not fit beside names that take `taken` columns, and those take more than 40% of the line. -/
def nextLine (taken : Nat) (widths : List Nat) : Bool :=
  helpWidth ≥ taken && 10 * taken > 4 * helpWidth && widths.any (· > helpWidth - taken)

/-- What follows an option's description: its default and the words it accepts. -/
def Opt.specs (o : Opt) : String :=
  let d := match o.kind, o.default with
    | .value .., some v => ["[default: " ++ v ++ "]"]
    | _, _ => []
  let c := if o.choices.isEmpty then [] else ["[possible values: " ++ ", ".intercalate o.choices ++ "]"]
  " ".intercalate (d ++ c)

/-- A description with the specifications after it. -/
def describe (help specs : String) : String :=
  if specs.isEmpty then help else if help.isEmpty then specs else help ++ " " ++ specs

def optionLines (os : List Opt) : List String :=
  let longest := os.foldl (fun m o => max m o.display.length) 2
  let taken := longest + 8
  let next := nextLine taken (os.map fun o => o.help.length + o.specs.length)
  os.map fun o =>
    let names := "  " ++ (match o.short with
      | some c => "-" ++ c.toString ++ ", "
      | none => "    ") ++ o.display
    if next then names ++ "\n" ++ pad 10 ++ describe o.help o.specs
    else names ++ pad (longest - o.display.length + 2) ++ describe o.help o.specs

def positionalLines (ps : List Positional) : List String :=
  let longest := ps.foldl (fun m p => max m p.display.length) 2
  let taken := longest + 4
  let next := nextLine taken (ps.map (·.help.length))
  ps.map fun p =>
    if next then "  " ++ p.display ++ "\n" ++ pad 10 ++ p.help
    else "  " ++ p.display ++ pad (longest - p.display.length + 2) ++ p.help

/-- The lines of the subcommands section, from each name and purpose. -/
def subcommandLines (subs : List (String × String)) : List String :=
  let longest := subs.foldl (fun m s => max m s.1.length) 2
  let next := nextLine (longest + 4) (subs.map (·.2.length))
  subs.map fun (n, about) =>
    if next then "  " ++ n ++ "\n" ++ pad 10 ++ about
    else "  " ++ n ++ pad (longest - n.length + 2) ++ about

namespace Program

/-- The command at a path, with the help subcommands included. -/
def find? (p : Program) (path : List String) : Option Command :=
  match p.command? path with
  | some c => some c
  | none =>
    match path.reverse with
    | "help" :: parentRev =>
      match p.command? parentRev.reverse with
      | some parent => if parent.subcommands.isEmpty then none else some (helpCommand parentRev.reverse)
      | none => none
    | _ => none

/-- The usage of a command: its name, `[OPTIONS]`, what must be given, optional positionals,
and the subcommand slot. -/
def usage (p : Program) (c : Command) : String :=
  let required := (c.opts.filter (·.required)).map Opt.display ++
    (c.positionals.filter (·.required)).map Positional.display
  let optional := (c.positionals.filter (!·.required)).map Positional.display
  let sub := if c.subcommands.isEmpty then []
    else [if c.subcommandRequired then "<COMMAND>" else "[COMMAND]"]
  " ".intercalate ([p.usageName c.path] ++ (if c.hasOptions then ["[OPTIONS]"] else []) ++
    required ++ optional ++ sub)

/-- The short usage of an error: what must be given and the arguments of `used`, options
first, then positionals in their order, then the subcommand slot. -/
def shortUsage (p : Program) (c : Command) (used : List String) : String :=
  let optIds := ((c.opts.filter (·.required)).map (·.id) ++ used).eraseDups
  let opts := optIds.filterMap fun i => (c.opts.find? (·.id = i)).map Opt.display
  let poss := c.positionals.filter fun q => q.required || used.contains q.id
  let sub := if c.subcommandRequired then ["<COMMAND>"] else []
  " ".intercalate ([p.usageName c.path] ++ opts ++
    poss.map (fun q => "<" ++ q.name ++ ">" ++ (if q.many then "..." else "")) ++ sub)

/-- The subcommands of a command with their purposes, the help subcommand last. -/
def subcommandList (p : Program) (c : Command) : List (String × String) :=
  c.subcommands.filterMap fun n => (p.find? (c.path ++ [n])).map fun s => (n, s.about)

def help (p : Program) (c : Command) : String :=
  let sections :=
    (if c.subcommands.isEmpty then [] else ["Commands:\n" ++ "\n".intercalate (subcommandLines (p.subcommandList c))]) ++
    (if c.positionals.isEmpty then [] else ["Arguments:\n" ++ "\n".intercalate (positionalLines c.positionals)]) ++
    (if c.opts.isEmpty then [] else ["Options:\n" ++ "\n".intercalate (optionLines c.opts)])
  c.about ++ "\n\nUsage: " ++ p.usage c ++ "\n\n" ++ "\n\n".intercalate sections ++ "\n"

end Program

/-- A refused command line: what is wrong, similar words, tips, and the usage to show. -/
structure Complaint where
  body : String
  /-- The kind of thing suggested and the suggestions, least likely first. -/
  similar : Option (String × List String) := none
  tips : List String := []
  usage : Option String := none
  deriving DecidableEq, Repr, Inhabited

namespace Complaint

def render (c : Complaint) : String :=
  let quoted (vs : List String) := ", ".intercalate (vs.map fun v => "'" ++ v ++ "'")
  let similar := match c.similar with
    | some (k, [v]) => "\n\n  tip: a similar " ++ k ++ " exists: '" ++ v ++ "'"
    | some (k, vs) => "\n\n  tip: some similar " ++ k ++ "s exist: " ++ quoted vs
    | none => ""
  let tips := if c.tips.isEmpty then ""
    else (if c.similar.isNone then "\n" else "") ++ String.join (c.tips.map ("\n  tip: " ++ ·))
  let usage := match c.usage with
    | some u => "\n\nUsage: " ++ u
    | none => ""
  "error: " ++ c.body ++ similar ++ tips ++ usage ++ "\n\nFor more information, try '--help'.\n"

end Complaint
end Cli
end TwoPhaseLocking
