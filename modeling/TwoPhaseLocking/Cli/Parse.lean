import TwoPhaseLocking.Cli.Help
import TwoPhaseLocking.Cli.Similar

/-!
Reading a command line against a program's description, word by word at the level of the
command chosen so far. A value is checked when the next option or positional comes, or at the
end; an unknown option is refused at once, with the most similar known one as a tip.
-/
namespace TwoPhaseLocking
namespace Cli

/-- A value read from the command line. -/
inductive Value where
  | text (s : String)
  | num (n : Nat)
  | flag
  deriving DecidableEq, Repr, Inhabited

/-- What a value is for. -/
inductive Target where
  | opt (o : Opt)
  | pos (p : Positional)
  deriving DecidableEq, Repr, Inhabited

namespace Target

def display : Target → String
  | opt o => o.display
  | pos p => p.display

def id : Target → String
  | opt o => o.id
  | pos p => p.id

end Target

/-- How a reading ends before the last word: a text to show (help, version), or a refusal
with its text. -/
inductive Stop where
  | show (text : String)
  | refuse (text : String)
  deriving DecidableEq, Repr, Inhabited

/-- The values given to one command. -/
structure Given where
  path : List String
  /-- Values by id, in the order the ids were first given. -/
  values : List (String × List Value) := []
  deriving DecidableEq, Repr, Inhabited

/-- The state of one level of the reading. -/
structure Level where
  cmd : Command
  given : Given
  /-- A value, or an option still waiting for one, not yet checked. -/
  pending : Option (Target × List String) := none
  /-- The next positional. -/
  index : Nat := 0
  /-- Whether `--` was seen. -/
  trailing : Bool := false
  deriving Inhabited

/-- The result of reading a command line: the values given at each level, outermost first,
or an early stop. -/
abbrev Reading := Except Stop (List Given)

/-- The text of a refusal of a value: the value is missing. -/
def emptyValue (t : Target) (choices : List String) : Stop :=
  let list := if choices.isEmpty then "" else "\n  [possible values: " ++ ", ".intercalate choices ++ "]"
  .refuse (Complaint.render
    { body := "a value is required for '" ++ t.display ++ "' but none was supplied" ++ list })

def badValue (t : Target) (raw reason : String) : Stop :=
  .refuse (Complaint.render { body := "invalid value '" ++ raw ++ "' for '" ++ t.display ++ "': " ++ reason })

def i64Max : Nat := 9223372036854775807

def u64Max : Nat := 18446744073709551615

def digitsValue? (ds : List Char) : Option Nat :=
  if ds.isEmpty || !ds.all Char.isDigit then none
  else some (ds.foldl (fun n c => 10 * n + (c.toNat - 48)) 0)

/-- Reads a signed 64-bit number, failing with the system's text. -/
def readSigned (s : String) : Except String Int :=
  match s.toList with
  | [] => .error "cannot parse integer from empty string"
  | c :: rest =>
    let (neg, ds) := if c = '-' then (true, rest) else if c = '+' then (false, rest) else (false, c :: rest)
    match digitsValue? ds with
    | none => .error "invalid digit found in string"
    | some n =>
      if neg then (if n > i64Max + 1 then .error "number too small to fit in target type" else .ok (-(n : Int)))
      else if n > i64Max then .error "number too large to fit in target type" else .ok n

def readUnsigned (s : String) : Except String Nat :=
  match s.toList with
  | [] => .error "cannot parse integer from empty string"
  | c :: rest =>
    let ds := if c = '+' then rest else c :: rest
    match digitsValue? ds with
    | none => .error "invalid digit found in string"
    | some n => if n > u64Max then .error "number too large to fit in target type" else .ok n

def readValue (t : Target) (type : ValueType) (raw : String) : Except Stop Value :=
  match type with
  | .text => .ok (.text raw)
  | .path => if raw.isEmpty then .error (emptyValue t []) else .ok (.text raw)
  | .bounded max =>
    match readSigned raw with
    | .error e => .error (badValue t raw e)
    | .ok i => if 0 ≤ i ∧ i ≤ max then .ok (.num i.toNat)
      else .error (badValue t raw (toString i ++ " is not in 0..=" ++ toString max))
  | .unsigned =>
    match readUnsigned raw with
    | .error e => .error (badValue t raw e)
    | .ok n => .ok (.num n)
  | .choice vs =>
    if vs.contains raw then .ok (.text raw)
    else if raw.isEmpty then .error (emptyValue t vs)
    else
      let body := "invalid value '" ++ raw ++ "' for '" ++ t.display ++ "'\n  [possible values: " ++
        ", ".intercalate vs ++ "]"
      let similar := (Similar.best? raw vs).map fun v => ("value", [v])
      .error (.refuse (Complaint.render { body := body, similar := similar }))

namespace Level

def used (lv : Level) : List String := lv.given.values.map (·.1)

def has (lv : Level) (i : String) : Bool := lv.used.contains i

def usage (p : Program) (lv : Level) : String := p.usage lv.cmd

/-- Records values for a target: a missing value, a second use of an option and a value of
the wrong form are refused, in that order. -/
def record (p : Program) (lv : Level) (t : Target) (raw : List String) : Except Stop Level := do
  let needsValue := match t with
    | .opt o => o.takesValue
    | .pos _ => true
  if needsValue && raw.isEmpty then
    throw (emptyValue t (match t with
      | .opt o => o.choices
      | .pos _ => []))
  match t with
  | .opt o =>
    if lv.has o.id then
      let body := "the argument '" ++ o.display ++ "' cannot be used multiple times"
      throw (.refuse (Complaint.render { body := body, usage := some (lv.usage p) }))
  | .pos _ => pure ()
  let vs ← match t with
    | .opt o => match o.kind with
      | .value _ type => raw.mapM (readValue t type)
      | _ => pure [Value.flag]
    | .pos q => raw.mapM (readValue t q.type)
  let values := match lv.given.values.find? (·.1 = t.id) with
    | some _ => lv.given.values.map fun (i, old) => if i = t.id then (i, old ++ vs) else (i, old)
    | none => lv.given.values ++ [(t.id, vs)]
  pure { lv with given := { lv.given with values := values } }

/-- Checks the value waiting to be checked, if any. -/
def settle (p : Program) (lv : Level) : Except Stop Level :=
  match lv.pending with
  | none => .ok lv
  | some (t, raw) => { lv with pending := none }.record p t raw

/-- Checks the waiting value, keeping it if it reads and dropping it otherwise, as happens
before an unknown word is refused. -/
def settleQuietly (p : Program) (lv : Level) : Level :=
  match lv.settle p with
  | .ok lv' => lv'
  | .error _ => { lv with pending := none }

def waiting (lv : Level) : Bool :=
  match lv.pending with
  | some (.opt _, []) => true
  | _ => false

/-- Acts on an option given with the values `raw`: help and version stop the reading. -/
def react (p : Program) (lv : Level) (o : Opt) (raw : List String) : Except Stop Level := do
  let lv ← lv.settle p
  match o.kind with
  | .help => throw (.show (p.help lv.cmd))
  | .version => throw (.show (p.name ++ " " ++ p.version ++ "\n"))
  | _ => lv.record p (.opt o) raw

/-- Refuses an unknown long option `--name`, with the most similar option of this command or,
failing that, of a subcommand named later on the line, as a tip. -/
def unknownLong (p : Program) (lv : Level) (name : String) (rest : List String) : Stop :=
  let lv := lv.settleQuietly p
  let longs := lv.cmd.opts.map (·.long)
  let here := Similar.best? name longs
  let elsewhere := lv.cmd.subcommands.findSome? fun s =>
    match p.find? (lv.cmd.path ++ [s]) with
    | some sc => match Similar.best? name (sc.opts.map (·.long)), rest.contains s with
      | some f, true => some (s, f)
      | _, _ => none
    | none => none
  let used := match here.bind lv.cmd.long? with
    | some o => (lv.used ++ [o.id]).eraseDups
    | none => lv.used
  let trailingTip := here.isNone && elsewhere.isNone && !lv.trailing && !lv.cmd.positionals.isEmpty
  let arg := "--" ++ name
  .refuse (Complaint.render {
    body := "unexpected argument '" ++ arg ++ "' found",
    similar := here.map fun f => ("argument", ["--" ++ f]),
    tips := (if trailingTip then ["to pass '" ++ arg ++ "' as a value, use '-- " ++ arg ++ "'"] else []) ++
      (match here, elsewhere with
        | none, some (s, f) => ["'" ++ s ++ " --" ++ f ++ "' exists"]
        | _, _ => []),
    usage := some (if used.isEmpty then lv.usage p else p.shortUsage lv.cmd used) })

/-- Refuses an unknown word `arg` that looks like an option. -/
def unknownArg (p : Program) (lv : Level) (arg : String) (looksLikeOption : Bool) : Stop :=
  let trailingTip := !lv.trailing && !lv.cmd.positionals.isEmpty && looksLikeOption
  .refuse (Complaint.render {
    body := "unexpected argument '" ++ arg ++ "' found",
    tips := if trailingTip then ["to pass '" ++ arg ++ "' as a value, use '-- " ++ arg ++ "'"] else [],
    usage := some (lv.usage p) })

def shorts (p : Program) (lv : Level) : List Char → Except Stop Level
  | [] => .ok lv
  | c :: more =>
    match lv.cmd.short? c with
    | none => .error ((lv.settleQuietly p).unknownArg p ("-" ++ c.toString) true)
    | some o =>
      if o.takesValue then
        match more with
        | [] => do
          let lv ← lv.settle p
          pure { lv with pending := some (.opt o, []) }
        | '=' :: v => lv.react p o [String.ofList v]
        | v => lv.react p o [String.ofList v]
      else do
        let lv ← lv.react p o []
        shorts p lv more

/-- Refuses a word that is neither an option, a subcommand nor a positional. A subcommand's
name after `--` is refused with the tip to drop the `--`. -/
def stray (p : Program) (lv : Level) (arg : String) : Stop :=
  let lv := lv.settleQuietly p
  let looksLikeOption := arg.startsWith "-" && arg.length > 1
  if lv.trailing && lv.cmd.subcommands.contains arg then
    .refuse (Complaint.render {
      body := "unexpected argument '" ++ arg ++ "' found",
      tips := ["subcommand '" ++ arg ++ "' exists; to use it, remove the '--' before it"],
      usage := some (lv.usage p) })
  else if !lv.cmd.subcommands.isEmpty then
    let candidates := Similar.candidates arg lv.cmd.subcommands
    let trailingTip := !lv.trailing && !lv.cmd.positionals.isEmpty && looksLikeOption
    let body := "unrecognized subcommand '" ++ arg ++ "'"
    let tip := "to pass '" ++ arg ++ "' as a value, use '" ++ p.usageName lv.cmd.path ++ " -- " ++ arg ++ "'"
    if !candidates.isEmpty then
      .refuse (Complaint.render
        { body := body, similar := some ("subcommand", candidates),
          tips := if trailingTip then [tip] else [], usage := some (lv.usage p) })
    else if lv.cmd.positionals.isEmpty then
      .refuse (Complaint.render { body := body, usage := some (lv.usage p) })
    else lv.unknownArg p arg looksLikeOption
  else lv.unknownArg p arg looksLikeOption

def positional (p : Program) (lv : Level) (arg : String) : Except Stop Level :=
  match lv.cmd.positionals[lv.index]? with
  | none => .error (lv.stray p arg)
  | some q => do
    let same := match lv.pending with
      | some (.pos q', _) => q' = q && q.many
      | _ => false
    let lv ← if same then pure lv else lv.settle p
    let before := match lv.pending with
      | some (.pos q', vs) => if q' = q then vs else []
      | _ => []
    let index := if q.many then lv.index else lv.index + 1
    pure { lv with pending := some (.pos q, before ++ [arg]), index := index }

/-- Checks a level at its end: the waiting value, a missing subcommand (help when nothing
was given), and the required arguments. -/
def finish (p : Program) (lv : Level) (chosen : Bool) : Except Stop Given := do
  let lv ← lv.settle p
  if !chosen && lv.cmd.subcommandRequired then
    if lv.given.values.isEmpty then throw (.refuse (p.help lv.cmd))
    let name := p.usageName lv.cmd.path
    throw (.refuse (Complaint.render {
      body := "'" ++ name ++ "' requires a subcommand but one was not provided\n  [subcommands: " ++
        ", ".intercalate lv.cmd.subcommands ++ "]",
      usage := some (lv.usage p) }))
  let missingOpts := lv.cmd.opts.filter fun o => o.required && !lv.has o.id
  let missingPos := lv.cmd.positionals.filter fun q => q.required && !lv.has q.id
  if !missingOpts.isEmpty || !missingPos.isEmpty then
    let missing := missingOpts.map Opt.display ++ missingPos.map Positional.display
    let used := lv.used ++ missingOpts.map (·.id) ++ missingPos.map (·.id)
    throw (.refuse (Complaint.render {
      body := "the following required arguments were not provided:" ++
        String.join (missing.map ("\n  " ++ ·)),
      usage := some (p.shortUsage lv.cmd used) }))
  pure lv.given

end Level

/-- Shows the help of the command that the words after `help` name, from `c` down. -/
def helpFor (p : Program) (c : Command) : List String → Stop
  | [] => .show (p.help c)
  | w :: rest =>
    if c.subcommands.contains w then
      match p.find? (c.path ++ [w]) with
      | some sc => helpFor p sc rest
      | none => .show (p.help c)
    else
      let body := "unrecognized subcommand '" ++ w ++ "'"
      .refuse (Complaint.render { body := body, usage := some (p.usage c) })

/-- Reads the words of a command line; `outer` are the finished levels above, innermost
first. -/
def readWords (p : Program) (outer : List Level) (lv : Level) : List String → Reading
  | [] => do
    let inner ← lv.finish p false
    let givens ← outer.mapM fun l => l.finish p true
    pure (givens.reverse ++ [inner])
  | a :: rest =>
    if !lv.trailing && !lv.waiting && lv.cmd.subcommands.contains a then
      if a = "help" then .error (helpFor p lv.cmd rest)
      else match p.find? (lv.cmd.path ++ [a]) with
        | some sc => do
          let lv ← lv.settle p
          readWords p (lv :: outer) { cmd := sc, given := { path := sc.path } } rest
        | none => .error (lv.stray p a)
    else if !lv.trailing && a = "--" then
      readWords p outer { lv with trailing := true } rest
    else if !lv.trailing && a.startsWith "--" then
      let body := (a.drop 2).toString
      let (name, attached) := match body.splitOn "=" with
        | n :: v :: vs => (n, some ("=".intercalate (v :: vs)))
        | _ => (body, none)
      match lv.cmd.long? name with
      | none => .error (lv.unknownLong p name rest)
      | some o =>
        match o.kind, attached with
        | .value .., some v => do readWords p outer (← lv.react p o [v]) rest
        | .value .., none => do
          let lv ← lv.settle p
          readWords p outer { lv with pending := some (.opt o, []) } rest
        | _, some v =>
          let lv := lv.settleQuietly p
          let body := "unexpected value '" ++ v ++ "' for '" ++ o.display ++ "' found; no more were expected"
          let usage := p.shortUsage lv.cmd ((lv.used ++ [o.id]).eraseDups)
          .error (.refuse (Complaint.render { body := body, usage := some usage }))
        | _, none => do readWords p outer (← lv.react p o []) rest
    else if !lv.trailing && a.startsWith "-" && a.length > 1 then do
      readWords p outer (← lv.shorts p (a.drop 1).toString.toList) rest
    else if !lv.trailing && lv.waiting then
      match lv.pending with
      | some (t, _) => readWords p outer { lv with pending := some (t, [a]) } rest
      | none => readWords p outer lv rest
    else do
      readWords p outer (← lv.positional p a) rest

/-- Reads a command line (the words after the program's name). -/
def read (p : Program) (args : List String) : Reading :=
  match p.command? [] with
  | some root => readWords p [] { cmd := root, given := { path := [] } } args
  | none => .error (.refuse "")

end Cli
end TwoPhaseLocking
