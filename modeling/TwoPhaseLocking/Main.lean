import TwoPhaseLocking.Cli.Run

/-!
The program's entry point: it gathers the files the command line needs, runs the program on
them, and writes what the program wrote.
-/
open TwoPhaseLocking

def readIfThere (path : String) : IO (Option ByteArray) := do
  try
    let b ← IO.FS.readBinFile path
    pure (some b)
  catch _ =>
    pure none

/-- Puts the readable files among `paths` into a tree. -/
def gather (fs : Files) : List String → IO Files
  | [] => pure fs
  | p :: rest => do
    match ← readIfThere p with
    | some b => gather (fs.put (fs.locate p) (.bytes b.toList)) rest
    | none => gather fs rest

def main (args : List String) : IO UInt32 := do
  let cwd := (← IO.currentDir).toString
  let configDir ← IO.getEnv Config.dirVariable
  let home := (← IO.getEnv "HOME").getD ""
  let base : Cli.Host := { configDir := configDir, platformConfigDir := home ++ "/.config",
                           files := { cwd := Path.parse cwd, dirs := [Path.parse cwd] } }
  let files ← gather base.files (base.configPath :: args)
  let host := { base with files := files }
  let first := host.run args
  IO.print first.stdout
  IO.eprint first.stderr
  if first.waiting then
    let start ← IO.monoMsNow
    let stdin ← IO.getStdin
    let _ ← stdin.readToEnd
    let stop ← IO.monoMsNow
    let last := { host with interruptAfter := some (stop - start) }.run args
    IO.print (last.stdout.drop first.stdout.length).toString
    pure last.status.toUInt32
  else
    pure first.status.toUInt32
