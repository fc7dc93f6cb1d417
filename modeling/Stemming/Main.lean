import Stemming.Program

/-! The command line of the program. -/
namespace Stemming.Shell

/-- The variables the program looks at. -/
def environmentNames : List String :=
  ["HOST", "PORT", "ARIVU_ABBREVIATIONS", "ARIVU_MAX_TOKENS", "RUST_LOG"]

def environment : IO Environment := do
  let pairs ← environmentNames.mapM fun name => do
    pure (name, ← IO.getEnv name)
  pure fun name => (pairs.lookup name).join

def openError (e : IO.Error) : OpenError :=
  match e with
  | .noFileOrDirectory .. => .notFound
  | .inappropriateType .. => .notFolder
  | e => .other (toString e)

def readHandle (handle : IO.FS.Handle) : IO Opened := do
  try pure (.file (← handle.readBinToEnd).toList)
  catch _ => pure .folder

def openFile (path : String) : IO (Except OpenError Opened) := do
  try pure (.ok (← readHandle (← IO.FS.Handle.mk path .read)))
  catch e => pure (.error (openError e))

/-- Opens the file that the configuration names, once. -/
def reader (config : Config) : IO FileReader := do
  match config.abbreviationsPath with
  | none => pure fun _ => .error .notFound
  | some path =>
    let opened ← openFile path
    pure fun p => if p = path then opened else .error .notFound

partial def readAll (input : IO.FS.Stream) (bytes : ByteArray) : IO ByteArray := do
  let more ← input.read 65536
  if more.isEmpty then pure bytes else readAll input (bytes ++ more)

def stdinBytes (command : Command) : IO Bytes := do
  match command with
  | .serve => pure []
  | .stem => pure (← readAll (← IO.getStdin) .empty).toList

def write (outcome : Outcome) : IO UInt32 := do
  for line in outcome.logs do
    IO.eprintln line
  IO.print (String.ofList outcome.stdout)
  if let some error := outcome.error then
    IO.eprint error
  pure outcome.exit.toUInt32

end Stemming.Shell

open Stemming in
def main (args : List String) : IO UInt32 := do
  match CommandLine.parse? args with
  | none =>
    IO.eprintln "usage: [serve|stem] [--abbreviations PATH] [--no-stopwords] [--no-stem] [--keep-case]"
    pure 2
  | some invocation =>
    let env ← Shell.environment
    let started ← IO.monoMsNow
    let read ← Shell.reader (Config.load invocation.flags env)
    let elapsed := (← IO.monoMsNow) - started
    let stdin ← Shell.stdinBytes invocation.command
    Shell.write (run args env read stdin (Nat.repr elapsed))
