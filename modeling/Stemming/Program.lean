import Stemming.CommandLine
import Stemming.Http.Service
import Stemming.Json
import Stemming.Log
import Stemming.SocketAddress
import Stemming.Stem.Trace
import Stemming.Text.Quoted

/-! The runs of the program, from its arguments and inputs to its output, log and exit code. -/
namespace Stemming

structure Outcome where
  exit : Nat
  stdout : List Char := []
  error : Option String := none
  logs : List String := []

def Failure.outcome (f : Failure) : Outcome := { exit := 1, error := some f.report }

/-- One output line: the tokens of a text as a JSON array. -/
def outputLine (p : Pipeline) (text : List Char) : List Char :=
  (Json.strings (p.process text)).render ++ ['\n']

/-- Processes lines, numbered from `n`, up to the first that is not UTF-8, whose number is the
second result. -/
def filterLines (p : Pipeline) (n : Nat) : List Bytes → List Char × Option Nat
  | [] => ([], none)
  | line :: rest =>
    match Utf8.decode? line with
    | none => ([], some n)
    | some text =>
      let (out, failure) := filterLines p (n + 1) rest
      (outputLine p text ++ out, failure)

def filterInput (p : Pipeline) (stdin : Bytes) : List Char × Option Nat :=
  filterLines p 1 (lines stdin)

/-- Writes the tokens of every input line. -/
def runStem (c : Config) (read : FileReader) (stdin : Bytes) : Outcome :=
  match c.pipeline read with
  | .error e => e.failure.outcome
  | .ok p =>
    match filterInput p stdin with
    | (stdout, none) => { exit := 0, stdout }
    | (stdout, some n) =>
      let failure : Failure :=
        ⟨"read stdin line " ++ Nat.repr n, ["stream did not contain valid UTF-8"]⟩
      { failure.outcome with stdout }

/-- The name under which the program logs. -/
def logTarget : List Char := "arivu".toList

def Config.address (c : Config) : String := c.host ++ ":" ++ Nat.repr c.port

/-- What the service logs before it is ready. -/
def startLogs (c : Config) : List String :=
  ["binding to " ++ c.address]
    ++ (c.abbreviationsPath.map fun path => "using abbreviations at " ++ path).toList
    ++ ["max tokens per request: " ++ Nat.repr c.maxTokens]

/-- The log line of a pipeline that was built in the given time. -/
def readyLog (elapsed : String) (p : Pipeline) : String :=
  "pipeline ready in " ++ elapsed ++ " ms (" ++ Nat.repr p.abbreviations.size ++ " abbreviations)"

def infoLines (filter : LogFilter) (messages : List String) : List String :=
  if filter.allows logTarget .info then messages.map fun m => "INFO " ++ Text.forTerminal m
  else []

/-- Starts the service up to the point where it listens. `elapsed` is the time in milliseconds
that building the pipeline took. The results are the log and either what went wrong or the
service. -/
def startService (c : Config) (read : FileReader) (elapsed : String) :
    List String × Except Failure Http.Service :=
  match c.pipeline read with
  | .error e => (startLogs c, .error e.failure)
  | .ok p =>
    (startLogs c ++ [readyLog elapsed p],
      if SocketAddress.isValid c.address.toList then
        .ok { pipeline := p, maxTokens := c.maxTokens }
      else .error ⟨"invalid listen address " ++ c.address, ["invalid socket address syntax"]⟩)

def runServe (c : Config) (read : FileReader) (elapsed : String) (filter : LogFilter) : Outcome :=
  let (logs, started) := startService c read elapsed
  match started with
  | .error failure => { failure.outcome with logs := infoLines filter logs }
  | .ok _ => { exit := 0, logs := infoLines filter logs }

/-- The whole program, but for its help texts. Arguments that cannot be read end it with exit
code 2. -/
def run (args : List String) (env : Environment) (read : FileReader) (stdin : Bytes)
    (elapsed : String) : Outcome :=
  match CommandLine.parse? args with
  | none => { exit := 2 }
  | some invocation =>
    let config := Config.load invocation.flags env
    match invocation.command with
    | .serve => runServe config read elapsed (LogFilter.parse (env "RUST_LOG"))
    | .stem => runStem config read stdin

/-- Prints the trace of every word given. -/
def runTrace (args : List String) : Outcome :=
  if args.isEmpty then
    Failure.outcome ⟨"usage: cargo run -p arivu-stem --example trace -- <word>...", []⟩
  else
    { exit := 0,
      stdout := (String.join (args.map fun word => (stemTraced word.toList).report)).toList }

end Stemming
