import Stemming.Number
import Stemming.Pipeline

/-! The configuration, from flags and environment variables. -/
namespace Stemming

/-- The command-line flags; they win over the environment. -/
structure Flags where
  abbreviations : Option String := none
  noStopwords : Bool := false
  noStem : Bool := false
  keepCase : Bool := false
  deriving DecidableEq, Repr

/-- The environment gives a variable its value, if it is set. -/
abbrev Environment := String → Option String

structure Config where
  host : String
  port : Nat
  abbreviationsPath : Option String
  maxTokens : Nat
  options : Options
  deriving DecidableEq, Repr

namespace Config

def defaultHost : String := "0.0.0.0"

def defaultPort : Nat := 8080

def defaultMaxTokens : Nat := 10000

def greatestPort : Nat := 65535

def greatestMaxTokens : Nat := 0xFFFFFFFFFFFFFFFF

/-- A port that cannot be read is replaced by the default. -/
def readPort (value : Option String) : Nat :=
  (value.bind fun s => readUnsigned? greatestPort s.toList).getD defaultPort

/-- A cap of zero, or one that cannot be read, is replaced by the default. -/
def readMaxTokens (value : Option String) : Nat :=
  ((value.bind fun s => readUnsigned? greatestMaxTokens s.toList).filter (0 < ·)).getD
    defaultMaxTokens

def load (flags : Flags) (env : Environment) : Config where
  host := (env "HOST").getD defaultHost
  port := readPort (env "PORT")
  abbreviationsPath := flags.abbreviations <|> env "ARIVU_ABBREVIATIONS"
  maxTokens := readMaxTokens (env "ARIVU_MAX_TOKENS")
  options :=
    { lowercase := !flags.keepCase, removeStopwords := !flags.noStopwords, stem := !flags.noStem }

/-- The abbreviation file of the configuration could not be loaded. -/
structure BuildError where
  path : String
  cause : Abbreviations.LoadError
  deriving DecidableEq, Repr

def BuildError.failure (e : BuildError) : Failure :=
  let cause := e.cause.failure
  ⟨"loading abbreviations from " ++ e.path, cause.message :: cause.causes⟩

def BuildError.message (e : BuildError) : String := e.failure.summary

def abbreviations (c : Config) (read : FileReader) : Except BuildError Abbreviations :=
  match c.abbreviationsPath with
  | none => .ok .builtIn
  | some path => (Abbreviations.load read path).mapError fun cause => { path, cause }

def pipeline (c : Config) (read : FileReader) : Except BuildError Pipeline :=
  (c.abbreviations read).map fun abbreviations => { options := c.options, abbreviations }

end Config

end Stemming
