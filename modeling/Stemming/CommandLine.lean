import Stemming.Config

/-! The command line: a subcommand, and flags before or after it. -/
namespace Stemming

inductive Command where
  | serve | stem
  deriving DecidableEq, Repr

def Command.ofName? (s : String) : Option Command :=
  if s = "serve" then some serve else if s = "stem" then some stem else none

structure Invocation where
  command : Command
  flags : Flags
  deriving DecidableEq, Repr

namespace CommandLine

/-- A separate value is not empty and does not look like a flag. -/
def isValue (s : String) : Bool := s ≠ "" && (s = "-" || s.toList.head? ≠ some '-')

def setAbbreviations (f : Flags) (path : String) : Option Flags :=
  if f.abbreviations.isSome || path.isEmpty then none
  else some { f with abbreviations := some path }

/-- Sets a switch, which may be given once. -/
def setSwitch (f : Flags) (arg : String) : Option Flags :=
  if arg = "--no-stopwords" then
    if f.noStopwords then none else some { f with noStopwords := true }
  else if arg = "--no-stem" then if f.noStem then none else some { f with noStem := true }
  else if arg = "--keep-case" then if f.keepCase then none else some { f with keepCase := true }
  else none

def abbreviationsFlag : String := "--abbreviations"

/-- The value behind the equals sign of the abbreviations flag. -/
def attachedValue? (arg : String) : Option String :=
  match Text.cutAtChar '=' arg.toList with
  | (name, some value) =>
    if name = abbreviationsFlag.toList then some (String.ofList value) else none
  | _ => none

/-- Reads the flags of one level up to the first argument that is no flag. Two dashes end the
flags, and nothing may follow them. -/
def readFlags (f : Flags) : List String → Option (Flags × List String)
  | [] => some (f, [])
  | arg :: args =>
    if arg = abbreviationsFlag then
      match args with
      | value :: args =>
        if isValue value then (setAbbreviations f value).bind (readFlags · args) else none
      | [] => none
    else if arg = "--" then if args.isEmpty then some (f, []) else none
    else if arg.toList.head? = some '-' then
      match attachedValue? arg with
      | some value => (setAbbreviations f value).bind (readFlags · args)
      | none => (setSwitch f arg).bind (readFlags · args)
    else some (f, arg :: args)

/-- The flags behind the subcommand win over those before it. -/
def overlay (outer inner : Flags) : Flags where
  abbreviations := inner.abbreviations <|> outer.abbreviations
  noStopwords := outer.noStopwords || inner.noStopwords
  noStem := outer.noStem || inner.noStem
  keepCase := outer.keepCase || inner.keepCase

/-- Reads the arguments; without a subcommand the program serves. Requests for help, by `--help`,
`-h` or the subcommand `help`, are left out with the help texts: here they are not read. -/
def parse? (args : List String) : Option Invocation := do
  let (outer, rest) ← readFlags {} args
  match rest with
  | [] => some { command := .serve, flags := outer }
  | name :: rest =>
    let command ← Command.ofName? name
    let (inner, rest) ← readFlags {} rest
    if rest.isEmpty then some { command, flags := overlay outer inner } else none

end CommandLine

end Stemming
