import Stemming.Number
import Stemming.Text.Split

/-! Log levels, and the filter that decides which lines are written. -/
namespace Stemming

inductive Level where
  | off | error | warn | info | debug | trace
  deriving DecidableEq, Repr

namespace Level

def all : List Level := [off, error, warn, info, debug, trace]

def name : Level → String
  | off => "off"
  | error => "error"
  | warn => "warn"
  | info => "info"
  | debug => "debug"
  | trace => "trace"

/-- The more verbose a level, the higher its rank. -/
def rank : Level → Nat
  | off => 0
  | error => 1
  | warn => 2
  | info => 3
  | debug => 4
  | trace => 5

/-- Reads a level by name, in any case, or by rank. -/
def ofText? (s : List Char) : Option Level :=
  all.find? fun l => s.map Char.toLower == l.name.toList || readUnsigned? 5 s == some l.rank

def max (a b : Level) : Level := if a.rank < b.rank then b else a

end Level

/-- Sets the level of all targets that start with a text; without one, of all there are. -/
structure Directive where
  target : List Char
  level : Level
  /-- It only holds inside spans of some name. -/
  inSpan : Bool := false
  deriving DecidableEq, Repr

namespace Directive

def startsTarget (c : Char) : Bool := Text.isAlphanumeric c || c == '_' || c == ':' || c == '-'

/-- A level that is left out is the most verbose. -/
def readLevel? (s : List Char) : Option Level := if s = [] then some .trace else Level.ofText? s

/-- The level behind a span, given the text from the end of the span's name on. Conditions on
fields count as part of the name. -/
def behindSpan? (marks text : List Char) : Option Level :=
  match marks with
  | [']'] => some .trace
  | ']' :: '=' :: _ => readLevel? (text.drop 2)
  | _ => none

/-- Reads a level, a target, or a target with its level; a target alone gets every level. A span
in brackets may stand behind the target or in its place. The marks between the parts are looked
for in the text without the blanks around it, but the parts are cut out of the text itself, so
that a blank in front moves them all. -/
def parse? (text : List Char) : Option Directive :=
  let marks := Text.trim text
  let n := (marks.takeWhile fun c => c != '=' && c != '[').length
  if marks.head?.any fun c => startsTarget c || c == '[' then
    match marks.drop n with
    | [] =>
      match Level.ofText? text with
      | some level => some { target := [], level }
      | none => some { target := text, level := .trace }
    | '=' :: _ =>
      (readLevel? (text.drop (n + 1))).map fun level => { target := text.take n, level }
    | _ :: inside =>
      let m := n + 1 + (inside.takeWhile (· != ']')).length
      (behindSpan? (marks.drop m) (text.drop m)).map fun level =>
        { target := text.take n, level, inSpan := true }
  else none

end Directive

/-- The directives of a filter, in the order they were given. -/
structure LogFilter where
  directives : List Directive
  deriving DecidableEq, Repr

namespace LogFilter

def ofLevel (level : Level) : LogFilter := ⟨[{ target := [], level }]⟩

/-- Reads directives between commas. Without any at all only errors pass; when there is no text
or a part of it cannot be read, the level is `info`. -/
def parse (s : Option String) : LogFilter :=
  let parsed := s.bind fun s =>
    ((Text.splitAtChar ',' s.toList).filter (!·.isEmpty)).mapM Directive.parse?
  match parsed with
  | none => ofLevel .info
  | some [] => ofLevel .error
  | some directives => ⟨directives⟩

/-- The most verbose level that any directive names. -/
def maxLevel (f : LogFilter) : Level := f.directives.foldl (fun l d => l.max d.level) .off

/-- Of two directives for a target the longer one is preferred, and of equals the later. Those
for spans do not count, since nothing is logged inside one. -/
def prefer (target : List Char) (best : Option Directive) (d : Directive) : Option Directive :=
  if !d.inSpan && d.target.isPrefixOf target
      && best.all fun b => b.target.length ≤ d.target.length then some d
  else best

def allows (f : LogFilter) (target : List Char) (level : Level) : Bool :=
  (f.directives.foldl (prefer target) none).any fun d => level.rank ≤ d.level.rank

end LogFilter

end Stemming
