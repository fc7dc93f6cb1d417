import Stemming.Stem

/-! Stemming with a record of every stage, and the text table of such a record. -/
namespace Stemming

/-- What one stage did to a word. The suffix is that of the rule that fired, `none` when no
rule did, and empty for the rules that fit every word. -/
structure StageRecord where
  stage : Stage
  input : Word
  output : Word
  suffix : Option Word
  deriving DecidableEq, Repr

def StageRecord.changed (r : StageRecord) : Bool := r.input != r.output

structure Trace where
  input : Word
  records : List StageRecord
  deriving DecidableEq, Repr

namespace Trace

/-- The output of the last record. -/
def output (t : Trace) : Word := (t.records.getLast?.map StageRecord.output).getD t.input

def changes (t : Trace) : List StageRecord := t.records.filter StageRecord.changed

end Trace

namespace Selector

variable (select : Selector)

def record (stage : Stage) (w : Word) : StageRecord :=
  { stage, input := w, output := select.once stage w,
    suffix := (select stage w).map Rule.suffix }

/-- The records of one stage and of the stage its rule leads to. -/
def records (stage : Stage) (w : Word) : List StageRecord :=
  select.record stage w ::
    match select.follow stage w with
    | some next => [select.record next (select.once stage w)]
    | none => []

def derivation : List Stage → Word → List StageRecord
  | [], _ => []
  | stage :: stages, w => select.records stage w ++ derivation stages (select.apply stage w)

def trace (w : Word) : Trace := { input := w, records := select.derivation Stage.sequence w }

end Selector

def stemTraced (w : Word) : Trace := Selector.trace Stage.select w

/-- Fills a cell with blanks up to a width; longer text is kept whole. -/
def padEnd (width : Nat) (s : String) : String :=
  s ++ "".pushn ' ' (width - s.length)

def StageRecord.ruleText (r : StageRecord) : String :=
  match r.suffix with
  | some [] => "(default)"
  | some suffix => "-" ++ String.ofList suffix
  | none => "-"

/-- One line: a mark for a change, the label, the rule, the word before and after. -/
def StageRecord.row (r : StageRecord) : String :=
  "  " ++ (if r.changed then "*" else " ") ++ " " ++ padEnd 10 r.stage.label ++ " "
    ++ padEnd 12 r.ruleText ++ " " ++ padEnd 16 (String.ofList r.input) ++ " "
    ++ String.ofList r.output

def Trace.report (t : Trace) : String :=
  "\n" ++ String.ofList t.input ++ " -> " ++ String.ofList t.output ++ "\n"
    ++ String.join (t.records.map fun r => r.row ++ "\n")

end Stemming
