/-! The stages of suffix stripping, their labels and their order. -/
namespace Stemming

inductive Stage where
  | plural | verbal | verbalCleanup | terminalY | derivational | secondaryDerivational
  | suffixStrip | cleanup
  deriving DecidableEq, Repr

namespace Stage

def all : List Stage :=
  [.plural, .verbal, .verbalCleanup, .terminalY, .derivational, .secondaryDerivational,
    .suffixStrip, .cleanup]

/-- The stages every word passes, in order. `verbalCleanup` is absent: it runs only when a
rule of `verbal` asks for it. -/
def sequence : List Stage :=
  [.plural, .verbal, .terminalY, .derivational, .secondaryDerivational, .suffixStrip, .cleanup]

def label : Stage → String
  | plural => "1a"
  | verbal => "1b"
  | verbalCleanup => "1b-helper"
  | terminalY => "1c"
  | derivational => "2"
  | secondaryDerivational => "3"
  | suffixStrip => "4"
  | cleanup => "5"

def ofLabel? (s : String) : Option Stage := all.find? (·.label == s)

def name : Stage → String
  | plural => "plural"
  | verbal => "verbal"
  | verbalCleanup => "verbal-cleanup"
  | terminalY => "terminal-y"
  | derivational => "derivational"
  | secondaryDerivational => "secondary-derivational"
  | suffixStrip => "suffix-strip"
  | cleanup => "cleanup"

theorem mem_all (s : Stage) : s ∈ all := by cases s <;> decide

theorem ofLabel?_label (s : Stage) : ofLabel? s.label = some s := by cases s <;> decide

theorem mem_sequence_iff (s : Stage) : s ∈ sequence ↔ s ≠ .verbalCleanup := by
  cases s <;> decide

end Stage

end Stemming
