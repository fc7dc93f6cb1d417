import Stemming.Word
import Stemming.Stage

/-! Suffix rules: what a rule matches, when its gate admits a word, and how one rule is
selected from a list. -/
namespace Stemming

/-- The condition a matching rule puts on the word. The *stem* is the word without the matched
suffix, the *remainder* is the word without the characters the rule removes. -/
inductive Gate where
  | always
  | stemHasVowel
  | stemWeightAbove (bound : Nat)
  | remainderWeightAbove (bound : Nat)
  /-- The remainder has weight above one, or exactly one and no tail pattern. -/
  | softFinalE
  /-- The word ends in a doubled consonant other than `l`, `s` and `z`. -/
  | undouble
  /-- The word has weight one and the tail pattern. -/
  | shortTail
  deriving DecidableEq, Repr

/-- How a stage chooses among its rules: by the first suffix that matches, whose gate then
decides alone, or by the first rule that both matches and is admitted. -/
inductive Matching where
  | firstSuffix | firstAdmitted
  deriving DecidableEq, Repr

/-- A rule removes a number of characters from the end of the word and appends a text. The
number is separate from the suffix, since some rules match more than they remove. -/
structure Rule where
  suffix : Word
  remove : Nat
  append : Word
  gate : Gate
  /-- The stage that runs on the result. -/
  follow : Option Stage
  deriving DecidableEq, Repr

/-- The gate read with a given tail test. -/
def Gate.holds (tail : Word → Bool) (word stem remainder : Word) : Gate → Bool
  | .always => true
  | .stemHasVowel => stem.hasVowel
  | .stemWeightAbove bound => bound < stem.weight
  | .remainderWeightAbove bound => bound < remainder.weight
  | .softFinalE => 1 < remainder.weight || (remainder.weight == 1 && !tail remainder)
  | .undouble =>
      word.endsDoubled && !(word.endsWith ['l'] || word.endsWith ['s'] || word.endsWith ['z'])
  | .shortTail => word.weight == 1 && tail word

namespace Rule

/-- The word ends with the rule's suffix; an empty suffix fits every word. -/
def fits (r : Rule) (w : Word) : Bool := w.endsWith r.suffix

def stemOf (r : Rule) (w : Word) : Word := w.dropEnd r.suffix.length

def remainderOf (r : Rule) (w : Word) : Word := w.dropEnd r.remove

def admits (tail : Word → Bool) (r : Rule) (w : Word) : Bool :=
  r.gate.holds tail w (r.stemOf w) (r.remainderOf w)

def apply (r : Rule) (w : Word) : Word := r.remainderOf w ++ r.append

end Rule

/-- The rule that a matching policy picks for `w`, if any. -/
def Matching.select (tail : Word → Bool) (rules : List Rule) (w : Word) :
    Matching → Option Rule
  | .firstSuffix => (rules.find? (·.fits w)).filter (·.admits tail w)
  | .firstAdmitted => rules.find? fun r => r.fits w && r.admits tail w

end Stemming
