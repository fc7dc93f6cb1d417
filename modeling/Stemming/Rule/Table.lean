import Stemming.Rule

/-! The rule table of every stage. -/
namespace Stemming

namespace Rule

def of (suffix : String) (remove : Nat) (append : String) (gate : Gate) : Rule :=
  { suffix := suffix.toList, remove, append := append.toList, gate, follow := none }

/-- Removes the suffix after a stem with a vowel and hands the result to `verbalCleanup`. -/
def thenCleanup (suffix : String) : Rule :=
  { of suffix suffix.toList.length "" .stemHasVowel with follow := some .verbalCleanup }

/-- Replaces the suffix after a stem that has a vowel run. -/
def replace (suffix replacement : String) : Rule :=
  of suffix suffix.toList.length replacement (.stemWeightAbove 0)

/-- Removes a number of characters when the remainder has at least two vowel runs. -/
def strip (suffix : String) (remove : Nat) : Rule :=
  of suffix remove "" (.remainderWeightAbove 1)

end Rule

/-- The rules of one stage and the policy that chooses among them. -/
structure Table where
  matching : Matching
  rules : List Rule

namespace Table

/-- The last rule shortens every word that is no plural of the first three kinds. -/
def pluralRules : List Rule :=
  [.of "sses" 2 "" .always, .of "ies" 2 "" .always, .of "ss" 0 "" .always, .of "" 1 "" .always]

def verbalRules : List Rule :=
  [.of "eed" 1 "" (.stemWeightAbove 0), .thenCleanup "ed", .thenCleanup "ing"]

def verbalCleanupRules : List Rule :=
  [.of "at" 0 "e" .always, .of "bl" 0 "e" .always, .of "iz" 0 "e" .always,
    .of "" 1 "" .undouble, .of "" 0 "e" .shortTail]

def terminalYRules : List Rule :=
  [.of "y" 1 "i" .stemHasVowel]

def derivationalRules : List Rule :=
  [.replace "ational" "ate", .replace "tional" "tion", .replace "enci" "ence",
    .replace "anci" "ance", .replace "izer" "ize", .replace "bli" "ble", .replace "alli" "al",
    .replace "entli" "ent", .replace "eli" "e", .replace "ousli" "ous",
    .replace "ization" "ize", .replace "ation" "ate", .replace "ator" "ate",
    .replace "alism" "al", .replace "iveness" "ive", .replace "fulness" "ful",
    .replace "ousness" "ous", .replace "aliti" "al", .replace "iviti" "ive",
    .replace "biliti" "ble"]

def secondaryDerivationalRules : List Rule :=
  [.replace "icate" "ic", .replace "ative" "", .replace "alize" "al", .replace "iciti" "ic",
    .replace "ical" "ic", .replace "ful" "", .replace "ness" ""]

/-- A group of suffixes loses a fixed number of characters, whatever the length of the suffix. -/
def suffixStripRules : List Rule :=
  [.strip "al" 2, .strip "ance" 2, .strip "ence" 2, .strip "er" 2, .strip "ic" 2,
    .strip "able" 2, .strip "ible" 2, .strip "ant" 2, .strip "ement" 2, .strip "ment" 2,
    .strip "ent" 2, .strip "ion" 2, .strip "ou" 2, .strip "ism" 3, .strip "ate" 3,
    .strip "iti" 3, .strip "ous" 3, .strip "ive" 3, .strip "ize" 3, .strip "sion" 4,
    .strip "tion" 4]

def cleanupRules : List Rule :=
  [.of "e" 1 "" .softFinalE, .of "ll" 1 "" (.remainderWeightAbove 1)]

end Table

def Stage.table : Stage → Table
  | .plural => ⟨.firstSuffix, Table.pluralRules⟩
  | .verbal => ⟨.firstSuffix, Table.verbalRules⟩
  | .verbalCleanup => ⟨.firstAdmitted, Table.verbalCleanupRules⟩
  | .terminalY => ⟨.firstSuffix, Table.terminalYRules⟩
  | .derivational => ⟨.firstSuffix, Table.derivationalRules⟩
  | .secondaryDerivational => ⟨.firstSuffix, Table.secondaryDerivationalRules⟩
  | .suffixStrip => ⟨.firstSuffix, Table.suffixStripRules⟩
  | .cleanup => ⟨.firstSuffix, Table.cleanupRules⟩

/-- The rule that fires on `w` in a stage, with a given tail test. -/
def Stage.selectWith (tail : Word → Bool) (s : Stage) (w : Word) : Option Rule :=
  s.table.matching.select tail s.table.rules w

/-- The rule that fires on `w` in a stage. -/
def Stage.select (s : Stage) (w : Word) : Option Rule := s.selectWith Word.hasTailPattern w

end Stemming
