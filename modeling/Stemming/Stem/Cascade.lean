import Stemming.Word
import Stemming.Stage

/-! The stages written out as cascades of suffix tests, without rule tables. -/
namespace Stemming.Cascade

/-- Puts `ending` in the place of a suffix whose stem has a vowel run. -/
def swap (w : Word) (suffix ending : String) : Word :=
  let stem := w.dropEnd suffix.toList.length
  if 0 < stem.weight then stem ++ ending.toList else w

def ends (w : Word) (suffix : String) : Bool := w.endsWith suffix.toList

def plural (w : Word) : Word :=
  if ends w "sses" then w.dropEnd 2
  else if ends w "ies" then w.dropEnd 2
  else if ends w "ss" then w
  else w.dropEnd 1

def verbalCleanup (w : Word) : Word :=
  if ends w "at" || ends w "bl" || ends w "iz" then w ++ ['e']
  else if w.endsDoubled && !ends w "l" && !ends w "s" && !ends w "z" then w.dropEnd 1
  else if w.weight = 1 && w.hasTailPattern then w ++ ['e']
  else w

def verbal (w : Word) : Word :=
  if ends w "eed" then if 0 < (w.dropEnd 3).weight then w.dropEnd 1 else w
  else if ends w "ed" && (w.dropEnd 2).hasVowel then verbalCleanup (w.dropEnd 2)
  else if ends w "ing" && (w.dropEnd 3).hasVowel then verbalCleanup (w.dropEnd 3)
  else w

def terminalY (w : Word) : Word :=
  if ends w "y" && (w.dropEnd 1).hasVowel then w.dropEnd 1 ++ ['i'] else w

def derivational (w : Word) : Word :=
  if ends w "ational" then swap w "ational" "ate"
  else if ends w "tional" then swap w "tional" "tion"
  else if ends w "enci" then swap w "enci" "ence"
  else if ends w "anci" then swap w "anci" "ance"
  else if ends w "izer" then swap w "izer" "ize"
  else if ends w "bli" then swap w "bli" "ble"
  else if ends w "alli" then swap w "alli" "al"
  else if ends w "entli" then swap w "entli" "ent"
  else if ends w "eli" then swap w "eli" "e"
  else if ends w "ousli" then swap w "ousli" "ous"
  else if ends w "ization" then swap w "ization" "ize"
  else if ends w "ation" then swap w "ation" "ate"
  else if ends w "ator" then swap w "ator" "ate"
  else if ends w "alism" then swap w "alism" "al"
  else if ends w "iveness" then swap w "iveness" "ive"
  else if ends w "fulness" then swap w "fulness" "ful"
  else if ends w "ousness" then swap w "ousness" "ous"
  else if ends w "aliti" then swap w "aliti" "al"
  else if ends w "iviti" then swap w "iviti" "ive"
  else if ends w "biliti" then swap w "biliti" "ble"
  else w

def secondaryDerivational (w : Word) : Word :=
  if ends w "icate" then swap w "icate" "ic"
  else if ends w "ative" then swap w "ative" ""
  else if ends w "alize" then swap w "alize" "al"
  else if ends w "iciti" then swap w "iciti" "ic"
  else if ends w "ical" then swap w "ical" "ic"
  else if ends w "ful" then swap w "ful" ""
  else if ends w "ness" then swap w "ness" ""
  else w

/-- Cuts `n` characters when two vowel runs are left. -/
def cut (w : Word) (n : Nat) : Word := if 1 < (w.dropEnd n).weight then w.dropEnd n else w

/-- Three groups of suffixes lose two, three and four characters. -/
def suffixStrip (w : Word) : Word :=
  if ["al", "ance", "ence", "er", "ic", "able", "ible", "ant", "ement", "ment", "ent", "ion",
      "ou"].any (ends w) then cut w 2
  else if ["ism", "ate", "iti", "ous", "ive", "ize"].any (ends w) then cut w 3
  else if ["sion", "tion"].any (ends w) then cut w 4
  else w

def cleanup (w : Word) : Word :=
  if ends w "e" then
    let reduced := w.dropEnd 1
    if 1 < reduced.weight || (reduced.weight = 1 && !reduced.hasTailPattern) then reduced else w
  else if ends w "ll" then if 1 < (w.dropEnd 1).weight then w.dropEnd 1 else w
  else w

def stage : Stage → Word → Word
  | .plural => plural
  | .verbal => verbal
  | .verbalCleanup => verbalCleanup
  | .terminalY => terminalY
  | .derivational => derivational
  | .secondaryDerivational => secondaryDerivational
  | .suffixStrip => suffixStrip
  | .cleanup => cleanup

def stem (w : Word) : Word :=
  cleanup (suffixStrip (secondaryDerivational (derivational (terminalY (verbal (plural w))))))

end Stemming.Cascade
