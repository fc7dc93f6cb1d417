/-! Words as character lists, and the vowel structure that gates the suffix rules. -/
namespace Stemming

/-- A word is the list of its characters, so every length and every cut counts characters. -/
abbrev Word := List Char

/-- Only the five lowercase letters are vowels; `y` is always a consonant. -/
def isVowel (c : Char) : Bool :=
  c == 'a' || c == 'e' || c == 'i' || c == 'o' || c == 'u'

namespace Word

/-- The number of vowel runs that begin in `w`, given whether a vowel stands just before it. -/
def runsAfter (vowelBefore : Bool) : Word → Nat
  | [] => 0
  | c :: w => (if isVowel c && !vowelBefore then 1 else 0) + runsAfter (isVowel c) w

/-- The weight of a word is its number of vowel runs. -/
def weight (w : Word) : Nat := runsAfter false w

def hasVowel (w : Word) : Bool := w.any isVowel

/-- The word ends in a consonant written twice. -/
def endsDoubled (w : Word) : Bool :=
  match w.reverse with
  | last :: previous :: _ => last == previous && !isVowel last
  | _ => false

/-- The word ends in vowel, consonant, vowel. -/
def hasTailPattern (w : Word) : Bool :=
  match w.reverse with
  | last :: middle :: first :: _ => isVowel first && !isVowel middle && isVowel last
  | _ => false

/-- The word without its last `n` characters; empty when it has fewer. -/
def dropEnd (w : Word) (n : Nat) : Word := w.take (w.length - n)

def endsWith (w suffix : Word) : Bool := suffix.isSuffixOf w

end Word

end Stemming
