import Stemming.Text.Alphanumeric
import Stemming.Text.Lowercase

/-! Cutting text into word and punctuation tokens, and what is done to single tokens: special
characters removed, stopwords dropped, accents folded, contractions expanded. -/
namespace Stemming

abbrev Token := List Char

namespace Token

def apostrophe : Char := '\''

/-- The characters that words are made of. -/
def isWordChar (c : Char) : Bool := Text.isAlphanumeric c || c == apostrophe

end Token

/-- A maximal run of word characters is one token, and any other character but the plain space
is a token of its own. -/
def tokenize : List Char → List Token
  | [] => []
  | c :: cs =>
    if Token.isWordChar c then
      (c :: cs.takeWhile Token.isWordChar) :: tokenize (cs.dropWhile Token.isWordChar)
    else if c = ' ' then tokenize cs
    else [c] :: tokenize cs
termination_by s => s.length
decreasing_by
  · have := (List.dropWhile_suffix (l := cs) Token.isWordChar).length_le
    simp only [List.length_cons]
    omega
  · simp
  · simp

namespace Token

/-- Keeps letters and digits, and an apostrophe between two letters. -/
def stripAfter (before : Option Char) : List Char → Token
  | [] => []
  | c :: cs =>
    if Text.isAlphanumeric c ||
        (c == apostrophe && before.any Text.isAlphabetic && cs.head?.any Text.isAlphabetic) then
      c :: stripAfter (some c) cs
    else stripAfter (some c) cs

def stripSpecial (t : Token) : Token := stripAfter none t

def stopwords : List String :=
  ["i", "me", "my", "myself", "we", "our", "ours", "ourselves", "you", "your", "yours",
    "yourself", "yourselves", "he", "him", "his", "himself", "she", "her", "hers", "herself",
    "it", "its", "itself", "they", "them", "their", "theirs", "themselves", "what", "which",
    "who", "whom", "this", "that", "these", "those", "am", "is", "are", "was", "were", "be",
    "been", "being", "have", "has", "had", "having", "do", "does", "did", "doing", "a", "an",
    "the", "and", "but", "if", "or", "because", "as", "until", "while", "of", "at", "by", "for",
    "with", "about", "against", "between", "into", "through", "during", "before", "after",
    "above", "below", "to", "from", "up", "down", "in", "out", "on", "off", "over", "under",
    "again", "further", "then", "once", "here", "there", "when", "where", "why", "how", "all",
    "any", "both", "each", "few", "more", "most", "other", "some", "such", "no", "nor", "not",
    "only", "own", "same", "so", "than", "too", "very", "s", "t", "can", "will", "just", "don",
    "should", "now"]

/-- Case does not matter for a stopword. -/
def isStopword (t : Token) : Bool := (stopwords.map String.toList).contains (Text.lowercase t)

def removeStopwords (ts : List Token) : List Token := ts.filter (!isStopword ·)

/-- Plain forms, each with the letters that fold to it. Capitals are listed for the Vietnamese
vowels alone; the other capitals are kept. -/
def accents : List (String × String) :=
  [("A", "ẠẢẤẦẨẪẬẮẰẲẴẶ"), ("a", "áàâäãāăąạảấầẩẫậắằẳẵặ"), ("c", "çćĉċč"), ("d", "ďđ"),
    ("E", "ẸẺẼẾỀỂỄỆ"), ("e", "éèêëēĕęěẹẻẽếềểễệ"), ("g", "ĝğġģ"), ("h", "ĥħ"), ("I", "ỈỊ"),
    ("i", "íìîïīĭįĩỉị"), ("j", "ĵ"), ("k", "ķĸ"), ("l", "ĺļľŀł"), ("n", "ñńņňŋ"),
    ("O", "ỌỎỐỒỔỖỘỚỜỞỠỢ"), ("o", "óòôöõōŏǫőơọỏốồổỗộớờởỡợ"), ("oe", "œ"), ("r", "ŕŗř"),
    ("s", "śŝşš"), ("t", "ţťŧ"), ("U", "ỤỦỨỪỬỮỰ"), ("u", "úùûüūŭųũůűụủứừửữự"), ("w", "ŵẁẃẅẇẉ"),
    ("x", "ẋẍ"), ("Y", "ỲỴỶỸ"), ("y", "ŷÿýẏỳỵỷỹ"), ("z", "źżžẑ")]

def foldAccent? (c : Char) : Option (List Char) :=
  (accents.find? fun group => group.2.toList.contains c).map fun group => group.1.toList

def stripAccents (t : Token) : Token := t.flatMap fun c => (foldAccent? c).getD [c]

def contractions : List (String × List String) :=
  [("ain't", ["is", "not"]), ("aren't", ["are", "not"]), ("can't", ["cannot"]),
    ("could've", ["could", "have"]), ("couldn't", ["could", "not"]), ("didn't", ["did", "not"]),
    ("doesn't", ["does", "not"]), ("don't", ["do", "not"]), ("hadn't", ["had", "not"]),
    ("hasn't", ["has", "not"]), ("haven't", ["have", "not"]), ("he'd", ["he", "would"]),
    ("he'll", ["he", "will"]), ("he's", ["he", "is"]), ("how'd", ["how", "did"]),
    ("how'll", ["how", "will"]), ("how's", ["how", "is"]), ("i'd", ["I", "would"]),
    ("i'll", ["I", "will"]), ("i'm", ["I", "am"]), ("i've", ["I", "have"]),
    ("isn't", ["is", "not"]), ("it'd", ["it", "would"]), ("it'll", ["it", "will"]),
    ("it's", ["it", "is"]), ("let's", ["let", "us"]), ("ma'am", ["madam"]),
    ("might've", ["might", "have"]), ("mightn't", ["might", "not"]),
    ("must've", ["must", "have"]), ("mustn't", ["must", "not"]), ("needn't", ["need", "not"]),
    ("shan't", ["shall", "not"]), ("she'd", ["she", "would"]), ("she'll", ["she", "will"]),
    ("she's", ["she", "is"]), ("should've", ["should", "have"]),
    ("shouldn't", ["should", "not"]), ("that's", ["that", "is"]), ("there's", ["there", "is"]),
    ("they'd", ["they", "would"]), ("they'll", ["they", "will"]), ("they're", ["they", "are"]),
    ("they've", ["they", "have"]), ("wasn't", ["was", "not"]), ("we'd", ["we", "would"]),
    ("we'll", ["we", "will"]), ("we're", ["we", "are"]), ("we've", ["we", "have"]),
    ("weren't", ["were", "not"]), ("what'll", ["what", "will"]), ("what're", ["what", "are"]),
    ("what's", ["what", "is"]), ("what've", ["what", "have"]), ("where's", ["where", "is"]),
    ("who'd", ["who", "would"]), ("who'll", ["who", "will"]), ("who're", ["who", "are"]),
    ("who's", ["who", "is"]), ("who've", ["who", "have"]), ("won't", ["will", "not"]),
    ("would've", ["would", "have"]), ("wouldn't", ["would", "not"]), ("y'all", ["you", "all"]),
    ("you'd", ["you", "would"]), ("you'll", ["you", "will"]), ("you're", ["you", "are"]),
    ("you've", ["you", "have"]), ("it'd've", ["it", "would", "have"]),
    ("it'll've", ["it", "will", "have"]), ("can't've", ["cannot", "have"]),
    ("couldn't've", ["could", "not", "have"]), ("hadn't've", ["had", "not", "have"])]

/-- The words a contraction stands for, found without regard to case. -/
def contraction? (t : Token) : Option (List Token) :=
  (contractions.find? fun entry => entry.1.toList == Text.lowercase t).map
    fun entry => entry.2.map String.toList

/-- The words of a contraction as running text. -/
def contractionText? (t : Token) : Option (List Char) :=
  (contraction? t).map fun words => [' '].intercalate words

/-- The words a token stands for: several for a contraction, else the token itself. -/
def expandContraction (t : Token) : List Token := (contraction? t).getD [t]

def expandContractions (ts : List Token) : List Token := ts.flatMap expandContraction

end Token

end Stemming
