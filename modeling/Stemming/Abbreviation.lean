import Stemming.Directory
import Stemming.Failure
import Stemming.Text.Quoted
import Stemming.Token

/-! Abbreviation tables: short forms, without regard to case, and the words they stand for. The
table of those that are always known can be extended by a file with one rule a line, the short form
followed by its words; blank lines and lines that start with `#` are skipped. -/
namespace Stemming

/-- The entries stand in order of first insertion, each under its lowercase short form. -/
structure Abbreviations where
  entries : List (Token × List Token)
  deriving DecidableEq, Repr

namespace Abbreviations

def empty : Abbreviations := ⟨[]⟩

def size (a : Abbreviations) : Nat := a.entries.length

def isEmpty (a : Abbreviations) : Bool := a.entries.isEmpty

def get? (a : Abbreviations) (t : Token) : Option (List Token) :=
  a.entries.lookup (Text.lowercase t)

/-- Puts `words` under `key`, in the place of an older entry or at the end. -/
def put (key : Token) (words : List Token) :
    List (Token × List Token) → List (Token × List Token)
  | [] => [(key, words)]
  | entry :: entries =>
    if entry.1 = key then (key, words) :: entries else entry :: put key words entries

def insert (a : Abbreviations) (short : Token) (words : List Token) : Abbreviations :=
  ⟨put (Text.lowercase short) words a.entries⟩

/-- The words a token stands for: those of its entry, else the token itself. -/
def expandToken (a : Abbreviations) (t : Token) : List Token := (a.get? t).getD [t]

def expand (a : Abbreviations) (ts : List Token) : List Token := ts.flatMap a.expandToken

def builtInEntries : List (String × List String) :=
  [("dr", ["doctor"]), ("mr", ["mister"]), ("mrs", ["missus"]), ("ms", ["miss"]),
    ("prof", ["professor"]), ("dept", ["department"]), ("corp", ["corporation"]),
    ("inc", ["incorporated"]), ("ltd", ["limited"]), ("co", ["company"]),
    ("gov", ["government"]), ("ave", ["avenue"]), ("blvd", ["boulevard"]), ("st", ["street"]),
    ("rd", ["road"]), ("apt", ["apartment"]), ("bldg", ["building"]), ("fig", ["figure"]),
    ("jan", ["january"]), ("feb", ["february"]), ("mar", ["march"]), ("apr", ["april"]),
    ("jun", ["june"]), ("jul", ["july"]), ("aug", ["august"]), ("sep", ["september"]),
    ("oct", ["october"]), ("nov", ["november"]), ("dec", ["december"]), ("sun", ["sunday"]),
    ("mon", ["monday"]), ("tue", ["tuesday"]), ("wed", ["wednesday"]), ("thu", ["thursday"]),
    ("fri", ["friday"]), ("sat", ["saturday"]), ("k", ["ok"]), ("thx", ["thanks"]),
    ("ttyl", ["talk", "to", "you", "later"]), ("tmrw", ["tomorrow"]), ("etc", ["et", "cetera"])]

def builtIn : Abbreviations :=
  ⟨builtInEntries.map fun entry => (entry.1.toList, entry.2.map String.toList)⟩

/-- What is wrong with a line. -/
inductive LineError where
  | undecodable
  | noExpansion (short : Token)
  deriving DecidableEq, Repr

/-- The rule on a line, if it holds one. -/
def readLine (line : Bytes) : Except LineError (Option (Token × List Token)) :=
  match Utf8.decode? line with
  | none => .error .undecodable
  | some text =>
    let text := Text.trim text
    if text.head? = some '#' then .ok none
    else
      match Text.words text with
      | [] => .ok none
      | [short] => .error (.noExpansion short)
      | short :: words => .ok (some (short, words))

/-- Inserts the rules of the lines, numbered from `n`, up to the first bad line. -/
def extendLines (a : Abbreviations) (n : Nat) :
    List Bytes → Abbreviations × Option (Nat × LineError)
  | [] => (a, none)
  | line :: rest =>
    match readLine line with
    | .error e => (a, some (n, e))
    | .ok none => a.extendLines (n + 1) rest
    | .ok (some (short, words)) => (a.insert short words).extendLines (n + 1) rest

/-- Inserts the rules of a file's contents. Rules before a bad line stay in the table. -/
def extendContents (a : Abbreviations) (contents : Bytes) :
    Abbreviations × Option (Nat × LineError) :=
  a.extendLines 1 (lines contents)

inductive LoadError where
  | unopened (path : String) (reason : OpenError)
  | isFolder (path : String)
  | badLine (path : String) (line : Nat) (error : LineError)
  deriving DecidableEq, Repr

def LoadError.failure : LoadError → Failure
  | unopened path reason => ⟨"open abbreviation file " ++ path, [reason.message]⟩
  | isFolder path => ⟨"read line 1 in " ++ path, ["Is a directory (os error 21)"]⟩
  | badLine path line .undecodable =>
    ⟨"read line " ++ Nat.repr line ++ " in " ++ path, ["stream did not contain valid UTF-8"]⟩
  | badLine path line (.noExpansion short) =>
    ⟨path ++ ":" ++ Nat.repr line ++ " abbreviation " ++ Text.quote short ++ " has no expansion", []⟩

def LoadError.message (e : LoadError) : String := e.failure.summary

/-- Extends a table by the file at a path. -/
def extend (a : Abbreviations) (read : FileReader) (path : String) :
    Abbreviations × Option LoadError :=
  match read path with
  | .error reason => (a, some (.unopened path reason))
  | .ok .folder => (a, some (.isFolder path))
  | .ok (.file contents) =>
    let (extended, failure) := a.extendContents contents
    (extended, failure.map fun (line, e) => .badLine path line e)

/-- The built-in table extended by the file at a path. -/
def load (read : FileReader) (path : String) : Except LoadError Abbreviations :=
  match builtIn.extend read path with
  | (a, none) => .ok a
  | (_, some e) => .error e

end Abbreviations

end Stemming
