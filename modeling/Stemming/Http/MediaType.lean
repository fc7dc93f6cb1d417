/-! Media types, as far as it takes to know whether a body is JSON. -/
namespace Stemming.Http

/-- The characters of types, subtypes, parameter names and plain values. -/
def isMediaTokenChar (c : Char) : Bool :=
  c.isAlphanum || "!#$%&'*+-.^_`|~".toList.contains c

structure MediaType where
  type : List Char
  subtype : List Char
  /-- The part of the subtype behind its last plus sign. -/
  suffix : Option (List Char)
  deriving DecidableEq, Repr

def isQuotedChar (c : Char) : Bool := 31 < c.toNat && c.toNat < 127

/-- Where a reader of parameters stands. -/
inductive ParameterState where
  | start | name | value | plain | quotedFirst | quoted | closed
  deriving DecidableEq, Repr

namespace ParameterState

/-- One character of the parameters. A quoted value has at least one character, and so has a
plain one that another parameter follows. -/
def step (state : ParameterState) (c : Char) : Option ParameterState :=
  match state with
  | start => if c = ' ' then some start else if isMediaTokenChar c then some name else none
  | name => if c = '=' then some value else if isMediaTokenChar c then some name else none
  | value => if c = '"' then some quotedFirst else if isMediaTokenChar c then some plain else none
  | plain => if c = ';' then some start else if isMediaTokenChar c then some plain else none
  | quotedFirst => if isQuotedChar c then some quoted else none
  | quoted => if c = '"' then some closed else if isQuotedChar c then some quoted else none
  | closed => if c = ' ' then some closed else if c = ';' then some start else none

def mayEnd : ParameterState → Bool
  | start | value | plain | closed => true
  | name | quotedFirst | quoted => false

end ParameterState

/-- The parameters behind a semicolon are well-formed. -/
def parametersFit (s : List Char) : Bool :=
  (s.foldlM ParameterState.step .start).any ParameterState.mayEnd

/-- Splits a subtype at its last plus sign, unless that is its first character. -/
def splitSuffix (subtype : List Char) : List Char × Option (List Char) :=
  let suffix := (subtype.reverse.takeWhile (· != '+')).reverse
  if suffix.length + 1 < subtype.length then
    (subtype.take (subtype.length - suffix.length - 1), some suffix)
  else (subtype, none)

def MediaType.parse? (s : List Char) : Option MediaType :=
  let type := s.takeWhile isMediaTokenChar
  match s.dropWhile isMediaTokenChar with
  | '/' :: rest =>
    let whole := rest.takeWhile isMediaTokenChar
    let (subtype, suffix) := splitSuffix whole
    if type.isEmpty then none
    else
      match rest.dropWhile isMediaTokenChar with
      | [] => some { type, subtype, suffix }
      | ';' :: parameters =>
        if !whole.isEmpty && parametersFit parameters then
          some { type, subtype, suffix }
        else none
      | _ => none
  | _ => none

/-- Equality of names without regard to the case of their ASCII letters. -/
def sameName (a : List Char) (b : String) : Bool := a.map Char.toLower == b.toList

def MediaType.isJson (m : MediaType) : Bool :=
  sameName m.type "application" &&
    (sameName m.subtype "json" || m.suffix.any fun suffix => sameName suffix "json")

end Stemming.Http
