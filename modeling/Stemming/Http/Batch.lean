import Stemming.Json
import Stemming.Number
import Stemming.Text.Quoted
import Stemming.Token

/-! The body of a batch request: an object with the field `tokens`, or an array that holds the
one value of that field. Other fields are skipped. The first thing found wrong decides. -/
namespace Stemming.Http

open Json (Lexeme)

/-- A value of the wrong type. -/
inductive Found where
  | null
  | bool (b : Bool)
  | number (n : Number)
  | string (s : List Char)
  | array
  | object

def Found.message : Found → String
  | null => "null"
  | bool b => if b then "boolean `true`" else "boolean `false`"
  | number (.integer n) => "integer `" ++ toString n ++ "`"
  | number (.double x) => "floating point `" ++ String.ofList (doubleText x) ++ "`"
  | string s => "string " ++ Text.quote s
  | array => "sequence"
  | object => "map"

inductive Expected where
  | batch | sequence | string
  deriving DecidableEq, Repr

def Expected.message : Expected → String
  | batch => "struct StemBatchRequest"
  | sequence => "a sequence"
  | string => "a string"

inductive BatchError where
  | malformed
  /-- The path is empty for the body itself. -/
  | mismatch (path : String) (found : Found) (expected : Expected)
  | missingTokens
  | repeatedTokens
  | emptyArray

def BatchError.message : BatchError → String
  | malformed => "Failed to parse the request body as JSON"
  | mismatch path found expected =>
    mistyped ++ (if path.isEmpty then "" else path ++ ": ") ++ "invalid type: " ++ found.message
      ++ ", expected " ++ expected.message
  | missingTokens => mistyped ++ "missing field `tokens`"
  | repeatedTokens => mistyped ++ "duplicate field `tokens`"
  | emptyArray => mistyped ++ "invalid length 0, expected " ++ Expected.batch.message
      ++ " with 1 element"
where
  mistyped := "Failed to deserialize the JSON body into the target type: "

/-- What a value begins with, for a report of its type; `none` when no valid value begins here. -/
def found? : Lexeme → Option Found
  | .null => some .null
  | .bool b => some (.bool b)
  | .number value => value.map .number
  | .string text => text.map .string
  | .openArray => some .array
  | .openObject => some .object
  | _ => none

/-- The error of a value that is not of the expected type. -/
def mismatch (path : String) (expected : Expected) (ls : List Lexeme) : BatchError :=
  match ls.head?.bind found? with
  | some found => .mismatch path found expected
  | none => .malformed

/-- Reads strings up to the closing bracket, from number `i` on. -/
def readItems (path : String) (i : Nat) : List Lexeme → Except BatchError (List Token × List Lexeme)
  | .string (some s) :: .comma :: rest => do
    let (tokens, rest) ← readItems path (i + 1) rest
    pure (s :: tokens, rest)
  | .string (some s) :: .closeArray :: rest => pure ([s], rest)
  | .string (some _) :: _ => throw .malformed
  | ls => throw (mismatch (path ++ "[" ++ Nat.repr i ++ "]") .string ls)

/-- Reads an array of strings. -/
def readTokens (path : String) : List Lexeme → Except BatchError (List Token × List Lexeme)
  | .openArray :: .closeArray :: rest => pure ([], rest)
  | .openArray :: ls => readItems path 0 ls
  | ls => throw (mismatch path .sequence ls)

inductive Frame where
  | array | object
  deriving DecidableEq, Repr

/-- What may come next inside a value that is skipped. -/
inductive Expect where
  | value | firstItem | firstKey | key | colon | separator
  deriving DecidableEq, Repr

inductive SkipStep where
  | stop
  | finish
  | next (frames : List Frame) (expect : Expect)

/-- A value is complete inside the given frames. -/
def closeValue : List Frame → SkipStep
  | [] => .finish
  | frames => .next frames .separator

/-- One lexeme of a skipped value. Strings and numerals need not hold valid text or numbers. -/
def skipStep : List Frame → Expect → Lexeme → SkipStep
  | frames, .firstItem, .closeArray => closeValue frames.tail
  | frames, .firstKey, .closeObject => closeValue frames.tail
  | frames, .firstKey, .string _ => .next frames .colon
  | frames, .key, .string _ => .next frames .colon
  | frames, .colon, .colon => .next frames .value
  | .array :: frames, .separator, .comma => .next (.array :: frames) .value
  | .array :: frames, .separator, .closeArray => closeValue frames
  | .object :: frames, .separator, .comma => .next (.object :: frames) .key
  | .object :: frames, .separator, .closeObject => closeValue frames
  | frames, expect, l =>
    if expect = .value || expect = .firstItem then
      match l with
      | .null | .bool _ | .number _ | .string _ => closeValue frames
      | .openArray => .next (.array :: frames) .firstItem
      | .openObject => .next (.object :: frames) .firstKey
      | _ => .stop
    else .stop

/-- Skips one value and returns what follows it. -/
def skip (frames : List Frame) (expect : Expect) : List Lexeme → Option (List Lexeme)
  | [] => none
  | l :: ls =>
    match skipStep frames expect l with
    | .stop => none
    | .finish => some ls
    | .next frames expect => skip frames expect ls

/-- Reads the value of a field: the tokens found so far, and the rest. -/
def readField (tokens : Option (List Token)) (name : List Char) (ls : List Lexeme) :
    Except BatchError (Option (List Token) × List Lexeme) :=
  if name = "tokens".toList then
    if tokens.isSome then throw .repeatedTokens
    else
      match ls with
      | .colon :: ls => do
        let (tokens, rest) ← readTokens "tokens" ls
        pure (some tokens, rest)
      | _ => throw .malformed
  else
    match ls with
    | .colon :: ls =>
      match skip [] .value ls with
      | some rest => pure (tokens, rest)
      | none => throw .malformed
    | _ => throw .malformed

theorem readItems_length_le {path : String} {i : Nat} {ls rest : List Lexeme}
    {tokens : List Token} (h : readItems path i ls = .ok (tokens, rest)) :
    rest.length ≤ ls.length := by
  fun_induction readItems path i ls generalizing tokens rest with
  | case1 i s ls ih =>
    cases hr : readItems path (i + 1) ls with
    | error e => simp [hr, bind, Except.bind] at h
    | ok p =>
      obtain ⟨items, tail⟩ := p
      simp only [hr, bind, Except.bind, pure, Except.pure, Except.ok.injEq, Prod.mk.injEq] at h
      have := ih hr
      simp only [List.length_cons, ← h.2]
      omega
  | case2 i s ls =>
    simp only [pure, Except.pure, Except.ok.injEq, Prod.mk.injEq] at h
    simp only [List.length_cons, ← h.2]
    omega
  | case3 => cases h
  | case4 => cases h

theorem readTokens_length_le {path : String} {ls rest : List Lexeme} {tokens : List Token}
    (h : readTokens path ls = .ok (tokens, rest)) : rest.length ≤ ls.length := by
  rw [readTokens.eq_def] at h
  split at h
  · simp only [pure, Except.pure, Except.ok.injEq, Prod.mk.injEq] at h
    simp only [List.length_cons, ← h.2]
    omega
  · exact Nat.le_succ_of_le (readItems_length_le h)
  · cases h

theorem skip_length_le {frames : List Frame} {expect : Expect} {ls rest : List Lexeme}
    (h : skip frames expect ls = some rest) : rest.length ≤ ls.length := by
  induction ls generalizing frames expect with
  | nil => cases h
  | cons l ls ih =>
    rw [skip] at h
    split at h
    · cases h
    · cases h
      exact Nat.le_succ _
    · exact Nat.le_succ_of_le (ih h)

theorem readField_length_le {tokens found : Option (List Token)} {name : List Char}
    {ls rest : List Lexeme} (h : readField tokens name ls = .ok (found, rest)) :
    rest.length ≤ ls.length := by
  rw [readField.eq_def] at h
  split at h
  · split at h
    · cases h
    · split at h
      · next _ inner =>
        cases hr : readTokens "tokens" inner with
        | error e => simp [hr, bind, Except.bind] at h
        | ok p =>
          obtain ⟨items, tail⟩ := p
          simp only [hr, bind, Except.bind, pure, Except.pure, Except.ok.injEq, Prod.mk.injEq] at h
          rw [← h.2]
          exact Nat.le_succ_of_le (readTokens_length_le hr)
      · cases h
  · split at h
    · split at h
      · next hs =>
        simp only [pure, Except.pure, Except.ok.injEq, Prod.mk.injEq] at h
        rw [← h.2]
        exact Nat.le_succ_of_le (skip_length_le hs)
      · cases h
    · cases h

/-- The tokens of an object whose closing brace was read. -/
def finishObject (tokens : Option (List Token)) (rest : List Lexeme) :
    Except BatchError (List Token × List Lexeme) :=
  match tokens with
  | some tokens => pure (tokens, rest)
  | none => throw .missingTokens

/-- Reads fields up to the closing brace, from a field name on. -/
def readFields (tokens : Option (List Token)) :
    List Lexeme → Except BatchError (List Token × List Lexeme)
  | .string (some name) :: ls =>
    match h : readField tokens name ls with
    | .error e => throw e
    | .ok (tokens, .comma :: rest) =>
      have := readField_length_le h
      readFields tokens rest
    | .ok (tokens, .closeObject :: rest) => finishObject tokens rest
    | .ok _ => throw .malformed
  | _ => throw .malformed
termination_by ls => ls.length
decreasing_by simp only [List.length_cons] at *; omega

/-- Reads the body up to its end. -/
def readBody : List Lexeme → Except BatchError (List Token × List Lexeme)
  | .openObject :: .closeObject :: _ => throw .missingTokens
  | .openObject :: ls => readFields none ls
  | .openArray :: .closeArray :: _ => throw .emptyArray
  | .openArray :: ls => do
    let (tokens, rest) ← readTokens "[0]" ls
    match rest with
    | .closeArray :: rest => pure (tokens, rest)
    | _ => throw .malformed
  | ls => throw (mismatch "" .batch ls)

/-- The tokens of a batch. Nothing but blanks may follow the body. -/
def readBatch (body : Bytes) : Except BatchError (List Token) := do
  let (tokens, rest) ← readBody (Json.lex body)
  if rest.isEmpty then pure tokens else throw .malformed

end Stemming.Http
