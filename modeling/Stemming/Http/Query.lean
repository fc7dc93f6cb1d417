import Stemming.Bytes
import Stemming.Text.Split
import Stemming.Word

/-! Query strings in form encoding, and the two queries the service takes. -/
namespace Stemming.Http

/-- A percent sign and two hexadecimal digits stand for a byte; a percent sign without them
stands for itself. -/
def percentDecode : Bytes → Bytes
  | 37 :: a :: b :: rest =>
    match hexValue? a, hexValue? b with
    | some high, some low => UInt8.ofNat (16 * high + low) :: percentDecode rest
    | _, _ => 37 :: percentDecode (a :: b :: rest)
  | b :: rest => b :: percentDecode rest
  | [] => []

/-- The text of an encoded name or value: a plus sign is a space. -/
def formDecode (s : List Char) : List Char :=
  Utf8.decodeLossy (percentDecode ((Utf8.encode s).map fun b => if b = 43 then 32 else b))

/-- The pairs of a query, left to right. Empty pairs are skipped, and a pair without an equals
sign has an empty value. -/
def formPairs (query : List Char) : List (List Char × List Char) :=
  ((Text.splitAtChar '&' query).filter (!·.isEmpty)).map fun pair =>
    let (name, value) := Text.cutAtChar '=' pair
    (formDecode name, formDecode (value.getD []))

inductive QueryError where
  | missing (field : String)
  | duplicate (field : String)
  /-- The value of `trace` is neither `true` nor `false`. -/
  | badTrace
  deriving DecidableEq, Repr

def QueryError.message : QueryError → String
  | missing field => invalid ++ "missing field `" ++ field ++ "`"
  | duplicate field => invalid ++ "duplicate field `" ++ field ++ "`"
  | badTrace => invalid ++ "trace: provided string was not `true` or `false`"
where
  invalid := "Failed to deserialize query string: "

structure StemQuery where
  word : Word
  trace : Bool
  deriving DecidableEq, Repr

/-- Reads the pairs one by one; the first one that is wrong decides. Unknown names are skipped. -/
def readStemPairs (word : Option Word) (trace : Option Bool) :
    List (List Char × List Char) → Except QueryError StemQuery
  | [] =>
    match word with
    | some word => .ok { word, trace := trace.getD false }
    | none => .error (.missing "word")
  | (name, value) :: pairs =>
    if name = "word".toList then
      if word.isSome then .error (.duplicate "word") else readStemPairs (some value) trace pairs
    else if name = "trace".toList then
      if trace.isSome then .error (.duplicate "trace")
      else if value = "true".toList then readStemPairs word (some true) pairs
      else if value = "false".toList then readStemPairs word (some false) pairs
      else .error .badTrace
    else readStemPairs word trace pairs

def readStemQuery (query : List Char) : Except QueryError StemQuery :=
  readStemPairs none none (formPairs query)

def readTextPairs (text : Option (List Char)) :
    List (List Char × List Char) → Except QueryError (List Char)
  | [] =>
    match text with
    | some text => .ok text
    | none => .error (.missing "text")
  | (name, value) :: pairs =>
    if name = "text".toList then
      if text.isSome then .error (.duplicate "text") else readTextPairs (some value) pairs
    else readTextPairs text pairs

def readTextQuery (query : List Char) : Except QueryError (List Char) :=
  readTextPairs none (formPairs query)

end Stemming.Http
