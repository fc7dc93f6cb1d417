import Stemming.Http.Batch
import Stemming.Http.MediaType
import Stemming.Http.Query
import Stemming.Json
import Stemming.Pipeline
import Stemming.Stem.Trace
import Stemming.Text.Split

/-! The HTTP service: stemming a word or a batch, and preprocessing a text. -/
namespace Stemming.Http

/-- Why a request is refused. -/
inductive Refusal where
  | query (e : QueryError)
  | notJson
  | bodyTooLarge
  | body (e : BatchError)
  | textRequired
  | tooManyTokens (count max : Nat)

def Refusal.message : Refusal → String
  | query e => e.message
  | notJson => "Expected request with `Content-Type: application/json`"
  | bodyTooLarge => "Failed to buffer the request body: length limit exceeded"
  | body e => e.message
  | textRequired => "text is required"
  | tooManyTokens count max =>
    "too many tokens: " ++ Nat.repr count ++ " (max " ++ Nat.repr max ++ ")"

inductive Answer where
  | healthy
  | stemmed (word stem : Word) (trace : Option (List StageRecord))
  | stems (words : List Word)
  | preprocessed (text : List Char) (tokens : List Token)
  | refused (refusal : Refusal)

/-- A warning for the log. -/
inductive Warning where
  | largeBatch (count : Nat)
  | largeText (count : Nat)
  deriving DecidableEq, Repr

def Warning.message : Warning → String
  | largeBatch count => "rejecting stem batch of " ++ Nat.repr count ++ " tokens"
  | largeText count => "rejecting preprocess text of " ++ Nat.repr count ++ " tokens"

/-- What a handler answers, and what it logs. -/
structure Handled where
  answer : Answer
  warnings : List Warning := []

structure Service where
  pipeline : Pipeline
  maxTokens : Nat

namespace Service

/-- Stems one word, with the record of its stages if asked for. -/
def stemWord (q : StemQuery) : Handled :=
  if q.trace then
    let trace := stemTraced q.word
    { answer := .stemmed q.word trace.output (some trace.records) }
  else { answer := .stemmed q.word (stem q.word) none }

def stemTokens (s : Service) (tokens : List Token) : Handled :=
  if s.maxTokens < tokens.length then
    { answer := .refused (.tooManyTokens tokens.length s.maxTokens)
      warnings := [.largeBatch tokens.length] }
  else { answer := .stems (stemBatch tokens) }

/-- Runs the pipeline on a text. The cap holds before the pipeline and, since expansions add
tokens, again after it. -/
def preprocess (s : Service) (text : List Char) : Handled :=
  if (Text.trim text).isEmpty then { answer := .refused .textRequired }
  else
    let raw := tokenize text
    if s.maxTokens < raw.length then
      { answer := .refused (.tooManyTokens raw.length s.maxTokens)
        warnings := [.largeText raw.length] }
    else
      let tokens := s.pipeline.processTokens raw
      if s.maxTokens < tokens.length then
        { answer := .refused (.tooManyTokens tokens.length s.maxTokens) }
      else { answer := .preprocessed text tokens }

end Service

structure Request where
  method : String
  target : String
  contentType : Option String
  body : Bytes

namespace Request

def isSchemeChar (c : Char) : Bool := c.isAlphanum || c == '+' || c == '-' || c == '.'

/-- A target that names the server first, without that name. -/
def dropServer (target : List Char) : List Char :=
  match target.takeWhile isSchemeChar, target.dropWhile isSchemeChar with
  | _ :: _, ':' :: '/' :: '/' :: rest => rest.dropWhile fun c => c != '/' && c != '?'
  | _, _ => target

/-- The path and the query of the target. A fragment is dropped. -/
def parts (r : Request) : List Char × List Char :=
  let (path, query) := Text.cutAtChar '?' (dropServer (Text.cutAtChar '#' r.target.toList).1)
  (path, query.getD [])

def hasJsonBody (r : Request) : Bool :=
  (r.contentType.bind fun s => MediaType.parse? s.toList).any MediaType.isJson

end Request

inductive Resource where
  | health | stem | preprocess
  deriving DecidableEq, Repr

namespace Resource

def path : Resource → String
  | health => "/healthz"
  | stem => "/v1/stem"
  | preprocess => "/v1/preprocess"

/-- Paths match character by character. -/
def ofPath? (p : List Char) : Option Resource :=
  [health, stem, preprocess].find? fun r => r.path.toList == p

/-- The methods a resource takes. -/
def allow : Resource → String
  | stem => "GET,HEAD,POST"
  | _ => "GET,HEAD"

end Resource

structure Response where
  status : Nat
  contentType : Option String := none
  allow : Option String := none
  body : List Char := []
  warnings : List Warning := []

def recordJson (r : StageRecord) : Json :=
  .obj [("stage", .str r.stage.label.toList), ("name", .str r.stage.name.toList),
    ("input", .str r.input), ("output", .str r.output),
    ("suffix", (r.suffix.map Json.str).getD .null)]

/-- The JSON body of an answer; `none` for plain text. -/
def Answer.json? : Answer → Option Json
  | healthy => none
  | stemmed word stem trace =>
    some (.obj ([("word", .str word), ("stem", .str stem)]
      ++ (trace.map fun records => ("trace", Json.arr (records.map recordJson))).toList))
  | stems words => some (.obj [("stems", .strings words)])
  | preprocessed text tokens => some (.obj [("text", .str text), ("tokens", .strings tokens)])
  | refused refusal => some (.obj [("error", .str refusal.message.toList)])

def Answer.status : Answer → Nat
  | refused _ => 400
  | _ => 200

def Handled.response (h : Handled) : Response :=
  match h.answer.json? with
  | some json =>
    { status := h.answer.status, contentType := some "application/json", body := json.render,
      warnings := h.warnings }
  | none =>
    { status := h.answer.status, contentType := some "text/plain; charset=utf-8",
      body := "ok".toList, warnings := h.warnings }

namespace Service

def get (s : Service) (query : List Char) : Resource → Handled
  | .health => { answer := .healthy }
  | .stem =>
    match readStemQuery query with
    | .ok q => stemWord q
    | .error e => { answer := .refused (.query e) }
  | .preprocess =>
    match readTextQuery query with
    | .ok text => s.preprocess text
    | .error e => { answer := .refused (.query e) }

/-- The greatest number of bytes in a body. -/
def bodyLimit : Nat := 2097152

/-- A batch is read only when its content type says it is JSON and its size keeps to the limit. -/
def post (s : Service) (r : Request) : Handled :=
  if r.hasJsonBody then
    if bodyLimit < r.body.length then { answer := .refused .bodyTooLarge }
    else
      match readBatch r.body with
      | .ok tokens => s.stemTokens tokens
      | .error e => { answer := .refused (.body e) }
  else { answer := .refused .notJson }

/-- Answers a request. `HEAD` is answered as `GET`, without the body. -/
def respond (s : Service) (r : Request) : Response :=
  let (path, query) := r.parts
  match Resource.ofPath? path with
  | none => { status := 404 }
  | some resource =>
    if r.method = "GET" then (s.get query resource).response
    else if r.method = "HEAD" then { (s.get query resource).response with body := [] }
    else if r.method = "POST" && resource = .stem then (s.post r).response
    else { status := 405, allow := some resource.allow }

end Service

end Stemming.Http
