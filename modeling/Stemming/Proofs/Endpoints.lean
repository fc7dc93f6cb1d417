import Stemming.Http.Service
import Stemming.Proofs.AbbreviationFile
import Stemming.Proofs.Derivation
import Stemming.Proofs.ReadBack

/-! What the service answers. A word is stemmed the same whether it is asked for alone, with its
trace or in a batch, and no answer holds more tokens than the cap allows. Answers are described by
the fields of their bodies, which are those that a reader of the text finds. -/
namespace Stemming

/-- Trimming leaves something of a text exactly when not all of it is blank. -/
theorem Text.trim_eq_nil_iff {s : List Char} : trim s = [] ↔ ∀ c ∈ s, isBlank c = true := by
  rw [trim_eq_rdropWhile, List.rdropWhile_eq_nil_iff]
  constructor
  · intro h c hc
    rw [← List.takeWhile_append_dropWhile (p := isBlank) (l := s)] at hc
    rcases List.mem_append.mp hc with hc | hc
    · exact List.mem_takeWhile_imp hc
    · exact h c hc
  · intro h c hc
    exact h c ((List.dropWhile_suffix isBlank).subset hc)

namespace Http

/-- The values that a query gives a name, in order. -/
def valuesOf (name : String) (pairs : List (List Char × List Char)) : List (List Char) :=
  (pairs.filter fun pair => pair.1 = name.toList).map Prod.snd

theorem valuesOf_cons (name : String) (pair : List Char × List Char)
    (pairs : List (List Char × List Char)) :
    valuesOf name (pair :: pairs) =
      if pair.1 = name.toList then pair.2 :: valuesOf name pairs else valuesOf name pairs := by
  unfold valuesOf
  by_cases h : pair.1 = name.toList
  · simp [h]
  · simp [h]

/-- How a flag is written in a query. -/
def flagText (b : Bool) : List Char := if b then "true".toList else "false".toList

theorem flagText_injective : Function.Injective flagText := by
  unfold Function.Injective
  decide

section Reading

variable {pairs : List (List Char × List Char)}

/-- A query that names a word once, and the trace once or not at all, is read as such. -/
theorem readStemPairs_eq {seenWord : Option Word} {seenTrace : Option Bool} {word : Word}
    {trace : Option Bool} (hword : seenWord.toList ++ valuesOf "word" pairs = [word])
    (htrace : (seenTrace.map flagText).toList ++ valuesOf "trace" pairs =
      (trace.map flagText).toList) :
    readStemPairs seenWord seenTrace pairs = .ok { word, trace := trace.getD false } := by
  induction pairs generalizing seenWord seenTrace with
  | nil =>
    obtain rfl : seenWord = some word := by
      cases seenWord with
      | none => simp [valuesOf] at hword
      | some found => simpa [valuesOf] using hword
    have hflags : seenTrace.map flagText = trace.map flagText := by
      simpa [valuesOf] using congrArg List.head? htrace
    obtain rfl := Option.map_injective flagText_injective hflags
    rfl
  | cons pair pairs ih =>
    obtain ⟨name, value⟩ := pair
    rw [valuesOf_cons] at hword htrace
    unfold readStemPairs
    by_cases hw : name = "word".toList
    · have ht : name ≠ "trace".toList := by rw [hw]; decide
      simp only [if_pos hw, if_neg ht] at hword htrace ⊢
      cases seenWord with
      | some found => simp at hword
      | none => exact ih hword htrace
    by_cases ht : name = "trace".toList
    · simp only [if_neg hw, if_pos ht] at hword htrace ⊢
      -- The value is the one written for the flag, and no other follows.
      obtain ⟨rfl, b, rfl, rfl, hlast⟩ : seenTrace = none ∧ ∃ b, trace = some b ∧
          value = flagText b ∧ valuesOf "trace" pairs = [] := by
        cases seenTrace <;> cases trace <;> simp_all
      have hread : readStemPairs seenWord (some b) pairs = .ok { word, trace := b } :=
        ih hword (by simp [hlast])
      cases b with
      | true => exact hread
      | false => exact hread
    · simp only [if_neg hw, if_neg ht] at hword htrace ⊢
      exact ih hword htrace

theorem readTextPairs_eq {seen : Option (List Char)} {text : List Char}
    (h : seen.toList ++ valuesOf "text" pairs = [text]) : readTextPairs seen pairs = .ok text := by
  induction pairs generalizing seen with
  | nil =>
    cases seen with
    | none => simp [valuesOf] at h
    | some found =>
      obtain rfl : found = text := by simpa [valuesOf] using h
      rfl
  | cons pair pairs ih =>
    obtain ⟨name, value⟩ := pair
    rw [valuesOf_cons] at h
    unfold readTextPairs
    by_cases hname : name = "text".toList
    · simp only [if_pos hname] at h ⊢
      cases seen with
      | some found => simp at h
      | none => exact ih h
    · simp only [if_neg hname] at h ⊢
      exact ih h

end Reading

/-- A JSON answer. -/
def jsonResponse (status : Nat) (fields : List (String × Json)) (warnings : List Warning) :
    Response :=
  { status, contentType := some "application/json", body := (Json.obj fields).render, warnings }

/-- The value of a field of an object. -/
def fieldOf? (name : String) : Json → Option Json
  | .obj fields => fields.lookup name
  | _ => none

namespace Response

/-- The value that the text of the body holds. -/
def json? (r : Response) : Option Json := Json.read? (Utf8.encode r.body)

def field? (r : Response) (name : String) : Option Json := r.json?.bind (fieldOf? name)

end Response

section Views

variable (status : Nat) (fields : List (String × Json)) (warnings : List Warning)

@[simp] theorem status_jsonResponse : (jsonResponse status fields warnings).status = status := rfl

@[simp] theorem warnings_jsonResponse :
    (jsonResponse status fields warnings).warnings = warnings := rfl

@[simp] theorem json?_jsonResponse :
    (jsonResponse status fields warnings).json? = some (.obj fields) := Json.read?_render _

@[simp] theorem field?_jsonResponse (name : String) :
    (jsonResponse status fields warnings).field? name = fields.lookup name := by
  simp [Response.field?, fieldOf?]

end Views

def errorFields (refusal : Refusal) : List (String × Json) :=
  [("error", .str refusal.message.toList)]

namespace Request

/-- The request posts a batch of words. -/
structure Posts (r : Request) (words : List Word) : Prop where
  method : r.method = "POST"
  path : r.parts.1 = Resource.stem.path.toList
  json : r.hasJsonBody = true
  size : r.body.length ≤ Service.bodyLimit
  body : readBatch r.body = .ok words

/-- The request asks for the stem of a word, and says whether it wants the trace or does not. -/
structure AsksStem (r : Request) (word : Word) (trace : Option Bool) : Prop where
  method : r.method = "GET"
  path : r.parts.1 = Resource.stem.path.toList
  word : valuesOf "word" (formPairs r.parts.2) = [word]
  trace : valuesOf "trace" (formPairs r.parts.2) = (trace.map flagText).toList

/-- The request asks for the tokens of a text. -/
structure AsksTokens (r : Request) (text : List Char) : Prop where
  method : r.method = "GET"
  path : r.parts.1 = Resource.preprocess.path.toList
  text : valuesOf "text" (formPairs r.parts.2) = [text]

end Request

namespace Service

variable (s : Service)

section Routing

variable {r : Request}

theorem respond_get {resource : Resource} (hmethod : r.method = "GET")
    (hpath : r.parts.1 = resource.path.toList) :
    s.respond r = (s.get r.parts.2 resource).response := by
  have hresource : Resource.ofPath? resource.path.toList = some resource := by
    cases resource <;> decide
  unfold respond
  simp only [hpath, hresource, hmethod, if_true]

theorem respond_post (hmethod : r.method = "POST")
    (hpath : r.parts.1 = Resource.stem.path.toList) : s.respond r = (s.post r).response := by
  have hresource : Resource.ofPath? Resource.stem.path.toList = some .stem := by decide
  unfold respond
  simp only [hpath, hresource, hmethod]
  rfl

theorem respond_of_posts {words : List Word} (h : r.Posts words) :
    s.respond r = (s.stemTokens words).response := by
  rw [s.respond_post h.method h.path, post, if_pos h.json, if_neg (Nat.not_lt.mpr h.size), h.body]

theorem respond_of_asksStem {word : Word} {trace : Option Bool} (h : r.AsksStem word trace) :
    s.respond r = (stemWord { word, trace := trace.getD false }).response := by
  have hquery : readStemQuery r.parts.2 = .ok { word, trace := trace.getD false } :=
    readStemPairs_eq (by simp [h.word]) (by simp [h.trace])
  rw [s.respond_get h.method h.path, get, hquery]

theorem respond_of_asksTokens {text : List Char} (h : r.AsksTokens text) :
    s.respond r = (s.preprocess text).response := by
  have hquery : readTextQuery r.parts.2 = .ok text := readTextPairs_eq (by simp [h.text])
  rw [s.respond_get h.method h.path, get, hquery]

end Routing

section Batch

variable {words : List Word}

theorem response_stemTokens_of_le (h : words.length ≤ s.maxTokens) :
    (s.stemTokens words).response =
      jsonResponse 200 [("stems", .arr ((words.map stem).map .str))] [] := by
  rw [stemTokens, if_neg (Nat.not_lt.mpr h), stemBatch_eq_stemAll]
  rfl

theorem response_stemTokens_of_lt (h : s.maxTokens < words.length) :
    (s.stemTokens words).response =
      jsonResponse 400 (errorFields (.tooManyTokens words.length s.maxTokens))
        [.largeBatch words.length] := by
  rw [stemTokens, if_pos h]
  rfl

end Batch

theorem output_stemTraced (w : Word) : (stemTraced w).output = stem w :=
  (Selector.derivation_linked Stage.select Stage.sequence w).last_output

/-- The first record of a trace is that of `plural` for the word. -/
theorem exists_head?_stemTraced (w : Word) :
    ∃ first, (stemTraced w).records.head? = some first ∧ first.stage = .plural ∧
      first.input = w := by
  rw [stemTraced_records]
  exact ⟨_, rfl, rfl, rfl⟩

/-- The last record of a trace is that of `cleanup` for the stem. -/
theorem exists_getLast?_stemTraced (w : Word) :
    ∃ last, (stemTraced w).records.getLast? = some last ∧ last.stage = .cleanup ∧
      last.output = stem w := by
  have hstage : ((stemTraced w).records.map StageRecord.stage).getLast? = some .cleanup := by
    rw [stemTraced_records, List.map_cons, List.map_append, Stage.map_stage_derivation (by decide),
      ← List.cons_append, List.getLast?_append]
    rfl
  rw [List.getLast?_map] at hstage
  obtain ⟨last, hlast, hstage⟩ := Option.map_eq_some_iff.mp hstage
  refine ⟨last, hlast, hstage, ?_⟩
  have houtput := output_stemTraced w
  rwa [Trace.output, hlast] at houtput

/-- The stem field does not depend on whether the trace comes with it. -/
theorem response_stemWord (word : Word) (trace : Bool) :
    (stemWord { word, trace }).response =
      jsonResponse 200 ([("word", .str word), ("stem", .str (stem word))] ++
        if trace then [("trace", .arr ((stemTraced word).records.map recordJson))] else []) [] := by
  cases trace with
  | false => rfl
  | true =>
    rw [← output_stemTraced]
    rfl

/-- The answers to a text, in the order in which its faults are looked for. -/
theorem response_preprocess_cases (text : List Char) :
    ((∀ c ∈ text, Text.isBlank c = true) ∧
      (s.preprocess text).response = jsonResponse 400 (errorFields .textRequired) []) ∨
    ((∃ c ∈ text, Text.isBlank c = false) ∧ s.maxTokens < (tokenize text).length ∧
      (s.preprocess text).response =
        jsonResponse 400 (errorFields (.tooManyTokens (tokenize text).length s.maxTokens))
          [.largeText (tokenize text).length]) ∨
    ((∃ c ∈ text, Text.isBlank c = false) ∧ (tokenize text).length ≤ s.maxTokens ∧
      s.maxTokens < (s.pipeline.process text).length ∧ (s.preprocess text).response =
        jsonResponse 400
          (errorFields (.tooManyTokens (s.pipeline.process text).length s.maxTokens)) []) ∨
    ((∃ c ∈ text, Text.isBlank c = false) ∧ (tokenize text).length ≤ s.maxTokens ∧
      (s.pipeline.process text).length ≤ s.maxTokens ∧ (s.preprocess text).response =
        jsonResponse 200
          [("text", .str text), ("tokens", .arr ((s.pipeline.process text).map .str))] []) := by
  by_cases hblank : Text.trim text = []
  · left
    refine ⟨Text.trim_eq_nil_iff.mp hblank, ?_⟩
    rw [preprocess, if_pos (by simp [hblank])]
    rfl
  right
  have htext : ∃ c ∈ text, Text.isBlank c = false := by
    simpa [Text.trim_eq_nil_iff] using hblank
  rw [preprocess, if_neg (by simp [hblank])]
  by_cases hraw : s.maxTokens < (tokenize text).length
  · left
    exact ⟨htext, hraw, congrArg Handled.response (if_pos hraw)⟩
  right
  rw [if_neg hraw]
  by_cases hout : s.maxTokens < (s.pipeline.process text).length
  · left
    exact ⟨htext, Nat.not_lt.mp hraw, hout, congrArg Handled.response (if_pos hout)⟩
  · right
    exact ⟨htext, Nat.not_lt.mp hraw, Nat.not_lt.mp hout,
      congrArg Handled.response (if_neg hout)⟩

/-- A text is answered with its tokens exactly when it is not blank and keeps to the cap, before
the pipeline and after it. Only a text that is too long before the pipeline is logged. -/
theorem response_preprocess (text : List Char) :
    ((s.preprocess text).response.status = 200 ↔ (∃ c ∈ text, Text.isBlank c = false) ∧
      (tokenize text).length ≤ s.maxTokens ∧
      (s.pipeline.process text).length ≤ s.maxTokens) ∧
    ((s.preprocess text).response.status = 200 → (s.preprocess text).response =
      jsonResponse 200
        [("text", .str text), ("tokens", .arr ((s.pipeline.process text).map .str))] []) ∧
    ((s.preprocess text).response.warnings ≠ [] ↔
      (∃ c ∈ text, Text.isBlank c = false) ∧ s.maxTokens < (tokenize text).length) := by
  rcases s.response_preprocess_cases text with
    ⟨hblank, h⟩ | ⟨htext, hraw, h⟩ | ⟨htext, hraw, hout, h⟩ | ⟨htext, hraw, hout, h⟩
  · have hnone : ¬∃ c ∈ text, Text.isBlank c = false := by simpa using hblank
    simp [h, hnone]
  · simp [h, htext, hraw, Nat.not_le.mpr hraw]
  · simp [h, hraw, hout]
  · simp [h, htext, hraw, hout]

theorem status_refused (refusal : Refusal) (warnings : List Warning) :
    (Handled.mk (.refused refusal) warnings).response.status = 400 := rfl

/-- No batch of stems is larger than the cap. -/
theorem exists_stems_of_post {r : Request} (h : (s.post r).response.status = 200) :
    ∃ stems : List Word, stems.length ≤ s.maxTokens ∧
      (s.post r).response = jsonResponse 200 [("stems", .arr (stems.map .str))] [] := by
  unfold post at h ⊢
  by_cases hjson : r.hasJsonBody = true
  · rw [if_pos hjson] at h ⊢
    by_cases hsize : bodyLimit < r.body.length
    · simp [if_pos hsize, status_refused] at h
    · rw [if_neg hsize] at h ⊢
      cases hbody : readBatch r.body with
      | error e => simp [hbody, status_refused] at h
      | ok words =>
        simp only [hbody] at h ⊢
        by_cases hcap : words.length ≤ s.maxTokens
        · exact ⟨words.map stem, by simpa using hcap, s.response_stemTokens_of_le hcap⟩
        · simp [s.response_stemTokens_of_lt (Nat.not_le.mp hcap)] at h
  · simp [if_neg hjson, status_refused] at h

/-- No list of tokens is longer than the cap. -/
theorem exists_tokens_of_get {query : List Char}
    (h : (s.get query .preprocess).response.status = 200) :
    ∃ (text : List Char) (tokens : List Token), tokens.length ≤ s.maxTokens ∧
      (s.get query .preprocess).response =
        jsonResponse 200 [("text", .str text), ("tokens", .arr (tokens.map .str))] [] := by
  unfold get at h ⊢
  cases hquery : readTextQuery query with
  | error e => simp [hquery, status_refused] at h
  | ok text =>
    simp only [hquery] at h ⊢
    obtain ⟨hstatus, hbody, -⟩ := s.response_preprocess text
    exact ⟨text, s.pipeline.process text, (hstatus.mp h).2.2, hbody h⟩

/-- What the endpoints answer. The text of a body holds the fields it is said to have. A batch
within the cap gets the stem of each of its words, and a larger one a refusal and a warning; a stem
of a batch is the one that its word gets alone, with or without the trace, whose entries begin with
the word and end with the stem; a text gets its tokens if it is not blank and keeps to the cap
before the pipeline and after it, and a warning if it breaks the cap before it. So no list that is
answered is longer than the cap. -/
theorem endpoints_agree :
    (∀ (status : Nat) (fields : List (String × Json)) (warnings : List Warning),
      (jsonResponse status fields warnings).json? = some (.obj fields)) ∧
    (∀ (r : Request) (words : List Word), r.Posts words → words.length ≤ s.maxTokens →
      s.respond r = jsonResponse 200 [("stems", .arr ((words.map stem).map .str))] []) ∧
    (∀ (r : Request) (words : List Word), r.Posts words → s.maxTokens < words.length →
      s.respond r = jsonResponse 400
        [("error", .str ("too many tokens: " ++ Nat.repr words.length ++
          " (max " ++ Nat.repr s.maxTokens ++ ")").toList)] [.largeBatch words.length]) ∧
    (∀ (r q : Request) (words : List Word) (i : Nat) (word : Word) (trace : Option Bool),
      r.Posts words → words.length ≤ s.maxTokens → words[i]? = some word → q.AsksStem word trace →
      ∃ (stems : List Word) (st : Word) (rest : List (String × Json)),
        s.respond r = jsonResponse 200 [("stems", .arr (stems.map .str))] [] ∧
        stems.length = words.length ∧ stems[i]? = some st ∧
        s.respond q = jsonResponse 200 ([("word", .str word), ("stem", .str st)] ++ rest) [] ∧
        (s.respond r).field? "stems" = some (.arr (stems.map .str)) ∧
        (s.respond q).field? "stem" = some (.str st)) ∧
    (∀ (q : Request) (word : Word) (trace : Option Bool), q.AsksStem word trace →
      ∃ (records : List StageRecord) (first last : StageRecord) (entries : List Json),
        records.head? = some first ∧ first.input = word ∧
        records.getLast? = some last ∧ last.output = stem word ∧
        entries = records.map recordJson ∧
        entries.head? = some (.obj [("stage", .str "1a".toList), ("name", .str "plural".toList),
          ("input", .str word), ("output", .str first.output),
          ("suffix", (first.suffix.map Json.str).getD .null)]) ∧
        entries.getLast? = some (.obj [("stage", .str "5".toList), ("name", .str "cleanup".toList),
          ("input", .str last.input), ("output", .str (stem word)),
          ("suffix", (last.suffix.map Json.str).getD .null)]) ∧
        s.respond q = jsonResponse 200 ([("word", .str word), ("stem", .str (stem word))] ++
          if trace = some true then [("trace", .arr entries)] else []) []) ∧
    (∀ (q : Request) (text : List Char), q.AsksTokens text →
      ((s.respond q).status = 200 ↔ (∃ c ∈ text, Text.isBlank c = false) ∧
        (tokenize text).length ≤ s.maxTokens ∧
        (s.pipeline.process text).length ≤ s.maxTokens) ∧
      ((s.respond q).status = 200 → s.respond q =
        jsonResponse 200 [("text", .str text),
          ("tokens", .arr ((s.pipeline.process text).map .str))] []) ∧
      ((s.respond q).warnings ≠ [] ↔
        (∃ c ∈ text, Text.isBlank c = false) ∧ s.maxTokens < (tokenize text).length)) ∧
    (∀ r : Request, r.method = "POST" → r.parts.1 = Resource.stem.path.toList →
      (s.respond r).status = 200 → ∃ stems : List Word, stems.length ≤ s.maxTokens ∧
        s.respond r = jsonResponse 200 [("stems", .arr (stems.map .str))] []) ∧
    (∀ q : Request, q.method = "GET" → q.parts.1 = Resource.preprocess.path.toList →
      (s.respond q).status = 200 → ∃ (text : List Char) (tokens : List Token),
        tokens.length ≤ s.maxTokens ∧ s.respond q =
          jsonResponse 200 [("text", .str text), ("tokens", .arr (tokens.map .str))] []) := by
  refine ⟨json?_jsonResponse, ?batch, ?large, ?agree, ?alone, ?text, ?stems, ?tokens⟩
  case batch =>
    intro r words hr hcap
    rw [s.respond_of_posts hr, s.response_stemTokens_of_le hcap]
  case large =>
    intro r words hr hcap
    rw [s.respond_of_posts hr, s.response_stemTokens_of_lt hcap]
    rfl
  case agree =>
    intro r q words i word trace hr hcap hi hq
    have halone := s.respond_of_asksStem hq
    have hbatch := s.respond_of_posts hr
    rw [response_stemWord] at halone
    rw [s.response_stemTokens_of_le hcap] at hbatch
    refine ⟨words.map stem, stem word, _, hbatch, by simp, by simp [hi], halone, ?_, ?_⟩
    · rw [hbatch, field?_jsonResponse]
      rfl
    · rw [halone, field?_jsonResponse]
      rfl
  case alone =>
    intro q word trace hq
    obtain ⟨first, hfirst, hplural, hinput⟩ := exists_head?_stemTraced word
    obtain ⟨last, hlast, hcleanup, houtput⟩ := exists_getLast?_stemTraced word
    refine ⟨(stemTraced word).records, first, last, _, hfirst, hinput, hlast, houtput, rfl, ?_, ?_,
      ?_⟩
    · rw [List.head?_map, hfirst, Option.map_some, recordJson, hplural, hinput]
      rfl
    · rw [List.getLast?_map, hlast, Option.map_some, recordJson, hcleanup, houtput]
      rfl
    · rw [s.respond_of_asksStem hq, response_stemWord]
      rcases trace with _ | _ | _ <;> rfl
  case text =>
    intro q text hq
    rw [s.respond_of_asksTokens hq]
    exact s.response_preprocess text
  case stems =>
    intro r hmethod hpath h
    rw [s.respond_post hmethod hpath] at h ⊢
    exact s.exists_stems_of_post h
  case tokens =>
    intro q hmethod hpath h
    rw [s.respond_get hmethod hpath] at h ⊢
    exact s.exists_tokens_of_get h

/-- With a cap of one token: a batch of one word and one of two, a word with its trace, and texts
of one token, of two, and of one that the pipeline makes two. -/
theorem endpoints_agree_cap_one :
    let s : Service :=
      { pipeline :=
          { options :=
              { expandAbbreviations := false, lowercase := false, stripSpecial := false,
                removeStopwords := false, stem := false, stripAccents := false } },
        maxTokens := 1 }
    let post (body : String) : Request :=
      { method := "POST", target := "/v1/stem", contentType := some "application/json",
        body := Utf8.encode body.toList }
    let get (target : String) : Request :=
      { method := "GET", target, contentType := none, body := [] }
    let one := post "\x7b\"tokens\":[\"cats\"]\x7d"
    let two := post "\x7b\"tokens\":[\"cats\",\"dogs\"]\x7d"
    let alone := get "/v1/stem?word=cats&trace=true"
    let short := get "/v1/preprocess?text=cats"
    let long := get "/v1/preprocess?text=cats+dogs"
    let grown := get "/v1/preprocess?text=don%27t"
    one.Posts ["cats".toList] ∧ two.Posts ["cats".toList, "dogs".toList] ∧
    alone.AsksStem "cats".toList (some true) ∧ short.AsksTokens "cats".toList ∧
    long.AsksTokens "cats dogs".toList ∧ grown.AsksTokens "don't".toList ∧
    s.respond one = jsonResponse 200 [("stems", .arr [.str "cat".toList])] [] ∧
    (s.respond one).body = "\x7b\"stems\":[\"cat\"]\x7d".toList ∧
    (s.respond one).json? = some (.obj [("stems", .arr [.str "cat".toList])]) ∧
    s.respond two = jsonResponse 400 [("error", .str "too many tokens: 2 (max 1)".toList)]
      [.largeBatch 2] ∧
    (∃ (stems : List Word) (st : Word) (rest : List (String × Json)),
      s.respond one = jsonResponse 200 [("stems", .arr (stems.map .str))] [] ∧
      stems[0]? = some st ∧
      s.respond alone = jsonResponse 200 ([("word", .str "cats".toList), ("stem", .str st)] ++ rest)
        [] ∧
      (s.respond one).field? "stems" = some (.arr (stems.map .str)) ∧
      (s.respond alone).field? "stem" = some (.str st)) ∧
    (∃ (records : List StageRecord) (first last : StageRecord) (entries : List Json),
      records.head?.map StageRecord.input = some "cats".toList ∧
      records.getLast?.map StageRecord.output = some "cat".toList ∧
      entries = records.map recordJson ∧
      entries.head? = some (.obj [("stage", .str "1a".toList), ("name", .str "plural".toList),
        ("input", .str "cats".toList), ("output", .str first.output),
        ("suffix", (first.suffix.map Json.str).getD .null)]) ∧
      entries.getLast? = some (.obj [("stage", .str "5".toList), ("name", .str "cleanup".toList),
        ("input", .str last.input), ("output", .str "cat".toList),
        ("suffix", (last.suffix.map Json.str).getD .null)]) ∧
      s.respond alone = jsonResponse 200 [("word", .str "cats".toList), ("stem", .str "cat".toList),
        ("trace", .arr entries)] []) ∧
    s.respond short =
      jsonResponse 200 [("text", .str "cats".toList), ("tokens", .arr [.str "cats".toList])] [] ∧
    (s.respond long).status ≠ 200 ∧ (s.respond long).warnings ≠ [] ∧
    (s.respond grown).status ≠ 200 ∧ (s.respond grown).warnings = [] ∧
    (∃ stems : List Word, stems.length ≤ 1 ∧
      s.respond one = jsonResponse 200 [("stems", .arr (stems.map .str))] []) ∧
    (∃ (text : List Char) (tokens : List Token), tokens.length ≤ 1 ∧ s.respond short =
      jsonResponse 200 [("text", .str text), ("tokens", .arr (tokens.map .str))] []) := by
  intro s post get one two alone short long grown
  have hone : one.Posts ["cats".toList] := by
    have htext : one.body =
        Utf8.encode (Json.obj [("tokens", .strings ["cats".toList])]).render := by decide +kernel
    exact ⟨rfl, by decide +kernel, by decide +kernel, by decide +kernel,
      htext ▸ readBatch_tokens _⟩
  have htwo : two.Posts ["cats".toList, "dogs".toList] := by
    have htext : two.body = Utf8.encode
        (Json.obj [("tokens", .strings ["cats".toList, "dogs".toList])]).render := by decide +kernel
    exact ⟨rfl, by decide +kernel, by decide +kernel, by decide +kernel,
      htext ▸ readBatch_tokens _⟩
  have halone : alone.AsksStem "cats".toList (some true) :=
    ⟨rfl, by decide +kernel, by decide +kernel, by decide +kernel⟩
  have hshort : short.AsksTokens "cats".toList := ⟨rfl, by decide +kernel, by decide +kernel⟩
  have hlong : long.AsksTokens "cats dogs".toList := ⟨rfl, by decide +kernel, by decide +kernel⟩
  have hgrown : grown.AsksTokens "don't".toList := ⟨rfl, by decide +kernel, by decide +kernel⟩
  have hstem : stem "cats".toList = "cat".toList := by decide +kernel
  have hprocess : s.pipeline.process "cats".toList = ["cats".toList] := by decide +kernel
  obtain ⟨hjson, hbatch, hlarge, hagree, hword, htext, hstems, htokens⟩ := s.endpoints_agree
  have hcats : s.respond one = jsonResponse 200 [("stems", .arr [.str "cat".toList])] [] := by
    rw [hbatch one _ hone (by decide), List.map_singleton, List.map_singleton, hstem]
  obtain ⟨stems, st, rest, hsame, -, hst, hrest⟩ :=
    hagree one alone _ 0 _ _ hone (by decide) rfl halone
  obtain ⟨records, first, last, entries, hfirst, hinput, hlast, houtput, hentries, hhead, htail,
    htrace⟩ := hword alone _ _ halone
  rw [hstem] at houtput htail htrace
  obtain ⟨hokShort, hbodyShort, -⟩ := htext short _ hshort
  obtain ⟨hokLong, -, hwarnLong⟩ := htext long _ hlong
  obtain ⟨hokGrown, -, hwarnGrown⟩ := htext grown _ hgrown
  have hshortOk : (s.respond short).status = 200 :=
    hokShort.mpr ⟨⟨'c', by decide, by decide⟩, by decide +kernel, by rw [hprocess]; decide⟩
  refine ⟨hone, htwo, halone, hshort, hlong, hgrown, hcats, ?_, hcats ▸ hjson _ _ _, ?_,
    ⟨stems, st, rest, hsame, hst, hrest⟩,
    ⟨records, first, last, entries, ?_, ?_, hentries, hhead, htail, htrace⟩, ?_, ?_, ?_, ?_, ?_,
    hstems one rfl hone.path (by rw [hcats]; rfl), htokens short rfl hshort.path hshortOk⟩
  · rw [hcats]
    decide +kernel
  · rw [hlarge two _ htwo (by decide)]
    exact congrArg (fun m => jsonResponse 400 [("error", .str m)] [.largeBatch 2])
      (by decide +kernel)
  · rw [hfirst, Option.map_some, hinput]
  · rw [hlast, Option.map_some, houtput]
  · rw [hbodyShort hshortOk, hprocess, List.map_singleton]
  · exact fun h => absurd (hokLong.mp h).2.1 (by decide +kernel)
  · exact hwarnLong.mpr ⟨⟨'c', by decide, by decide⟩, by decide +kernel⟩
  · exact fun h => absurd (hokGrown.mp h).2.2 (by decide +kernel)
  · exact not_ne_iff.mp fun h => absurd (hwarnGrown.mp h).2 (by decide +kernel)

end Service

end Http

end Stemming
