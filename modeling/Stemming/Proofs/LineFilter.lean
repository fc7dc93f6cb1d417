import Stemming.Program
import Stemming.Proofs.Alphabet
import Stemming.Proofs.Lines
import Stemming.Proofs.Utf8

/-! The line filter: one JSON array of tokens for each line of the input. The lines are decoded one
by one, and it has to be shown that this comes to decoding the input as a whole: the bytes that
separate lines are never part of a longer character. -/
namespace Stemming

namespace Utf8

/-- The bytes encode a text. -/
def Valid (bs : Bytes) : Prop := ∃ text, bs = encode text

theorem decode?_eq_none_iff {bs : Bytes} : decode? bs = none ↔ ¬Valid bs := by
  constructor
  · rintro h ⟨text, rfl⟩
    rw [decode?_encode] at h
    exact absurd h (by simp)
  · intro h
    cases hdecode : decode? bs with
    | none => rfl
    | some text => exact absurd ⟨text, eq_encode_of_decode? hdecode⟩ h

/-- Bytes can be cut around a byte below 128 without harm to what they encode. -/
theorem valid_append_ascii {b : UInt8} (hb : b.toNat < 0x80) {xs ys : Bytes} :
    Valid (xs ++ b :: ys) ↔ Valid xs ∧ Valid ys := by
  constructor
  · rintro ⟨text, h⟩
    obtain ⟨u, c, v, rfl, hu, -, hv⟩ :=
      exists_of_flatMap_eq (fun _ hc => encodeChar_of_mem hb hc) h.symm
    exact ⟨⟨u, hu.symm⟩, v, hv.symm⟩
  · rintro ⟨⟨u, rfl⟩, v, rfl⟩
    refine ⟨u ++ Char.ofNat b.toNat :: v, ?_⟩
    simp only [encode, List.flatMap_append, List.flatMap_cons, encodeChar_ascii hb]
    rfl

theorem valid_chomp {line : Bytes} : Valid (chomp line) ↔ Valid line := by
  unfold chomp
  split_ifs with h
  · obtain ⟨front, rfl⟩ := List.getLast?_eq_some_iff.mp h
    rw [List.dropLast_concat, valid_append_ascii (by decide)]
    exact ⟨fun hfront => ⟨hfront, [], rfl⟩, And.left⟩
  · rfl

/-- The bytes encode a text exactly when each of their lines does. -/
theorem valid_iff_lines {bs : Bytes} {ls : List Bytes} (h : LinesOf bs ls) :
    Valid bs ↔ ∀ line ∈ ls, Valid line := by
  induction h with
  | nil => exact ⟨fun _ _ hline => absurd hline List.not_mem_nil, fun _ => ⟨[], rfl⟩⟩
  | last => rw [List.forall_mem_singleton]
  | feed _ _ ih => rw [valid_append_ascii (by decide), ih, List.forall_mem_cons, valid_chomp]

/-- Lines that all encode texts, or the first one that does not. -/
theorem texts_or_fault (ls : List Bytes) :
    (∃ texts : List (List Char), ls = texts.map encode) ∨
      ∃ (texts : List (List Char)) (line : Bytes) (after : List Bytes),
        ls = texts.map encode ++ line :: after ∧ ¬Valid line := by
  induction ls with
  | nil => exact Or.inl ⟨[], rfl⟩
  | cons line ls ih =>
    by_cases hline : Valid line
    · obtain ⟨text, rfl⟩ := hline
      rcases ih with ⟨texts, rfl⟩ | ⟨texts, bad, after, rfl, hbad⟩
      · exact Or.inl ⟨text :: texts, rfl⟩
      · exact Or.inr ⟨text :: texts, bad, after, rfl, hbad⟩
    · exact Or.inr ⟨[], line, ls, rfl, hline⟩

theorem exists_texts {bs : Bytes} (h : Valid bs) :
    ∃ texts : List (List Char), LinesOf bs (texts.map encode) := by
  have hlines := linesOf_lines bs
  rcases texts_or_fault (lines bs) with ⟨texts, htexts⟩ | ⟨texts, line, after, hbad, hline⟩
  · exact ⟨texts, htexts ▸ hlines⟩
  · exact absurd ((valid_iff_lines hlines).mp h line (by simp [hbad])) hline

theorem exists_fault {bs : Bytes} (h : ¬Valid bs) :
    ∃ (texts : List (List Char)) (line : Bytes) (after : List Bytes),
      LinesOf bs (texts.map encode ++ line :: after) ∧ ¬Valid line := by
  have hlines := linesOf_lines bs
  rcases texts_or_fault (lines bs) with ⟨texts, htexts⟩ | ⟨texts, line, after, hbad, hline⟩
  · refine absurd ((valid_iff_lines hlines).mpr fun line hline => ?_) h
    rw [htexts] at hline
    obtain ⟨text, -, rfl⟩ := List.mem_map.mp hline
    exact ⟨text, rfl⟩
  · exact ⟨texts, line, after, hbad ▸ hlines, hline⟩

end Utf8

namespace Json

/-- The characters of words are written as they are. -/
theorem escapeChar_of_isWordChar {c : Char} (h : Token.isWordChar c = true) :
    escapeChar c = [c] := by
  have hquote : c ≠ '"' := by
    rintro rfl
    exact absurd h (by decide)
  have hbackslash : c ≠ '\\' := by
    rintro rfl
    exact absurd h (by decide)
  have hprintable : 0x20 ≤ c.toNat := by
    have hcontrols : ∀ n < 0x20, Token.isWordChar (Char.ofNat n) = false := by decide
    by_contra hlt
    have hc := hcontrols c.toNat (by omega)
    rw [Char.ofNat_toNat, h] at hc
    exact absurd hc (by simp)
  unfold escapeChar
  rw [if_neg hquote, if_neg hbackslash, if_pos hprintable]

theorem renderString_of_isWordChar {s : List Char} (h : ∀ c ∈ s, Token.isWordChar c = true) :
    renderString s = ['"'] ++ s ++ ['"'] := by
  unfold renderString
  rw [List.flatMap_congr fun c hc => escapeChar_of_isWordChar (h c hc), List.flatMap_singleton']

theorem renderItems_eq_map (items : List Json) : renderItems items = items.map render := by
  induction items with
  | nil => rfl
  | cons item items ih => rw [renderItems, ih, List.map_cons]

/-- Strings in quotes, as they are, between commas and brackets. -/
def plainArray (ss : List (List Char)) : List Char :=
  ['['] ++ [','].intercalate (ss.map fun s => ['"'] ++ s ++ ['"']) ++ [']']

theorem render_strings_of_isWordChar {ss : List (List Char)}
    (h : ∀ s ∈ ss, ∀ c ∈ s, Token.isWordChar c = true) : (strings ss).render = plainArray ss := by
  have hitems : (ss.map str).map render = ss.map fun s => ['"'] ++ s ++ ['"'] := by
    rw [List.map_map]
    apply List.map_congr_left
    intro s hs
    exact renderString_of_isWordChar (h s hs)
  rw [strings, render, renderItems_eq_map, hitems]
  rfl

theorem mem_intercalate {separator : List Char} {pieces : List (List Char)} {c : Char}
    (h : c ∈ separator.intercalate pieces) : c ∈ separator ∨ ∃ piece ∈ pieces, c ∈ piece := by
  induction pieces with
  | nil => simp [List.intercalate] at h
  | cons piece pieces ih =>
    cases pieces with
    | nil =>
      rw [List.intercalate_singleton] at h
      exact Or.inr ⟨piece, List.mem_cons_self, h⟩
    | cons next pieces =>
      rw [List.intercalate_cons_cons, List.mem_append, List.mem_append] at h
      rcases h with (h | h) | h
      · exact Or.inr ⟨piece, List.mem_cons_self, h⟩
      · exact Or.inl h
      · rcases ih h with h | ⟨later, hlater, h⟩
        · exact Or.inl h
        · exact Or.inr ⟨later, List.mem_cons_of_mem piece hlater, h⟩

/-- Beside the characters of words only brackets, commas and quotes are written. -/
theorem mem_plainArray {ss : List (List Char)} {c : Char} (hc : c ∈ plainArray ss) :
    c ∈ ['[', ',', '"', ']'] ∨ ∃ s ∈ ss, c ∈ s := by
  rw [plainArray, List.mem_append, List.mem_append] at hc
  rcases hc with (hc | hc) | hc
  · left
    simp [List.mem_singleton.mp hc]
  · rcases mem_intercalate hc with hc | ⟨piece, hpiece, hc⟩
    · left
      simp [List.mem_singleton.mp hc]
    · obtain ⟨s, hs, rfl⟩ := List.mem_map.mp hpiece
      simp only [List.mem_append, List.mem_singleton] at hc
      rcases hc with (rfl | hc) | rfl
      · exact Or.inl (by simp)
      · exact Or.inr ⟨s, hs, hc⟩
      · exact Or.inl (by simp)
  · left
    simp [List.mem_singleton.mp hc]

end Json

/-- Lines that encode texts are written one after the other. -/
theorem filterLines_texts (p : Pipeline) (n : Nat) (texts : List (List Char))
    (rest : List Bytes) :
    filterLines p n (texts.map Utf8.encode ++ rest) =
      (texts.flatMap (outputLine p) ++ (filterLines p (n + texts.length) rest).1,
        (filterLines p (n + texts.length) rest).2) := by
  induction texts generalizing n with
  | nil => rfl
  | cons text texts ih =>
    rw [List.map_cons, List.cons_append, filterLines, Utf8.decode?_encode]
    simp only [ih, List.flatMap_cons, List.append_assoc, List.length_cons]
    rw [Nat.add_right_comm, Nat.add_assoc]

theorem filterLines_fault (p : Pipeline) (n : Nat) {line : Bytes} (h : ¬Utf8.Valid line)
    (after : List Bytes) : filterLines p n (line :: after) = ([], some n) := by
  rw [filterLines, Utf8.decode?_eq_none_iff.mpr h]

/-- What is written does not depend on the number of the first line. -/
theorem filterLines_fst (p : Pipeline) (m n : Nat) (ls : List Bytes) :
    (filterLines p m ls).1 = (filterLines p n ls).1 := by
  rcases Utf8.texts_or_fault ls with ⟨texts, rfl⟩ | ⟨texts, line, after, rfl, hline⟩
  · rw [← List.append_nil (texts.map Utf8.encode), filterLines_texts, filterLines_texts]
    rfl
  · simp only [filterLines_texts, filterLines_fault p _ hline]

section Filter

variable (p : Pipeline) {stdin : Bytes}

theorem filterInput_of_texts {texts : List (List Char)}
    (h : LinesOf stdin (texts.map Utf8.encode)) :
    filterInput p stdin = (texts.flatMap (outputLine p), none) := by
  rw [filterInput, h.lines_eq, ← List.append_nil (texts.map Utf8.encode), filterLines_texts]
  simp [filterLines]

theorem filterInput_of_fault {texts : List (List Char)} {line : Bytes} {after : List Bytes}
    (h : LinesOf stdin (texts.map Utf8.encode ++ line :: after)) (hline : ¬Utf8.Valid line) :
    filterInput p stdin = (texts.flatMap (outputLine p), some (texts.length + 1)) := by
  rw [filterInput, h.lines_eq, filterLines_texts, filterLines_fault p _ hline, Nat.add_comm]
  simp

/-- The input goes on behind a line feed as if it began there. -/
theorem filterInput_append {front : Bytes} (hvalid : Utf8.Valid front)
    (hend : front = [] ∨ front.getLast? = some 10) (back : Bytes) :
    (filterInput p (front ++ back)).1 = (filterInput p front).1 ++ (filterInput p back).1 := by
  obtain ⟨texts, htexts⟩ := Utf8.exists_texts hvalid
  rw [filterInput_of_texts p htexts, filterInput, (lines_append hend back).1, htexts.lines_eq,
    filterLines_texts, filterInput, filterLines_fst p _ 1]

end Filter

section Output

variable {p : Pipeline} (hstrip : p.options.stripSpecial = true)
include hstrip

/-- The tokens of a pipeline that strips special characters are written without escapes. -/
theorem render_process (text : List Char) :
    (Json.strings (p.process text)).render = Json.plainArray (p.process text) := by
  apply Json.render_strings_of_isWordChar
  intro t ht
  exact (p.tidy_processTokens hstrip _ t ht).isWordChar

theorem not_mem_render_process {c : Char} (hword : Token.isWordChar c = false)
    (hmark : c ∉ ['[', ',', '"', ']']) (text : List Char) :
    c ∉ (Json.strings (p.process text)).render := by
  rw [render_process hstrip]
  intro hc
  rcases Json.mem_plainArray hc with hc | ⟨t, ht, hc⟩
  · exact hmark hc
  · have hchar := (p.tidy_processTokens hstrip _ t ht).isWordChar c hc
    rw [hword] at hchar
    exact absurd hchar Bool.false_ne_true

theorem backslash_not_mem_filterInput (stdin : Bytes) : '\\' ∉ (filterInput p stdin).1 := by
  have hlines (texts : List (List Char)) : '\\' ∉ texts.flatMap (outputLine p) := by
    intro h
    obtain ⟨text, -, h⟩ := List.mem_flatMap.mp h
    rcases List.mem_append.mp h with h | h
    · exact not_mem_render_process hstrip (by decide) (by decide) text h
    · exact absurd h (by decide)
  by_cases hvalid : Utf8.Valid stdin
  · obtain ⟨texts, htexts⟩ := Utf8.exists_texts hvalid
    rw [filterInput_of_texts p htexts]
    exact hlines texts
  · obtain ⟨texts, line, after, hfault, hline⟩ := Utf8.exists_fault hvalid
    rw [filterInput_of_fault p hfault hline]
    exact hlines texts

end Output

theorem Config.options_of_pipeline {c : Config} {read : FileReader} {p : Pipeline}
    (h : c.pipeline read = .ok p) : p.options = c.options := by
  unfold pipeline at h
  cases habbr : c.abbreviations read with
  | error e => simp [habbr, Except.map] at h
  | ok abbreviations =>
    rw [habbr] at h
    obtain rfl := Except.ok.inj h
    rfl

section Run

variable {c : Config} {read : FileReader} {p : Pipeline} (hbuild : c.pipeline read = .ok p)
include hbuild

theorem runStem_of_none {stdin : Bytes} {out : List Char}
    (h : filterInput p stdin = (out, none)) :
    runStem c read stdin = { exit := 0, stdout := out } := by
  unfold runStem
  simp only [hbuild, h]

theorem runStem_of_some {stdin : Bytes} {out : List Char} {n : Nat}
    (h : filterInput p stdin = (out, some n)) :
    runStem c read stdin =
      { exit := 1, stdout := out, error := some ("Error: read stdin line " ++ Nat.repr n ++
          "\n\nCaused by:\n    stream did not contain valid UTF-8\n") } := by
  have hcause : "\n".intercalate (Failure.causeLines ["stream did not contain valid UTF-8"]) =
      "    stream did not contain valid UTF-8" := by decide +kernel
  have hreport : Failure.report ⟨"read stdin line " ++ Nat.repr n,
      ["stream did not contain valid UTF-8"]⟩ = "Error: read stdin line " ++ Nat.repr n ++
        "\n\nCaused by:\n    stream did not contain valid UTF-8\n" := by
    unfold Failure.report
    rw [hcause]
    simp only [String.append_assoc, List.isEmpty_cons, Bool.false_eq_true, if_false]
    rw [← String.append_assoc]
    rfl
  unfold runStem
  simp only [hbuild, h, Failure.outcome, hreport]

theorem stdout_runStem (stdin : Bytes) :
    (runStem c read stdin).stdout = (filterInput p stdin).1 := by
  rcases hrun : filterInput p stdin with ⟨out, _ | n⟩
  · rw [runStem_of_none hbuild hrun]
  · rw [runStem_of_some hbuild hrun]

/-- Valid input is written line by line. -/
theorem runStem_valid {stdin : Bytes} (h : Utf8.Valid stdin) :
    ∃ texts : List (List Char), LinesOf stdin (texts.map Utf8.encode) ∧
      runStem c read stdin = { exit := 0, stdout := texts.flatMap (outputLine p) } := by
  obtain ⟨texts, htexts⟩ := Utf8.exists_texts h
  exact ⟨texts, htexts, runStem_of_none hbuild (filterInput_of_texts p htexts)⟩

/-- Invalid input is written up to the first line that is not valid. -/
theorem runStem_invalid {stdin : Bytes} (h : ¬Utf8.Valid stdin) :
    ∃ (texts : List (List Char)) (line : Bytes) (after : List Bytes),
      LinesOf stdin (texts.map Utf8.encode ++ line :: after) ∧ ¬Utf8.Valid line ∧
      runStem c read stdin =
        { exit := 1, stdout := texts.flatMap (outputLine p),
          error := some ("Error: read stdin line " ++ Nat.repr (texts.length + 1) ++
            "\n\nCaused by:\n    stream did not contain valid UTF-8\n") } := by
  obtain ⟨texts, line, after, hlines, hline⟩ := Utf8.exists_fault h
  exact ⟨texts, line, after, hlines, hline,
    runStem_of_some hbuild (filterInput_of_fault p hlines hline)⟩

theorem exit_runStem (stdin : Bytes) :
    (runStem c read stdin).exit ≠ 0 ↔ ¬Utf8.Valid stdin := by
  by_cases h : Utf8.Valid stdin
  · obtain ⟨texts, -, hrun⟩ := runStem_valid hbuild h
    simp [hrun, h]
  · obtain ⟨texts, line, after, -, -, hrun⟩ := runStem_invalid hbuild h
    simp [hrun, h]

end Run

/-- The line filter, for every configuration whose pipeline can be built. Input that is valid as a
whole gives one line for each input line, the JSON array of its tokens. Any other input fails at
the first line that is not valid, behind the arrays of the lines before it. So the filter fails
exactly on invalid input, and valid input can be cut behind a line feed. What is written needs no
escapes and no line feed inside an array. -/
theorem line_filter (flags : Flags) (env : Environment) (read : FileReader) (p : Pipeline)
    (hbuild : (Config.load flags env).pipeline read = .ok p) :
    (∀ args stdin elapsed, CommandLine.parse? args = some { command := .stem, flags } →
      run args env read stdin elapsed = runStem (Config.load flags env) read stdin) ∧
    (∀ stdin, Utf8.Valid stdin → ∃ texts : List (List Char),
      LinesOf stdin (texts.map Utf8.encode) ∧
      runStem (Config.load flags env) read stdin =
        { exit := 0,
          stdout := texts.flatMap fun text => (Json.strings (p.process text)).render ++ ['\n'] }) ∧
    (∀ stdin, ¬Utf8.Valid stdin → ∃ (texts : List (List Char)) (line : Bytes) (after : List Bytes),
      LinesOf stdin (texts.map Utf8.encode ++ line :: after) ∧ ¬Utf8.Valid line ∧
      runStem (Config.load flags env) read stdin =
        { exit := 1,
          stdout := texts.flatMap fun text => (Json.strings (p.process text)).render ++ ['\n'],
          error := some ("Error: read stdin line " ++ Nat.repr (texts.length + 1) ++
            "\n\nCaused by:\n    stream did not contain valid UTF-8\n") }) ∧
    (∀ stdin, (runStem (Config.load flags env) read stdin).exit ≠ 0 ↔ ¬Utf8.Valid stdin) ∧
    (∀ front back, Utf8.Valid front → (front = [] ∨ front.getLast? = some 10) →
      (runStem (Config.load flags env) read (front ++ back)).stdout =
        (runStem (Config.load flags env) read front).stdout ++
          (runStem (Config.load flags env) read back).stdout) ∧
    (∀ stdin, '\\' ∉ (runStem (Config.load flags env) read stdin).stdout) ∧
    ∀ text, '\n' ∉ (Json.strings (p.process text)).render ∧
      (Json.strings (p.process text)).render = ['['] ++
        [','].intercalate ((p.process text).map fun t => ['"'] ++ t ++ ['"']) ++ [']'] := by
  have hstrip : p.options.stripSpecial = true := by
    rw [Config.options_of_pipeline hbuild]
    rfl
  refine ⟨?_, fun _ h => runStem_valid hbuild h, fun _ h => runStem_invalid hbuild h,
    exit_runStem hbuild, ?_, ?_, ?_⟩
  · intro args stdin elapsed hargs
    unfold run
    rw [hargs]
  · intro front back hfront hend
    simp only [stdout_runStem hbuild]
    exact filterInput_append p hfront hend back
  · intro stdin
    rw [stdout_runStem hbuild]
    exact backslash_not_mem_filterInput hstrip stdin
  · intro text
    exact ⟨not_mem_render_process hstrip (by decide) (by decide) text, render_process hstrip text⟩

/-- The second line is a byte that begins no character. -/
theorem line_filter_broken_line :
    let read : FileReader := fun _ => .error .notFound
    let config := Config.load {} fun _ => none
    let front := Utf8.encode "Cats\r\n".toList
    config.pipeline read = .ok {} ∧
    CommandLine.parse? ["stem"] = some { command := .stem, flags := {} } ∧
    run ["stem"] (fun _ => none) read front "0" = runStem config read front ∧
    Utf8.Valid front ∧ front.getLast? = some 10 ∧ ¬Utf8.Valid (front ++ [0xFF]) ∧
    (∃ texts : List (List Char), LinesOf front (texts.map Utf8.encode) ∧
      (runStem config read front).exit = 0) ∧
    (runStem config read (front ++ [0xFF])).exit ≠ 0 ∧
    (runStem config read (front ++ [0xFF])).stdout =
      (runStem config read front).stdout ++ (runStem config read [0xFF]).stdout := by
  intro read config front
  have hbuild : config.pipeline read = .ok {} := rfl
  have hargs : CommandLine.parse? ["stem"] = some { command := .stem, flags := {} } := by
    decide +kernel
  have hvalid : Utf8.Valid front := ⟨_, rfl⟩
  have hend : front.getLast? = some 10 := by decide
  have hinvalid : ¬Utf8.Valid (front ++ [0xFF]) :=
    Utf8.decode?_eq_none_iff.mp (by decide +kernel)
  obtain ⟨hrun, hgood, -, hexit, hcut, -⟩ :=
    line_filter {} (fun _ => none) read {} hbuild
  obtain ⟨texts, hlines, hout⟩ := hgood front hvalid
  refine ⟨hbuild, hargs, hrun _ _ _ hargs, hvalid, hend, hinvalid, ⟨texts, hlines, ?_⟩,
    (hexit _).mpr hinvalid, hcut _ _ hvalid (Or.inr hend)⟩
  rw [hout]

end Stemming
