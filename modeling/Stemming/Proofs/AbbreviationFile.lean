import Mathlib.Data.List.DropRight
import Stemming.Abbreviation
import Stemming.Proofs.Lines
import Stemming.Proofs.Utf8

/-! What an abbreviation file does to a table: the rules of its lines are inserted one after the
other, up to the first line that is no text or has a short form alone. -/
namespace Stemming

namespace Text

theorem trim_eq_rdropWhile (s : List Char) :
    trim s = (s.dropWhile isBlank).rdropWhile isBlank := rfl

/-- Trimmed text begins with a character that is not blank. -/
theorem isBlank_of_trim_eq_cons {s cs : List Char} {c : Char} (h : trim s = c :: cs) :
    isBlank c = false := by
  have hprefix : c :: cs <+: s.dropWhile isBlank := by
    rw [← h, trim_eq_rdropWhile]
    exact List.rdropWhile_prefix isBlank _
  obtain ⟨rest, hrest⟩ := hprefix
  have hhead := List.head?_dropWhile_not isBlank s
  rw [← hrest] at hhead
  exact hhead

theorem words_cons_of_not_isBlank {c : Char} (hc : isBlank c = false) (cs : List Char) :
    words (c :: cs) = (c :: cs.takeWhile (!isBlank ·)) :: words (cs.dropWhile (!isBlank ·)) := by
  rw [words, if_neg (by simp [hc])]

theorem words_trim_ne_nil {s : List Char} (h : trim s ≠ []) : words (trim s) ≠ [] := by
  obtain ⟨c, cs, hs⟩ := List.exists_cons_of_ne_nil h
  rw [hs, words_cons_of_not_isBlank (isBlank_of_trim_eq_cons hs)]
  exact List.cons_ne_nil _ _

/-- Words are not empty and hold no blank. -/
theorem mem_words {s w : List Char} (hw : w ∈ words s) :
    w ≠ [] ∧ ∀ c ∈ w, isBlank c = false := by
  fun_induction words s with
  | case1 => exact absurd hw List.not_mem_nil
  | case2 c cs hc ih => exact ih hw
  | case3 c cs hc ih =>
    rcases List.mem_cons.mp hw with rfl | hw
    · refine ⟨List.cons_ne_nil _ _, ?_⟩
      intro d hd
      rcases List.mem_cons.mp hd with rfl | hd
      · exact eq_false_of_ne_true hc
      · simpa using List.mem_takeWhile_imp hd
    · exact ih hw

end Text

namespace Abbreviations

/-- The words on a line that is neither blank nor a comment. -/
def WordsOn (line : Bytes) (words : List Token) : Prop :=
  ∃ text, line = Utf8.encode text ∧ Text.trim text ≠ [] ∧
    (Text.trim text).head? ≠ some '#' ∧ Text.words (Text.trim text) = words

/-- What is wrong with a line: it is not the encoding of a text, or it holds one word alone. -/
inductive Fault (line : Bytes) : LineError → Prop
  | undecodable (h : ∀ text, line ≠ Utf8.encode text) : Fault line .undecodable
  | noExpansion {short : Token} (h : WordsOn line [short]) : Fault line (.noExpansion short)

/-- The rules on lines without a fault, in order: the first word of a line is the short form and
the others are what it stands for. -/
inductive RulesOn : List Bytes → List (Token × List Token) → Prop
  | nil : RulesOn [] []
  | skip {line : Bytes} {ls : List Bytes} {rules : List (Token × List Token)}
      (hline : ∀ words, ¬WordsOn line words) (hrest : RulesOn ls rules) :
      RulesOn (line :: ls) rules
  | rule {line : Bytes} {short : Token} {words : List Token} {ls : List Bytes}
      {rules : List (Token × List Token)} (hline : WordsOn line (short :: words))
      (hrest : RulesOn ls rules) : RulesOn (line :: ls) ((short, words) :: rules)

def insertAll (a : Abbreviations) (rules : List (Token × List Token)) : Abbreviations :=
  rules.foldl (fun a rule => a.insert rule.1 rule.2) a

/-- Encoding loses nothing, so a line has at most one text. -/
theorem wordsOn_encode_iff {text : List Char} {words : List Token} :
    WordsOn (Utf8.encode text) words ↔ Text.trim text ≠ [] ∧
      (Text.trim text).head? ≠ some '#' ∧ Text.words (Text.trim text) = words := by
  constructor
  · rintro ⟨text', heq, h⟩
    have hsome : some text = some text' := by
      rw [← Utf8.decode?_encode text, heq, Utf8.decode?_encode]
    rwa [Option.some.inj hsome]
  · intro h
    exact ⟨text, rfl, h⟩

theorem WordsOn.unique {line : Bytes} {words others : List Token} (h : WordsOn line words)
    (hothers : WordsOn line others) : words = others := by
  obtain ⟨text, rfl, -, -, hwords⟩ := h
  exact hwords.symm.trans (wordsOn_encode_iff.mp hothers).2.2

/-- The lines determine their rules. -/
theorem RulesOn.unique {ls : List Bytes} {rules others : List (Token × List Token)}
    (h : RulesOn ls rules) (hothers : RulesOn ls others) : rules = others := by
  induction h generalizing others with
  | nil =>
    cases hothers
    rfl
  | skip hskip _ ih =>
    cases hothers with
    | skip _ hrest => exact ih hrest
    | rule hline _ => exact absurd hline (hskip _)
  | rule hline _ ih =>
    cases hothers with
    | skip hskip _ => exact absurd hline (hskip _)
    | rule hother hrest =>
      obtain ⟨rfl, rfl⟩ := List.cons.inj (hline.unique hother)
      rw [ih hrest]

/-- The three things that a line can be, as the reader sees them. -/
theorem readLine_cases (line : Bytes) :
    (∃ e, Fault line e ∧ readLine line = .error e) ∨
    ((∀ words, ¬WordsOn line words) ∧ readLine line = .ok none) ∨
    ∃ short word words, WordsOn line (short :: word :: words) ∧
      readLine line = .ok (some (short, word :: words)) := by
  cases hdecode : Utf8.decode? line with
  | none =>
    have hno : ∀ text, line ≠ Utf8.encode text := by
      intro text htext
      rw [htext, Utf8.decode?_encode] at hdecode
      exact absurd hdecode (by simp)
    exact Or.inl ⟨_, .undecodable hno, by rw [readLine, hdecode]⟩
  | some text =>
    obtain rfl := Utf8.decode?_eq_some_iff.mp hdecode
    unfold readLine
    simp only [hdecode]
    by_cases hcomment : (Text.trim text).head? = some '#'
    · rw [if_pos hcomment]
      refine Or.inr (Or.inl ⟨fun words hw => ?_, rfl⟩)
      exact (wordsOn_encode_iff.mp hw).2.1 hcomment
    · rw [if_neg hcomment]
      by_cases hblank : Text.trim text = []
      · refine Or.inr (Or.inl ⟨fun words hw => (wordsOn_encode_iff.mp hw).1 hblank, ?_⟩)
        rw [hblank, Text.words]
      · have hwords {words : List Token} (h : Text.words (Text.trim text) = words) :
            WordsOn (Utf8.encode text) words := wordsOn_encode_iff.mpr ⟨hblank, hcomment, h⟩
        rcases heq : Text.words (Text.trim text) with _ | ⟨short, _ | ⟨word, words⟩⟩
        · exact absurd heq (Text.words_trim_ne_nil hblank)
        · exact Or.inl ⟨_, .noExpansion (hwords heq), rfl⟩
        · exact Or.inr (Or.inr ⟨short, word, words, hwords heq, rfl⟩)

theorem readLine_of_fault {line : Bytes} {e : LineError} (h : Fault line e) :
    readLine line = .error e := by
  cases h with
  | undecodable hno =>
    cases hdecode : Utf8.decode? line with
    | none => rw [readLine, hdecode]
    | some text => exact absurd (Utf8.decode?_eq_some_iff.mp hdecode) (hno text)
  | noExpansion hwords =>
    obtain ⟨text, rfl, -, hcomment, heq⟩ := hwords
    unfold readLine
    simp only [Utf8.decode?_encode, hcomment, if_false, heq]

/-- Lines without a fault are read to the end, and their rules are inserted in order. -/
theorem exists_rulesOn {ls : List Bytes} (h : ∀ line ∈ ls, ∀ e, ¬Fault line e) :
    ∃ rules, RulesOn ls rules ∧ ∀ (a : Abbreviations) (n : Nat) (rest : List Bytes),
      a.extendLines n (ls ++ rest) = (a.insertAll rules).extendLines (n + ls.length) rest := by
  induction ls with
  | nil => exact ⟨[], .nil, fun _ _ _ => rfl⟩
  | cons line ls ih =>
    obtain ⟨rules, hrules, hrun⟩ := ih fun l hl => h l (List.mem_cons_of_mem line hl)
    have hcount (n : Nat) : n + 1 + ls.length = n + (line :: ls).length := by
      rw [List.length_cons]
      omega
    rcases readLine_cases line with ⟨e, he, -⟩ | ⟨hskip, hread⟩ | ⟨short, word, words, hw, hread⟩
    · exact absurd he (h line List.mem_cons_self e)
    · refine ⟨rules, .skip hskip hrules, fun a n rest => ?_⟩
      rw [List.cons_append, extendLines, hread]
      simp only [hrun, hcount]
    · refine ⟨_, .rule hw hrules, fun a n rest => ?_⟩
      rw [List.cons_append, extendLines, hread]
      simp only [hrun, hcount]
      rfl

/-- The lines up to a faulty one leave their rules in the table. -/
theorem extendLines_fault {before : List Bytes} {line : Bytes} {e : LineError}
    (after : List Bytes) (hbefore : ∀ l ∈ before, ∀ e, ¬Fault l e) (hline : Fault line e) :
    ∃ rules, RulesOn before rules ∧ ∀ (a : Abbreviations) (n : Nat),
      a.extendLines n (before ++ line :: after) =
        (a.insertAll rules, some (n + before.length, e)) := by
  obtain ⟨rules, hrules, hrun⟩ := exists_rulesOn hbefore
  refine ⟨rules, hrules, fun a n => ?_⟩
  rw [hrun, extendLines, readLine_of_fault hline]

/-- Reading goes on where it stopped, if it did not stop at a fault. -/
theorem extendLines_append (a : Abbreviations) (n : Nat) (xs ys : List Bytes) :
    a.extendLines n (xs ++ ys) =
      match a.extendLines n xs with
      | (extended, none) => extended.extendLines (n + xs.length) ys
      | failed => failed := by
  induction xs generalizing a n with
  | nil => rfl
  | cons line xs ih =>
    rw [List.cons_append, extendLines, extendLines, List.length_cons, ← Nat.add_assoc,
      Nat.add_right_comm]
    cases readLine line with
    | error e => rfl
    | ok rule =>
      cases rule with
      | none => exact ih a (n + 1)
      | some rule => exact ih (a.insert rule.1 rule.2) (n + 1)

/-- The number of the first line is counted in the number of the faulty one and nowhere else. -/
theorem extendLines_add (a : Abbreviations) (n k : Nat) (ls : List Bytes) :
    a.extendLines (n + k) ls =
      ((a.extendLines n ls).1, (a.extendLines n ls).2.map fun fault => (fault.1 + k, fault.2)) := by
  induction ls generalizing a n with
  | nil => rfl
  | cons line ls ih =>
    rw [extendLines, extendLines]
    cases readLine line with
    | error e => rfl
    | ok rule =>
      rw [Nat.add_right_comm]
      cases rule with
      | none => exact ih a (n + 1)
      | some rule => exact ih (a.insert rule.1 rule.2) (n + 1)

/-- A file read from a line below its first one: its faults lie further down. -/
def LoadError.shift (k : Nat) : LoadError → LoadError
  | badLine path line e => badLine path (line + k) e
  | e => e

theorem exists_summary_eq {message start rest : String} (causes : List String)
    (h : message = start ++ rest) :
    ∃ after, (Failure.mk message causes).summary = start ++ after := by
  unfold Failure.summary
  cases causes with
  | nil =>
    refine ⟨rest, ?_⟩
    rw [String.intercalate_singleton, h]
  | cons cause causes =>
    refine ⟨rest ++ (": " ++ ": ".intercalate (cause :: causes)), ?_⟩
    rw [String.intercalate_cons_cons, h, String.append_assoc, String.append_assoc]

/-- The message of a fault names the line. -/
theorem LoadError.message_badLine (path : String) (n : Nat) (e : LineError) :
    ∃ before after, (badLine path n e).message = before ++ Nat.repr n ++ after := by
  cases e with
  | undecodable => exact ⟨"read line ", exists_summary_eq _ String.append_assoc⟩
  | noExpansion short =>
    have hassoc : path ++ ":" ++ Nat.repr n ++ " abbreviation " ++ Text.quote short ++
        " has no expansion" = path ++ ":" ++ Nat.repr n ++
          (" abbreviation " ++ (Text.quote short ++ " has no expansion")) := by
      simp only [String.append_assoc]
    exact ⟨path ++ ":", exists_summary_eq _ hassoc⟩

section File

variable {read : FileReader} {path : String} {contents : Bytes}

theorem extend_of_file (hread : read path = .ok (.file contents)) (a : Abbreviations) :
    a.extend read path = ((a.extendLines 1 (lines contents)).1,
      (a.extendLines 1 (lines contents)).2.map fun fault => .badLine path fault.1 fault.2) := by
  unfold extend
  rw [hread]
  rfl

theorem load_of_extend {a : Abbreviations} {failure : Option LoadError}
    (h : builtIn.extend read path = (a, failure)) :
    load read path = failure.elim (.ok a) .error := by
  unfold load
  rw [h]
  cases failure <;> rfl

/-- A file without a fault is loaded whole. -/
theorem extend_of_no_fault (hread : read path = .ok (.file contents))
    (hlines : ∀ line ∈ lines contents, ∀ e, ¬Fault line e) :
    ∃ rules, RulesOn (lines contents) rules ∧
      ∀ a : Abbreviations, a.extend read path = (a.insertAll rules, none) := by
  obtain ⟨rules, hrules, hrun⟩ := exists_rulesOn hlines
  refine ⟨rules, hrules, fun a => ?_⟩
  have hall := hrun a 1 []
  rw [List.append_nil] at hall
  rw [extend_of_file hread, hall]
  rfl

/-- A file with a fault is loaded up to it. -/
theorem extend_of_fault (hread : read path = .ok (.file contents))
    {before after : List Bytes} {line : Bytes} {e : LineError}
    (hlines : lines contents = before ++ line :: after)
    (hbefore : ∀ l ∈ before, ∀ e, ¬Fault l e) (hline : Fault line e) :
    ∃ rules, RulesOn before rules ∧ ∀ a : Abbreviations, a.extend read path =
      (a.insertAll rules, some (.badLine path (before.length + 1) e)) := by
  obtain ⟨rules, hrules, hrun⟩ := extendLines_fault after hbefore hline
  refine ⟨rules, hrules, fun a => ?_⟩
  rw [extend_of_file hread, hlines, hrun, Nat.add_comm]
  rfl

end File

/-- A file cut behind a line feed is loaded piece by piece. -/
theorem extend_append {whole first second : FileReader} {path : String} {front back : Bytes}
    (hwhole : whole path = .ok (.file (front ++ back)))
    (hfirst : first path = .ok (.file front)) (hsecond : second path = .ok (.file back))
    (hfront : front = [] ∨ front.getLast? = some 10) (a : Abbreviations) :
    a.extend whole path =
      match a.extend first path with
      | (extended, none) => ((extended.extend second path).1,
          (extended.extend second path).2.map (LoadError.shift (front.count 10)))
      | failed => failed := by
  obtain ⟨happ, hcount⟩ := lines_append hfront back
  rw [extend_of_file hwhole, happ, extendLines_append, extend_of_file hfirst, hcount]
  obtain ⟨extended, fault⟩ := a.extendLines 1 (lines front)
  cases fault with
  | some fault => rfl
  | none =>
    simp only [Option.map_none, extend_of_file hsecond, extendLines_add, Option.map_map]
    rfl

/-- Loading a readable file. Without a fault the rules of all lines are inserted in order. With
one, the error names the first faulty line, and the table has the rules of the lines before it; a
fresh table is then not returned. A file that ends with a line can be continued by another. -/
theorem extend_readable_file :
    (∀ (a : Abbreviations) (read : FileReader) (path : String) (contents : Bytes),
      read path = .ok (.file contents) →
      ∃ ls, LinesOf contents ls ∧
        ((∀ line ∈ ls, ∀ e, ¬Fault line e) →
          ∃ rules, RulesOn ls rules ∧ a.extend read path = (a.insertAll rules, none) ∧
            load read path = .ok (builtIn.insertAll rules)) ∧
        ∀ (before : List Bytes) (line : Bytes) (after : List Bytes) (e : LineError),
          ls = before ++ line :: after → (∀ l ∈ before, ∀ e, ¬Fault l e) → Fault line e →
          ∃ rules failure, RulesOn before rules ∧
            a.extend read path = (a.insertAll rules, some failure) ∧
            load read path = .error failure ∧
            failure = .badLine path (before.length + 1) e ∧
            ∃ x y, failure.message = x ++ Nat.repr (before.length + 1) ++ y) ∧
    ∀ (a : Abbreviations) (whole first second : FileReader) (path : String) (front back : Bytes),
      whole path = .ok (.file (front ++ back)) → first path = .ok (.file front) →
      second path = .ok (.file back) → (front = [] ∨ front.getLast? = some 10) →
      a.extend whole path =
        match a.extend first path with
        | (extended, none) => ((extended.extend second path).1,
            (extended.extend second path).2.map (LoadError.shift (front.count 10)))
        | failed => failed := by
  constructor
  · intro a read path contents hread
    refine ⟨lines contents, linesOf_lines contents, ?_, ?_⟩
    · intro hlines
      obtain ⟨rules, hrules, hrun⟩ := extend_of_no_fault hread hlines
      exact ⟨rules, hrules, hrun a, load_of_extend (hrun builtIn)⟩
    · intro before line after e hlines hbefore hline
      obtain ⟨rules, hrules, hrun⟩ := extend_of_fault hread hlines hbefore hline
      exact ⟨rules, _, hrules, hrun a, load_of_extend (hrun builtIn), rfl,
        LoadError.message_badLine _ _ _⟩
  · intro a whole first second path front back hwhole hfirst hsecond hfront
    exact extend_append hwhole hfirst hsecond hfront a

/-- A file with one rule, the same file with a line behind it that has a short form alone, and
that file in two pieces. -/
theorem extend_readable_file_broken :
    let rules : List (Token × List Token) := [("ok".toList, ["okay".toList])]
    RulesOn [Utf8.encode "ok okay".toList] rules ∧
    (empty.insertAll rules).get? "OK".toList = some ["okay".toList] ∧
    empty.extend (fun _ => .ok (.file (Utf8.encode "ok okay\n".toList))) "rules" =
      (empty.insertAll rules, none) ∧
    load (fun _ => .ok (.file (Utf8.encode "ok okay\n".toList))) "rules" =
      .ok (builtIn.insertAll rules) ∧
    empty.extend (fun _ => .ok (.file (Utf8.encode "ok okay\nbroken\n".toList))) "rules" =
      (empty.insertAll rules, some (.badLine "rules" 2 (.noExpansion "broken".toList))) ∧
    load (fun _ => .ok (.file (Utf8.encode "ok okay\nbroken\n".toList))) "rules" =
      .error (.badLine "rules" 2 (.noExpansion "broken".toList)) ∧
    empty.extend (fun _ => .ok (.file (Utf8.encode "ok okay\n".toList ++
        Utf8.encode "broken\n".toList))) "rules" =
      match empty.extend (fun _ => .ok (.file (Utf8.encode "ok okay\n".toList))) "rules" with
      | (extended, none) =>
        ((extended.extend (fun _ => .ok (.file (Utf8.encode "broken\n".toList))) "rules").1,
          (extended.extend (fun _ => .ok (.file (Utf8.encode "broken\n".toList))) "rules").2.map
            (LoadError.shift 1))
      | failed => failed := by
  intro rules
  have hrules : RulesOn [Utf8.encode "ok okay".toList] rules := by
    refine .rule ⟨"ok okay".toList, rfl, ?_⟩ .nil
    decide +kernel
  have hline : lines (Utf8.encode "ok okay\n".toList) = [Utf8.encode "ok okay".toList] := by
    decide
  have hlines : lines (Utf8.encode "ok okay\nbroken\n".toList) =
      [Utf8.encode "ok okay".toList] ++ Utf8.encode "broken".toList :: [] := by decide
  have hgood : ∀ l ∈ [Utf8.encode "ok okay".toList], ∀ e, ¬Fault l e := by
    intro l hl e he
    obtain rfl := List.mem_singleton.mp hl
    have hread : readLine (Utf8.encode "ok okay".toList) =
        .ok (some ("ok".toList, ["okay".toList])) := by decide +kernel
    exact absurd (hread.symm.trans (readLine_of_fault he)) (by simp)
  have hbroken : Fault (Utf8.encode "broken".toList) (.noExpansion "broken".toList) := by
    refine .noExpansion ⟨"broken".toList, rfl, ?_⟩
    decide +kernel
  obtain ⟨ls, hls, hwhole, -⟩ := extend_readable_file.1 empty
    (fun _ => .ok (.file (Utf8.encode "ok okay\n".toList))) "rules" _ rfl
  obtain rfl := hls.lines_eq.symm.trans hline
  obtain ⟨found, hfound, hrun, hload⟩ := hwhole hgood
  obtain rfl := hfound.unique hrules
  obtain ⟨ls, hls, -, hfault⟩ := extend_readable_file.1 empty
    (fun _ => .ok (.file (Utf8.encode "ok okay\nbroken\n".toList))) "rules" _ rfl
  obtain ⟨found, failure, hfound, hrunBroken, hloadBroken, rfl, -⟩ :=
    hfault _ _ _ _ (hls.lines_eq.symm.trans hlines) hgood hbroken
  obtain rfl := hfound.unique hrules
  refine ⟨hrules, ?_, hrun, hload, hrunBroken, hloadBroken, ?_⟩
  · decide +kernel
  · have hend : (Utf8.encode "ok okay\n".toList).getLast? = some 10 := by decide
    exact extend_readable_file.2 empty _ (fun _ => .ok (.file (Utf8.encode "ok okay\n".toList)))
      (fun _ => .ok (.file (Utf8.encode "broken\n".toList))) "rules" _ _ rfl rfl rfl (Or.inr hend)

end Abbreviations

end Stemming
