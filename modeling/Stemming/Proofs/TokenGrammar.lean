import Mathlib.Data.List.TakeWhile
import Stemming.Proofs.Concatenation

/-! The grammar of tokens. Tokenizing loses nothing but plain spaces, keeps every word whole and
gives well-formed tokens only; a list of such tokens is read back from the text that joins them by
spaces. -/
namespace Stemming

namespace Token

/-- A token is a run of word characters, or one other character that is not the plain space. -/
inductive WellFormed : Token → Prop
  | word {t : Token} (hne : t ≠ []) (hall : ∀ c ∈ t, isWordChar c = true) : WellFormed t
  | sign {c : Char} (hword : isWordChar c = false) (hspace : c ≠ ' ') : WellFormed [c]

/-- In the text `front ++ run ++ rest` the word characters of `run` go on to neither side. -/
structure MaximalRun (front run rest : List Char) : Prop where
  ne_nil : run ≠ []
  isWordChar : ∀ c ∈ run, isWordChar c = true
  before : ∀ c ∈ front.getLast?, Token.isWordChar c = false
  after : ∀ c ∈ rest.head?, Token.isWordChar c = false

theorem isWordChar_space : isWordChar ' ' = false := by decide

end Token

open Token (isWordChar WellFormed MaximalRun)

/-- The maximal runs of word characters in a text, in order. -/
def wordRuns (s : List Char) : List (List Char) :=
  (s.splitOnP fun c => !isWordChar c).filter fun run => !run.isEmpty

section Run

variable {run rest : List Char} (hne : run ≠ []) (hall : ∀ c ∈ run, isWordChar c = true)
  (hrest : ∀ c ∈ rest.head?, isWordChar c = false)
include hne hall hrest

theorem tokenize_run_append : tokenize (run ++ rest) = run :: tokenize rest := by
  cases run with
  | nil => exact absurd rfl hne
  | cons c run =>
    have hc : isWordChar c = true := hall c List.mem_cons_self
    have hrun : ∀ d ∈ run, isWordChar d = true := fun d hd => hall d (List.mem_cons_of_mem c hd)
    have hstop : rest.takeWhile isWordChar = [] ∧ rest.dropWhile isWordChar = rest := by
      cases rest with
      | nil => simp
      | cons d rest => simp [hrest d rfl]
    rw [List.cons_append, tokenize, if_pos hc, List.takeWhile_append_of_pos hrun,
      List.dropWhile_append_of_pos hrun, hstop.1, hstop.2, List.append_nil]

theorem wordRuns_run_append : wordRuns (run ++ rest) = run :: wordRuns rest := by
  have hinside : ∀ c ∈ run, (!isWordChar c) = false := by
    intro c hc
    simp [hall c hc]
  unfold wordRuns
  cases rest with
  | nil => simp [List.splitOnP_eq_singleton hinside, hne]
  | cons d rest =>
    have hd : (!isWordChar d) = true := by simp [hrest d rfl]
    rw [List.splitOnP_append_cons_of_forall_mem hinside d hd]
    simp [List.splitOnP_cons_eq_if_modifyHead, hd, hne]

end Run

theorem wordRuns_cons_of_not_isWordChar {c : Char} (hc : isWordChar c = false) (cs : List Char) :
    wordRuns (c :: cs) = wordRuns cs := by
  simp [wordRuns, List.splitOnP_cons_eq_if_modifyHead, hc]

/-- The word that the tokenizer reads from its first character on. -/
theorem isWordChar_of_mem_span {c d : Char} {cs : List Char} (hc : isWordChar c = true)
    (hd : d ∈ c :: cs.takeWhile isWordChar) : isWordChar d = true := by
  rcases List.mem_cons.mp hd with rfl | hd
  · exact hc
  · exact List.mem_takeWhile_imp hd

/-- Only plain spaces are lost, and nothing is reordered. -/
theorem flatten_tokenize (s : List Char) : (tokenize s).flatten = s.filter (· ≠ ' ') := by
  fun_induction tokenize s with
  | case1 => rfl
  | case2 c cs hc ih =>
    have hkeep : (c :: cs.takeWhile isWordChar).filter (· ≠ ' ') =
        c :: cs.takeWhile isWordChar := by
      apply List.filter_eq_self.mpr
      intro d hd
      have hword := isWordChar_of_mem_span hc hd
      rw [decide_eq_true_iff]
      rintro rfl
      rw [Token.isWordChar_space] at hword
      exact Bool.false_ne_true hword
    calc (c :: cs.takeWhile isWordChar) ++ (tokenize (cs.dropWhile isWordChar)).flatten
        = (c :: cs.takeWhile isWordChar).filter (· ≠ ' ') ++
            (cs.dropWhile isWordChar).filter (· ≠ ' ') := by rw [hkeep, ih]
      _ = (c :: (cs.takeWhile isWordChar ++ cs.dropWhile isWordChar)).filter (· ≠ ' ') := by
        rw [← List.filter_append, List.cons_append]
      _ = (c :: cs).filter (· ≠ ' ') := by rw [List.takeWhile_append_dropWhile]
  | case3 cs _ ih => simp [ih]
  | case4 c cs _ hspace ih => simp [hspace, ih]

theorem wellFormed_of_mem_tokenize {s : List Char} {t : Token} (h : t ∈ tokenize s) :
    WellFormed t := by
  fun_induction tokenize s with
  | case1 => exact absurd h List.not_mem_nil
  | case2 c cs hc ih =>
    rcases List.mem_cons.mp h with rfl | h
    · exact .word (List.cons_ne_nil c _) fun d hd => isWordChar_of_mem_span hc hd
    · exact ih h
  | case3 cs _ ih => exact ih h
  | case4 c cs hc hspace ih =>
    rcases List.mem_cons.mp h with rfl | h
    · exact .sign (eq_false_of_ne_true hc) hspace
    · exact ih h

/-- The words among the tokens are the maximal runs of the text. -/
theorem filter_tokenize (s : List Char) :
    (tokenize s).filter (·.all isWordChar) = wordRuns s := by
  fun_induction tokenize s with
  | case1 => rfl
  | case2 c cs hc ih =>
    have hall : ∀ d ∈ c :: cs.takeWhile isWordChar, isWordChar d = true :=
      fun d hd => isWordChar_of_mem_span hc hd
    have hrest : ∀ d ∈ (cs.dropWhile isWordChar).head?, isWordChar d = false := by
      intro d hd
      have hstop := List.head?_dropWhile_not isWordChar cs
      rwa [Option.mem_def.mp hd] at hstop
    have hcs : c :: cs = (c :: cs.takeWhile isWordChar) ++ cs.dropWhile isWordChar := by
      rw [List.cons_append, List.takeWhile_append_dropWhile]
    rw [hcs, wordRuns_run_append (List.cons_ne_nil c _) hall hrest, ← ih]
    exact List.filter_cons_of_pos (List.all_eq_true.mpr hall)
  | case3 cs hc ih => rw [ih, wordRuns_cons_of_not_isWordChar (eq_false_of_ne_true hc)]
  | case4 c cs hc hspace ih =>
    rw [wordRuns_cons_of_not_isWordChar (eq_false_of_ne_true hc), ← ih]
    exact List.filter_cons_of_neg (by simp [hc])

/-- No token goes over a place with a character on its left that is in no word. -/
theorem tokenize_append {front : List Char} (h : ∀ c ∈ front.getLast?, isWordChar c = false)
    (rest : List Char) : tokenize (front ++ rest) = tokenize front ++ tokenize rest := by
  rcases List.eq_nil_or_concat front with rfl | ⟨front, c, rfl⟩
  · simp [tokenize]
  · have hc : isWordChar c = false := h c (by simp)
    rw [List.concat_eq_append, List.append_assoc, List.singleton_append,
      tokenize_append_cons hc front rest, tokenize_cons_of_not_isWordChar hc rest,
      tokenize_append_cons hc front [], List.append_assoc]

theorem Token.MaximalRun.tokenize_eq {front run rest : List Char} (h : MaximalRun front run rest) :
    tokenize (front ++ run ++ rest) = tokenize front ++ run :: tokenize rest := by
  rw [List.append_assoc, tokenize_append h.before,
    tokenize_run_append h.ne_nil h.isWordChar h.after]

theorem Token.WellFormed.tokenize_eq {t : Token} (h : WellFormed t) : tokenize t = [t] := by
  cases h with
  | word hne hall =>
    have hend : tokenize (t ++ []) = t :: tokenize [] := tokenize_run_append hne hall (by simp)
    rwa [List.append_nil, tokenize] at hend
  | sign hword hspace => simp [tokenize, hword, hspace]

/-- Spaces between well-formed tokens keep them apart and leave no trace. -/
theorem tokenize_intercalate {ts : List Token} (h : ∀ t ∈ ts, WellFormed t) :
    tokenize ([' '].intercalate ts) = ts := by
  induction ts with
  | nil => simp [tokenize]
  | cons t ts ih =>
    have ht : tokenize t = [t] := (h t List.mem_cons_self).tokenize_eq
    have hts := ih fun u hu => h u (List.mem_cons_of_mem t hu)
    cases ts with
    | nil => simpa using ht
    | cons u ts =>
      rw [List.intercalate_cons_cons, List.append_assoc, List.singleton_append,
        tokenize_append_cons Token.isWordChar_space, ht,
        tokenize_cons_of_not_isWordChar Token.isWordChar_space, hts]
      simp [tokenize, Token.isWordChar_space]

/-- The tokens of a text join to the text without its plain spaces, all of them are well formed,
and the words among them are the maximal runs of word characters: each such run is one token, the
tokens before it are those of the text before it, and those after it likewise. Well-formed tokens
joined by single spaces are read back, those of a text in particular. -/
theorem tokenizer_grammar :
    (∀ s : List Char,
      (tokenize s).flatten = s.filter (· ≠ ' ') ∧
      (∀ t ∈ tokenize s, WellFormed t) ∧
      (tokenize s).filter (·.all isWordChar) = wordRuns s ∧
      (∀ front run rest, s = front ++ run ++ rest → MaximalRun front run rest →
        tokenize s = tokenize front ++ run :: tokenize rest) ∧
      tokenize ([' '].intercalate (tokenize s)) = tokenize s) ∧
    ∀ ts : List Token, (∀ t ∈ ts, WellFormed t) → tokenize ([' '].intercalate ts) = ts := by
  refine ⟨?_, fun ts h => tokenize_intercalate h⟩
  intro s
  have hformed : ∀ t ∈ tokenize s, WellFormed t := fun t ht => wellFormed_of_mem_tokenize ht
  refine ⟨flatten_tokenize s, hformed, filter_tokenize s, ?_, tokenize_intercalate hformed⟩
  rintro front run rest rfl hrun
  exact hrun.tokenize_eq

/-- A contraction in brackets, with spaces around. -/
theorem tokenizer_grammar_dont :
    (" (don't) ".toList = " (".toList ++ "don't".toList ++ ") ".toList ∧
      MaximalRun " (".toList "don't".toList ") ".toList ∧
      tokenize " (don't) ".toList =
        tokenize " (".toList ++ "don't".toList :: tokenize ") ".toList) ∧
    ("don't".toList ∈ tokenize " (don't) ".toList ∧ WellFormed "don't".toList) ∧
    (∀ t ∈ [['('], "don't".toList, [')']], WellFormed t) ∧
    tokenize ([' '].intercalate [['('], "don't".toList, [')']]) =
      [['('], "don't".toList, [')']] := by
  have hrun : MaximalRun " (".toList "don't".toList ") ".toList :=
    ⟨by decide, List.all_eq_true.mp (by decide), by rintro c ⟨⟩; decide, by rintro c ⟨⟩; decide⟩
  obtain ⟨-, hformed, -, hwhole, -⟩ := tokenizer_grammar.1 " (don't) ".toList
  have htext := hwhole _ _ _ rfl hrun
  have hmem : "don't".toList ∈ tokenize " (don't) ".toList := by
    rw [htext]
    exact List.mem_append_right _ List.mem_cons_self
  have hall : ∀ t ∈ [['('], "don't".toList, [')']], WellFormed t := by
    simp only [List.forall_mem_cons, List.not_mem_nil, false_imp_iff, implies_true, and_true]
    exact ⟨.sign (by decide) (by decide), hformed _ hmem, .sign (by decide) (by decide)⟩
  exact ⟨⟨rfl, hrun, htext⟩, ⟨hmem, hformed _ hmem⟩, hall, tokenizer_grammar.2 _ hall⟩

end Stemming
