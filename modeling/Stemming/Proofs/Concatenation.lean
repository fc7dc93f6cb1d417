import Stemming.Pipeline

/-! The pipeline carries nothing from one token to the next. Each step works token by token, so
the output for two lists of tokens is the output for one followed by that for the other, and a
text can be cut at every character that no word contains. -/
namespace Stemming

/-- Each step treats the tokens one by one. The batches of the stemming step are no exception:
a batch cut in halves gives the same stems. -/
theorem Step.run_append (a : Abbreviations) (xs ys : List Token) (s : Step) :
    s.run a (xs ++ ys) = s.run a xs ++ s.run a ys := by
  cases s with
  | expandContractions => exact List.flatMap_append
  | expandAbbreviations => exact List.flatMap_append
  | lowercase => exact List.map_append
  | stripSpecial => simp only [Step.run, List.map_append, List.filter_append]
  | removeStopwords => exact List.filter_append xs ys
  | stem => simp only [Step.run, stemBatch_eq_stemAll, stemAll, List.map_append]
  | stripAccents => exact List.map_append

namespace Pipeline

variable (p : Pipeline)

theorem advance_append (xs ys : List Token) (s : Step) :
    p.advance (xs ++ ys) s = p.advance xs s ++ p.advance ys s := by
  unfold advance
  by_cases h : p.options.runs s = true
  · simp only [h, if_true, s.run_append]
  · simp only [h, if_false, Bool.false_eq_true]

theorem run_append (steps : List Step) (xs ys : List Token) :
    steps.foldl p.advance (xs ++ ys) = steps.foldl p.advance xs ++ steps.foldl p.advance ys := by
  induction steps generalizing xs ys with
  | nil => rfl
  | cons s steps ih =>
    simp only [List.foldl_cons]
    rw [p.advance_append xs ys s, ih]

end Pipeline

section Cut

variable {c : Char} (hc : Token.isWordChar c = false)
include hc

/-- A run of word characters does not go on past `c`. -/
theorem span_isWordChar_append (cs rest : List Char) :
    (cs ++ c :: rest).takeWhile Token.isWordChar = cs.takeWhile Token.isWordChar ∧
      (cs ++ c :: rest).dropWhile Token.isWordChar =
        cs.dropWhile Token.isWordChar ++ c :: rest := by
  induction cs with
  | nil => simp [hc]
  | cons d cs ih =>
    by_cases hd : Token.isWordChar d = true
    · simp [hd, ih]
    · simp [hd]

theorem tokenize_cons_of_not_isWordChar (cs : List Char) :
    tokenize (c :: cs) = tokenize [c] ++ tokenize cs := by
  by_cases hspace : c = ' '
  · subst hspace
    simp [tokenize, hc]
  · simp [tokenize, hc, hspace]

/-- A character that no word contains ends the word before it, if there is one. -/
theorem tokenize_append_cons (cs rest : List Char) :
    tokenize (cs ++ c :: rest) = tokenize cs ++ tokenize (c :: rest) := by
  fun_induction tokenize cs with
  | case1 => rfl
  -- The word that is being read when `c` comes is cut there, as it is at the end of `cs`.
  | case2 d cs hd ih =>
    obtain ⟨htake, hdrop⟩ := span_isWordChar_append hc cs rest
    rw [List.cons_append, tokenize, if_pos hd, htake, hdrop, ih]
    rfl
  | case3 cs hd ih =>
    rw [List.cons_append, tokenize, if_neg hd, if_pos rfl, ih]
  | case4 d cs hd hspace ih =>
    rw [List.cons_append, tokenize, if_neg hd, if_neg hspace, ih]
    rfl

end Cut

/-- For every setting of the options and every table, the pipeline takes a list of tokens apart
at any place, and a text at every character that is neither alphanumeric nor an apostrophe. -/
theorem Pipeline.process_concatenation (p : Pipeline) :
    (∀ xs ys : List Token,
      p.processTokens (xs ++ ys) = p.processTokens xs ++ p.processTokens ys) ∧
    ∀ (a b : List Char) (c : Char), Text.isAlphanumeric c = false → c ≠ Token.apostrophe →
      p.process (a ++ [c] ++ b) = p.process a ++ p.process [c] ++ p.process b := by
  have htokens (xs ys : List Token) :
      p.processTokens (xs ++ ys) = p.processTokens xs ++ p.processTokens ys :=
    p.run_append Step.sequence xs ys
  refine ⟨htokens, ?_⟩
  intro a b c halnum hquote
  have hc : Token.isWordChar c = false := by simp [Token.isWordChar, halnum, hquote]
  unfold process
  rw [List.append_assoc, List.singleton_append, tokenize_append_cons hc,
    tokenize_cons_of_not_isWordChar hc, htokens, htokens, List.append_assoc]

theorem Pipeline.process_concatenation_comma :
    Text.isAlphanumeric ',' = false ∧ ',' ≠ Token.apostrophe ∧
    Pipeline.process {} ("It isn't".toList ++ [','] ++ "Dr".toList) =
      Pipeline.process {} "It isn't".toList ++ Pipeline.process {} [','] ++
        Pipeline.process {} "Dr".toList := by
  have halnum : Text.isAlphanumeric ',' = false := by decide
  have hquote : ',' ≠ Token.apostrophe := by decide
  exact ⟨halnum, hquote, (Pipeline.process_concatenation {}).2 _ _ _ halnum hquote⟩

end Stemming
