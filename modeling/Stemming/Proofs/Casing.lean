import Stemming.Pipeline
import Stemming.Proofs.AbbreviationTable

/-! Case does not matter to a pipeline that lowercases. Lowercasing is its third step, so the two
expansions before it must find the same entries whatever the case of a token, and may differ only
in the case of what they leave alone. -/
namespace Stemming

/-- The tokens agree one by one, but for case. -/
def SameButCase (ts us : List Token) : Prop := ts.map Text.lowercase = us.map Text.lowercase

theorem sameButCase_lowercase (ts : List Token) : SameButCase (ts.map Text.lowercase) ts := by
  simp [SameButCase]

namespace Token

theorem contraction?_lowercase (t : Token) : contraction? (Text.lowercase t) = contraction? t := by
  unfold contraction?
  rw [Text.lowercase_lowercase]

/-- A contraction is found in any case, and any other token keeps its case. -/
theorem expandContraction_lowercase (t : Token) :
    (expandContraction (Text.lowercase t)).map Text.lowercase =
      (expandContraction t).map Text.lowercase := by
  unfold expandContraction
  rw [contraction?_lowercase]
  cases contraction? t with
  | none => simp
  | some words => rfl

end Token

theorem Abbreviations.expandToken_lowercase (a : Abbreviations) (t : Token) :
    (a.expandToken (Text.lowercase t)).map Text.lowercase =
      (a.expandToken t).map Text.lowercase := by
  unfold expandToken
  rw [a.get?_lowercase]
  cases a.get? t with
  | none => simp
  | some words => rfl

/-- What each token becomes is known up to case, and so is what a list of them becomes. -/
theorem SameButCase.flatMap {f : Token → List Token}
    (hf : ∀ t, (f (Text.lowercase t)).map Text.lowercase = (f t).map Text.lowercase)
    {ts us : List Token} (h : SameButCase ts us) :
    SameButCase (ts.flatMap f) (us.flatMap f) := by
  have hlower (vs : List Token) : (vs.flatMap f).map Text.lowercase =
      (vs.map Text.lowercase).flatMap fun t => (f t).map Text.lowercase := by
    simp only [List.map_flatMap, List.flatMap_map, hf]
  unfold SameButCase at h ⊢
  rw [hlower, hlower, h]

/-- The steps in front of lowercasing. -/
def Step.expansions : List Step := [.expandContractions, .expandAbbreviations]

theorem Step.run_sameButCase (a : Abbreviations) {s : Step} (hs : s ∈ expansions)
    {ts us : List Token} (h : SameButCase ts us) : SameButCase (s.run a ts) (s.run a us) := by
  cases s with
  | expandContractions => exact h.flatMap Token.expandContraction_lowercase
  | expandAbbreviations => exact h.flatMap a.expandToken_lowercase
  | lowercase => exact absurd hs (by decide)
  | stripSpecial => exact absurd hs (by decide)
  | removeStopwords => exact absurd hs (by decide)
  | stem => exact absurd hs (by decide)
  | stripAccents => exact absurd hs (by decide)

namespace Pipeline

variable (p : Pipeline)

theorem advance_sameButCase {s : Step} (hs : s ∈ Step.expansions) {ts us : List Token}
    (h : SameButCase ts us) : SameButCase (p.advance ts s) (p.advance us s) := by
  unfold advance
  split
  · exact Step.run_sameButCase p.abbreviations hs h
  · exact h

theorem run_sameButCase {steps : List Step} (hs : steps ⊆ Step.expansions) {ts us : List Token}
    (h : SameButCase ts us) :
    SameButCase (steps.foldl p.advance ts) (steps.foldl p.advance us) := by
  induction steps generalizing ts us with
  | nil => exact h
  | cons s steps ih =>
    rw [List.cons_subset] at hs
    exact ih hs.2 (p.advance_sameButCase hs.1 h)

/-- The steps from lowercasing on are given the same tokens. -/
theorem processTokens_of_sameButCase (hlower : p.options.lowercase = true) {ts us : List Token}
    (h : SameButCase ts us) : p.processTokens ts = p.processTokens us := by
  have hrun (vs : List Token) : p.processTokens vs =
      [.stripSpecial, .removeStopwords, .stem, .stripAccents].foldl p.advance
        ((Step.expansions.foldl p.advance vs).map Text.lowercase) := by
    have hsplit : Step.sequence = Step.expansions ++ Step.lowercase ::
        [.stripSpecial, .removeStopwords, .stem, .stripAccents] := rfl
    have hmiddle (ws : List Token) : p.advance ws .lowercase = ws.map Text.lowercase :=
      if_pos hlower
    rw [processTokens, hsplit, List.foldl_append, List.foldl_cons, hmiddle]
  have hsame : (Step.expansions.foldl p.advance ts).map Text.lowercase =
      (Step.expansions.foldl p.advance us).map Text.lowercase :=
    p.run_sameButCase (List.Subset.refl _) h
  rw [hrun, hrun, hsame]

/-- A pipeline that lowercases gives the same output for a list of tokens and for its lowercase
form, whatever its other options and its table are. Hence any two lists that agree but for case
have the same output. -/
theorem process_ignores_case (hlower : p.options.lowercase = true) :
    (∀ ts, p.processTokens (ts.map Text.lowercase) = p.processTokens ts) ∧
    ∀ ts us, ts.map Text.lowercase = us.map Text.lowercase →
      p.processTokens ts = p.processTokens us := by
  constructor
  · intro ts
    exact p.processTokens_of_sameButCase hlower (sameButCase_lowercase ts)
  · intro ts us h
    exact p.processTokens_of_sameButCase hlower h

/-- A table with a rule for a word that ends in a capital sigma, and a dotted capital i. -/
theorem process_ignores_case_sigma :
    let p : Pipeline :=
      { abbreviations := .edit .builtIn [.insert "ΟΔΟΣ".toList ["Street".toList]] }
    p.options.lowercase = true ∧
    p.processTokens (["ΟΔΟΣ".toList, "DON'T".toList, "İs".toList].map Text.lowercase) =
      p.processTokens ["ΟΔΟΣ".toList, "DON'T".toList, "İs".toList] ∧
    p.processTokens ["οδος".toList, "WON'T".toList] =
      p.processTokens ["ΟΔΟΣ".toList, "won't".toList] := by
  intro p
  have hlower : p.options.lowercase = true := rfl
  have hcase : ["οδος".toList, "WON'T".toList].map Text.lowercase =
      ["ΟΔΟΣ".toList, "won't".toList].map Text.lowercase := by decide +kernel
  obtain ⟨hlist, hpair⟩ := p.process_ignores_case hlower
  exact ⟨hlower, hlist _, hpair _ _ hcase⟩

end Pipeline

end Stemming
