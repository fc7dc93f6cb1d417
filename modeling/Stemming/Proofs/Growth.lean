import Mathlib.Algebra.Order.BigOperators.Group.List
import Mathlib.Algebra.Order.Ring.Nat
import Mathlib.Data.List.MinMax
import Mathlib.Tactic.Ring
import Stemming.Http.Service
import Stemming.Proofs.Casing
import Stemming.Proofs.ExpansionClosure

/-! How many tokens a pipeline can hold. Only the two expansions add tokens, each of them a bounded
number for every token it is given. Together they could add as many as the product of the bounds
allows, but the built-in tables do not: no word of a contraction is an abbreviation. -/
namespace Stemming

theorem length_flatMap_le {f : Token → List Token} {n : Nat} (h : ∀ t, (f t).length ≤ n)
    (ts : List Token) : (ts.flatMap f).length ≤ n * ts.length := by
  rw [List.length_flatMap, Nat.mul_comm]
  have hsum := List.sum_le_card_nsmul (ts.map fun t => (f t).length) n (by simp [h])
  simpa using hsum

namespace Token

theorem length_le_of_contraction? {t : Token} {words : List Token}
    (h : contraction? t = some words) : words.length ≤ 3 := by
  have htable : ∀ entry ∈ contractions, entry.2.length ≤ 3 := by decide
  obtain ⟨entry, hentry, rfl⟩ := exists_of_contraction? h
  rw [List.length_map]
  exact htable entry hentry

theorem length_expandContraction_le (t : Token) : (expandContraction t).length ≤ 3 := by
  unfold expandContraction
  cases h : contraction? t with
  | none => simp
  | some words => exact length_le_of_contraction? h

end Token

namespace Abbreviations

/-- The number of words in the longest expansion of the table. -/
def longest (a : Abbreviations) : Nat := (a.entries.map fun entry => entry.2.length).foldr max 0

theorem length_expandToken_le (a : Abbreviations) (t : Token) :
    (a.expandToken t).length ≤ max 1 a.longest := by
  unfold expandToken
  cases h : a.get? t with
  | none => simp
  | some words =>
    have hlongest : words.length ≤ a.longest :=
      List.le_max_of_le' 0 (List.mem_map.mpr ⟨_, mem_entries_of_get? h, rfl⟩) le_rfl
    exact hlongest.trans (le_max_right 1 a.longest)

theorem longest_builtIn : builtIn.longest = 4 := by decide +kernel

/-- The words of a contraction stay as they are, and any other token is expanded once. -/
theorem length_expand_expandContraction_le (t : Token) :
    (builtIn.expand (Token.expandContraction t)).length ≤ 4 := by
  unfold Token.expandContraction
  cases h : Token.contraction? t with
  | none =>
    have htoken := builtIn.length_expandToken_le t
    rw [longest_builtIn] at htoken
    simpa [expand] using htoken
  | some words =>
    have hkeep : builtIn.expand words = words :=
      expand_eq_self fun word hword => (Token.expanded_of_contraction? h word hword).2
    have hlength := Token.length_le_of_contraction? h
    rw [Option.getD_some, hkeep]
    omega

end Abbreviations

namespace Step

/-- How many tokens a step can make of one. -/
def growth (a : Abbreviations) : Step → Nat
  | .expandContractions => 3
  | .expandAbbreviations => max 1 a.longest
  | .lowercase | .stripSpecial | .removeStopwords | .stem | .stripAccents => 1

theorem one_le_growth (a : Abbreviations) (s : Step) : 1 ≤ s.growth a := by
  cases s <;> simp [growth]

theorem length_run_le (a : Abbreviations) (ts : List Token) (s : Step) :
    (s.run a ts).length ≤ s.growth a * ts.length := by
  cases s with
  | expandContractions => exact length_flatMap_le Token.length_expandContraction_le ts
  | expandAbbreviations => exact length_flatMap_le a.length_expandToken_le ts
  | lowercase => simp [run, growth]
  | stripSpecial =>
    have hfilter := List.length_filter_le (!·.isEmpty) (ts.map Token.stripSpecial)
    simpa [run, growth] using hfilter
  | removeStopwords =>
    have hfilter := List.length_filter_le (!Token.isStopword ·) ts
    simpa [run, growth, Token.removeStopwords] using hfilter
  | stem => simp [run, growth, stemBatch_eq_stemAll, stemAll]
  | stripAccents => simp [run, growth]

/-- The steps behind the expansions. -/
def reductions : List Step := [.lowercase, .stripSpecial, .removeStopwords, .stem, .stripAccents]

theorem growth_of_mem_reductions (a : Abbreviations) {s : Step} (hs : s ∈ reductions) :
    s.growth a = 1 := by
  simp only [reductions, List.mem_cons, List.not_mem_nil, or_false] at hs
  rcases hs with rfl | rfl | rfl | rfl | rfl <;> rfl

end Step

/-- Within the cap, a refusal for too many tokens counts those that leave the pipeline. -/
theorem Http.Service.count_of_refused {s : Http.Service} {text : List Char} {count limit : Nat}
    (hraw : (tokenize text).length ≤ s.maxTokens)
    (h : (s.preprocess text).answer = .refused (.tooManyTokens count limit)) :
    limit = s.maxTokens ∧ s.maxTokens < count ∧
      count = (s.pipeline.processTokens (tokenize text)).length := by
  unfold preprocess at h
  simp only [if_neg (Nat.not_lt.mpr hraw)] at h
  split at h
  next => cases h
  next =>
    split at h
    next hout =>
      cases h
      exact ⟨rfl, hout, rfl⟩
    next => cases h

namespace Pipeline

variable (p : Pipeline)

theorem length_advance_le (ts : List Token) (s : Step) :
    (p.advance ts s).length ≤ s.growth p.abbreviations * ts.length := by
  unfold advance
  split
  · exact s.length_run_le p.abbreviations ts
  · exact Nat.le_mul_of_pos_left _ (s.one_le_growth p.abbreviations)

/-- The growth of a run is the product of the growth of its steps. -/
theorem length_run_le (steps : List Step) (ts : List Token) :
    (steps.foldl p.advance ts).length ≤
      (steps.map (Step.growth p.abbreviations)).prod * ts.length := by
  induction steps generalizing ts with
  | nil => simp
  | cons s steps ih =>
    rw [List.foldl_cons, List.map_cons, List.prod_cons]
    calc (steps.foldl p.advance (p.advance ts s)).length
        ≤ (steps.map (Step.growth p.abbreviations)).prod * (p.advance ts s).length := ih _
      _ ≤ (steps.map (Step.growth p.abbreviations)).prod *
            (s.growth p.abbreviations * ts.length) :=
          Nat.mul_le_mul_left _ (p.length_advance_le ts s)
      _ = s.growth p.abbreviations * (steps.map (Step.growth p.abbreviations)).prod *
            ts.length := by ring

/-- The tokens after the first `n` steps. -/
def after (n : Nat) (ts : List Token) : List Token := (Step.sequence.take n).foldl p.advance ts

theorem processTokens_eq_after (ts : List Token) :
    p.processTokens ts = p.after Step.sequence.length ts := rfl

/-- The growth of the whole sequence comes from its expansions, and no part of it grows more. -/
theorem length_after_le (n : Nat) (ts : List Token) :
    (p.after n ts).length ≤ 3 * max 1 p.abbreviations.longest * ts.length := by
  have hall : (Step.sequence.map (Step.growth p.abbreviations)).prod =
      3 * max 1 p.abbreviations.longest := by
    simp [Step.sequence, Step.growth]
  have hpart : ((Step.sequence.take n).map (Step.growth p.abbreviations)).prod ∣
      3 * max 1 p.abbreviations.longest := by
    rw [← hall, List.map_take]
    exact Dvd.intro _ (List.prod_take_mul_prod_drop _ n)
  have hle := Nat.le_of_dvd (by omega) hpart
  exact (p.length_run_le _ ts).trans (Nat.mul_le_mul_right _ hle)

section BuiltIn

variable {p} (hp : p.abbreviations = .builtIn)
include hp

theorem length_expansions_le_of_builtIn (ts : List Token) :
    (Step.expansions.foldl p.advance ts).length ≤ 4 * ts.length := by
  have hfirst := p.length_advance_le ts .expandContractions
  have hsecond (us : List Token) := p.length_advance_le us .expandAbbreviations
  simp only [hp, Step.growth, Abbreviations.longest_builtIn] at hfirst hsecond
  change (p.advance (p.advance ts .expandContractions) .expandAbbreviations).length ≤ _
  by_cases hcontractions : p.options.runs .expandContractions = true
  · by_cases habbreviations : p.options.runs .expandAbbreviations = true
    · -- Both expansions run, and for each token one of them does nothing.
      have hboth : p.advance (p.advance ts .expandContractions) .expandAbbreviations =
          ts.flatMap fun t => Abbreviations.builtIn.expand (Token.expandContraction t) := by
        simp only [advance, hcontractions, habbreviations, if_true, Step.run, hp]
        exact List.flatMap_assoc
      rw [hboth]
      exact length_flatMap_le Abbreviations.length_expand_expandContraction_le ts
    · have hskip (us : List Token) : p.advance us .expandAbbreviations = us := if_neg habbreviations
      rw [hskip]
      omega
  · have hskip : p.advance ts .expandContractions = ts := if_neg hcontractions
    rw [hskip]
    exact hsecond ts

theorem length_after_le_of_builtIn (n : Nat) (ts : List Token) :
    (p.after n ts).length ≤ 4 * ts.length := by
  match n with
  | 0 =>
    change ts.length ≤ _
    omega
  | 1 =>
    have hfirst : (p.after 1 ts).length ≤ 3 * ts.length :=
      p.length_advance_le ts .expandContractions
    omega
  | n + 2 =>
    have hsplit : p.after (n + 2) ts =
        (Step.reductions.take n).foldl p.advance (Step.expansions.foldl p.advance ts) := rfl
    have hone : ((Step.reductions.take n).map (Step.growth p.abbreviations)).prod = 1 := by
      apply List.prod_eq_one
      rw [List.forall_mem_map]
      intro s hs
      exact Step.growth_of_mem_reductions _ (List.mem_of_mem_take hs)
    have hrest := p.length_run_le (Step.reductions.take n) (Step.expansions.foldl p.advance ts)
    rw [hone, Nat.one_mul] at hrest
    rw [hsplit]
    exact hrest.trans (length_expansions_le_of_builtIn hp ts)

end BuiltIn

/-- For all options and tables, a pipeline never holds more than `3 * M` tokens for each token it is
given, neither after any of its steps nor in the end, where `M` is the number of words in the
longest expansion of its table, and 1 at least. With the built-in table it holds no more than four
for each. So a text that keeps to the cap before the pipeline never makes it hold more than `3 * M`
times the cap, which bounds the count in a refusal as well. -/
theorem bounded_growth :
    (∀ ts : List Token,
      (p.processTokens ts).length ≤ 3 * max 1 p.abbreviations.longest * ts.length ∧
      ∀ n, (p.after n ts).length ≤ 3 * max 1 p.abbreviations.longest * ts.length) ∧
    (p.abbreviations = .builtIn → ∀ ts : List Token,
      (p.processTokens ts).length ≤ 4 * ts.length ∧ ∀ n, (p.after n ts).length ≤ 4 * ts.length) ∧
    ∀ (cap : Nat) (text : List Char), (tokenize text).length ≤ cap →
      (∀ n, (p.after n (tokenize text)).length ≤ 3 * max 1 p.abbreviations.longest * cap) ∧
      ∀ count limit,
        (Http.Service.preprocess { pipeline := p, maxTokens := cap } text).answer =
          .refused (.tooManyTokens count limit) →
        limit = cap ∧ cap < count ∧ count ≤ 3 * max 1 p.abbreviations.longest * cap := by
  simp only [processTokens_eq_after]
  refine ⟨fun ts => ⟨p.length_after_le _ ts, fun n => p.length_after_le n ts⟩, ?_, ?_⟩
  · intro hp ts
    exact ⟨length_after_le_of_builtIn hp _ ts, fun n => length_after_le_of_builtIn hp n ts⟩
  · intro cap text hcap
    have hafter (n : Nat) : (p.after n (tokenize text)).length ≤
        3 * max 1 p.abbreviations.longest * cap :=
      (p.length_after_le n _).trans (Nat.mul_le_mul_left _ hcap)
    refine ⟨hafter, ?_⟩
    intro count limit hrefused
    obtain ⟨hlimit, hlt, hcount⟩ := Http.Service.count_of_refused hcap hrefused
    refine ⟨hlimit, hlt, ?_⟩
    rw [hcount]
    exact hafter Step.sequence.length

/-- One token becomes four, and the refusal says so. -/
theorem bounded_growth_ttyl :
    let p : Pipeline := { options := { removeStopwords := false, stem := false } }
    let s : Http.Service := { pipeline := p, maxTokens := 1 }
    p.abbreviations = .builtIn ∧ (p.processTokens ["ttyl".toList]).length ≤ 4 * 1 ∧
    (tokenize "ttyl".toList).length ≤ 1 ∧
    (s.preprocess "ttyl".toList).answer = .refused (.tooManyTokens 4 1) ∧
    4 ≤ 3 * max 1 p.abbreviations.longest * 1 := by
  intro p s
  have hcap : (tokenize "ttyl".toList).length ≤ 1 := by decide +kernel
  have hrefused : (s.preprocess "ttyl".toList).answer = .refused (.tooManyTokens 4 1) := by
    have hraw : ¬s.maxTokens < (tokenize "ttyl".toList).length := Nat.not_lt.mpr hcap
    have hcount : (s.pipeline.processTokens (tokenize "ttyl".toList)).length = 4 := by
      decide +kernel
    have hout : s.maxTokens < 4 := by decide
    rw [Http.Service.preprocess, if_neg (by decide +kernel)]
    simp only [if_neg hraw, hcount, if_pos hout]
    rfl
  obtain ⟨-, hbuiltIn, hservice⟩ := p.bounded_growth
  exact ⟨rfl, (hbuiltIn rfl ["ttyl".toList]).1, hcap, hrefused,
    ((hservice 1 _ hcap).2 4 1 hrefused).2.2⟩

end Pipeline

end Stemming
