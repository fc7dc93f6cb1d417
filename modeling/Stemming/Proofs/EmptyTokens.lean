import Stemming.Proofs.Alphabet
import Stemming.Proofs.Vowels

/-! Where empty tokens come from. A stem is empty only if the word has at most one character:
`plural` leaves the others something, and what it leaves keeps its vowels or stays as it is. In a
pipeline that strips special characters the only empty tokens are stems of single characters. -/
namespace Stemming

/-- Each ending that loses two letters is longer than that. -/
theorem plural_eq_nil_iff (w : Word) : applyStage .plural w = [] ↔ w.length ≤ 1 := by
  have hlong {s : String} (h : Cascade.ends w s = true) : s.toList.length ≤ w.length :=
    (Word.endsWith_iff.mp h).length_le
  rw [Cascade.applyStage_plural, Cascade.plural, ← List.length_eq_zero_iff]
  split_ifs with hsses hies hss
  · have hl : 4 ≤ w.length := hlong hsses
    rw [Word.length_dropEnd]
    omega
  · have hl : 3 ≤ w.length := hlong hies
    rw [Word.length_dropEnd]
    omega
  · have hl : 2 ≤ w.length := hlong hss
    omega
  · rw [Word.length_dropEnd]
    omega

/-- The empty word has no vowel, so it is kept, and nothing else becomes it. -/
theorem KeepsVowels.eq_nil_iff {w x : Word} (h : KeepsVowels w x) : x = [] ↔ w = [] := by
  constructor
  · rintro rfl
    exact (h.eq_self h.hasVowel.symm).symm
  · rintro rfl
    exact h.eq_self rfl

theorem stem_eq_nil_iff (w : Word) : stem w = [] ↔ w.length ≤ 1 :=
  (keepsVowels_stem w).eq_nil_iff.trans (plural_eq_nil_iff w)

theorem Token.stripAccents_eq_nil_iff (t : Token) : stripAccents t = [] ↔ t = [] := by
  constructor
  · intro h
    cases t with
    | nil => rfl
    | cons c t =>
      have hplain : plainForm c = [] := List.flatMap_eq_nil_iff.mp h c List.mem_cons_self
      rcases plainForm_cases c with heq | ⟨hne, -⟩
      · rw [hplain] at heq
        exact absurd heq (List.cons_ne_nil c []).symm
      · exact absurd hplain hne
  · rintro rfl
    rfl

namespace Pipeline

variable (p : Pipeline)

/-- The tokens that reach a step. -/
def before (s : Step) (ts : List Token) : List Token :=
  (Step.sequence.takeWhile (· ≠ s)).foldl p.advance ts

theorem processTokens_eq_before (ts : List Token) :
    p.processTokens ts = p.advance (p.advance (p.before .stem ts) .stem) .stripAccents := rfl

/-- Stripping special characters drops what it leaves empty, and the stopwords that go next take
no characters from other tokens. -/
theorem nil_notMem_before_stem (hstrip : p.options.stripSpecial = true) (ts : List Token) :
    [] ∉ p.before .stem ts := by
  have hsplit : p.before .stem ts =
      p.advance (p.advance (p.before .stripSpecial ts) .stripSpecial) .removeStopwords := rfl
  have hruns : p.options.runs .stripSpecial = true := hstrip
  have hnil : [] ∉ p.advance (p.before .stripSpecial ts) .stripSpecial := by
    rw [advance, if_pos hruns]
    simp [Step.run]
  rw [hsplit, advance]
  split
  · intro hmem
    exact hnil (List.mem_filter.mp hmem).1
  · exact hnil

theorem advance_stem_of_true (h : p.options.stem = true) (ts : List Token) :
    p.advance ts .stem = ts.map stem := by
  have hruns : p.options.runs .stem = true := h
  rw [advance, if_pos hruns]
  exact stemBatch_eq_stemAll ts

theorem advance_stem_of_false (h : p.options.stem = false) (ts : List Token) :
    p.advance ts .stem = ts := by
  have hruns : p.options.runs .stem = false := h
  simp [advance, hruns]

/-- The last step works token by token and neither empties a token nor fills an empty one. -/
theorem exists_advance_stripAccents :
    ∃ plain : Token → Token, (∀ t, plain t = [] ↔ t = []) ∧
      ∀ ts, p.advance ts .stripAccents = ts.map plain := by
  by_cases hruns : p.options.runs .stripAccents = true
  · exact ⟨Token.stripAccents, Token.stripAccents_eq_nil_iff, fun ts => by
      rw [advance, if_pos hruns, Step.run]⟩
  · exact ⟨id, fun t => Iff.rfl, fun ts => by rw [advance, if_neg hruns, List.map_id]⟩

end Pipeline

/-- A stem is empty exactly for the empty word and the words of one character. So a pipeline that
strips special characters gives no empty token unless it stems, and if it does, an output token is
empty exactly where a token of one character reaches the stemming step. -/
theorem empty_output_origin :
    (∀ w : Word, stem w = [] ↔ w.length ≤ 1) ∧
    ∀ p : Pipeline, p.options.stripSpecial = true → ∀ ts : List Token,
      (p.options.stem = false → [] ∉ p.processTokens ts) ∧
      (p.options.stem = true →
        (p.processTokens ts).length = (p.before .stem ts).length ∧
        ∀ i : Nat, (p.processTokens ts)[i]? = some [] ↔
          ∃ t, (p.before .stem ts)[i]? = some t ∧ t.length = 1) := by
  refine ⟨stem_eq_nil_iff, ?_⟩
  intro p hstrip ts
  have hnil := p.nil_notMem_before_stem hstrip ts
  obtain ⟨plain, hplain, hlast⟩ := p.exists_advance_stripAccents
  rw [p.processTokens_eq_before, hlast]
  constructor
  · intro hstem
    rw [p.advance_stem_of_false hstem]
    intro hmem
    obtain ⟨t, ht, htnil⟩ := List.mem_map.mp hmem
    rw [(hplain t).mp htnil] at ht
    exact hnil ht
  · intro hstem
    rw [p.advance_stem_of_true hstem]
    refine ⟨by simp, ?_⟩
    intro i
    simp only [List.getElem?_map, Option.map_eq_some_iff, exists_exists_and_eq_and, hplain,
      stem_eq_nil_iff]
    refine exists_congr fun t => and_congr_right fun ht => ?_
    have hpos : 0 < t.length := by
      apply List.length_pos_iff.mpr
      rintro rfl
      exact hnil (List.mem_of_getElem? ht)
    omega

/-- The token without letters does not reach the stemming step, and the next one is a single
letter by then. -/
theorem empty_output_origin_single_letter :
    let tokens := ["--".toList, "(X)".toList, "ça".toList]
    let p : Pipeline := {}
    let q : Pipeline := { options := { stem := false } }
    (p.options.stripSpecial = true ∧ p.options.stem = true ∧
      p.before .stem tokens = [['x'], ['ç', 'a']] ∧
      (p.processTokens tokens)[0]? = some [] ∧ (p.processTokens tokens)[1]? ≠ some []) ∧
    q.options.stripSpecial = true ∧ q.options.stem = false ∧ [] ∉ q.processTokens tokens := by
  intro tokens p q
  have hbefore : p.before .stem tokens = [['x'], ['ç', 'a']] := by decide +kernel
  obtain ⟨-, hempty⟩ := (empty_output_origin.2 p rfl tokens).2 rfl
  rw [hbefore] at hempty
  have hfirst : (p.processTokens tokens)[0]? = some [] := (hempty 0).mpr ⟨['x'], rfl, rfl⟩
  have hsecond : (p.processTokens tokens)[1]? ≠ some [] := by simp [hempty 1]
  exact ⟨⟨rfl, rfl, hbefore, hfirst, hsecond⟩, rfl, rfl, (empty_output_origin.2 q rfl tokens).1 rfl⟩

end Stemming
