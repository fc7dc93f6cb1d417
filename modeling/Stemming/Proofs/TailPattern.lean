import Stemming.Stem.Trace
import Stemming.Proofs.Selection

/-! The tail pattern decides nothing. Both gates that test for it ask for weight one at the same
time, and a word with the pattern has two vowel runs, so that every selection, and with it every
run and every trace, is the same when the test is left out. -/
namespace Stemming

/-- A tail test that no word of weight below two passes. -/
def HeavyTest (tail : Word → Bool) : Prop := ∀ x : Word, tail x = true → 2 ≤ x.weight

theorem heavyTest_hasTailPattern : HeavyTest Word.hasTailPattern :=
  fun _ => Word.two_le_weight_of_hasTailPattern

section HeavyTest

variable {tail : Word → Bool} (ht : HeavyTest tail)

include ht

/-- No gate can tell a heavy tail test from one that fails on every word. -/
theorem Gate.holds_eq_of_heavyTest (word stem remainder : Word) (g : Gate) :
    g.holds tail word stem remainder = g.holds (fun _ => false) word stem remainder := by
  cases g with
  | softFinalE =>
    cases h : tail remainder with
    | false => simp only [holds, h]
    | true =>
      have hw : 1 < remainder.weight := ht remainder h
      simp [holds, hw]
  | shortTail =>
    cases h : tail word with
    | false => simp only [holds, h]
    | true =>
      have hw : word.weight ≠ 1 := by
        have := ht word h
        omega
      simp [holds, hw]
  | _ => rfl

theorem Rule.admits_eq_of_heavyTest : Rule.admits tail = Rule.admits fun _ => false := by
  funext r w
  exact Gate.holds_eq_of_heavyTest ht w (r.stemOf w) (r.remainderOf w) r.gate

/-- The selection of every stage is the same without the tail test. -/
theorem Stage.selectWith_eq_of_heavyTest :
    Stage.selectWith tail = Stage.selectWith fun _ => false := by
  funext s w
  unfold selectWith
  cases s.table.matching with
  | firstSuffix => rw [Matching.select, Matching.select, Rule.admits_eq_of_heavyTest ht]
  | firstAdmitted => rw [Matching.select, Matching.select, Rule.admits_eq_of_heavyTest ht]

end HeavyTest

/-- Weight one and the tail pattern exclude each other. -/
theorem Gate.shortTail_holds (word stem remainder : Word) :
    Gate.shortTail.holds Word.hasTailPattern word stem remainder = false := by
  rw [holds_eq_of_heavyTest heavyTest_hasTailPattern]
  exact Bool.and_false _

theorem Stage.select_eq_without_tail : Stage.select = Stage.selectWith fun _ => false :=
  selectWith_eq_of_heavyTest heavyTest_hasTailPattern

/-- The tail pattern is inert: it takes two vowel runs, so no word passes the gate of a short
tail, the gate of a soft `e` asks for a vowel and no more, and stages, stems and traces are those
of the engine whose tail test always fails. -/
theorem tail_pattern_inert :
    (∀ x : Word, x.hasTailPattern = true → 2 ≤ x.weight) ∧
    (∀ word stem remainder : Word,
      Gate.shortTail.holds Word.hasTailPattern word stem remainder = false) ∧
    (∀ word stem remainder : Word,
      Gate.softFinalE.holds Word.hasTailPattern word stem remainder = remainder.hasVowel) ∧
    (∀ (s : Stage) (w : Word),
      applyStage s w = Selector.apply (Stage.selectWith fun _ => false) s w) ∧
    (∀ w : Word, stem w = Selector.stem (Stage.selectWith fun _ => false) w) ∧
    ∀ w : Word, stemTraced w = Selector.trace (Stage.selectWith fun _ => false) w := by
  refine ⟨heavyTest_hasTailPattern, Gate.shortTail_holds, Gate.softFinalE_holds, ?_, ?_, ?_⟩
  · intro s w
    rw [applyStage, Stage.select_eq_without_tail]
  · intro w
    rw [stem, Stage.select_eq_without_tail]
  · intro w
    rw [stemTraced, Stage.select_eq_without_tail]

theorem tail_pattern_inert_banana :
    Word.hasTailPattern "banana".toList = true ∧ 2 ≤ Word.weight "banana".toList := by
  have hbanana : Word.hasTailPattern "banana".toList = true := by decide
  exact ⟨hbanana, tail_pattern_inert.1 _ hbanana⟩

end Stemming
