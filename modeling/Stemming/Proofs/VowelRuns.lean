import Stemming.Proofs.Word

/-! The weight as a measure on words. What a word adds to a concatenation depends on the seam alone:
a vowel run that goes on from the left part into the right one is counted in both, and no other run
is. How the weight behaves under extension and under reversal follows from this. -/
namespace Stemming

namespace Word

/-- A vowel run goes on from `u` into `v`: `u` ends with a vowel and `v` starts with one. -/
def runsInto (u v : Word) : Bool := u.getLast?.any isVowel && v.head?.any isVowel

theorem vowelAfter_eq (b : Bool) (w : Word) :
    vowelAfter b w = (w.getLast?.map isVowel).getD b := by
  induction w generalizing b with
  | nil => rfl
  | cons c w ih =>
    rw [vowelAfter, ih, List.getLast?_cons]
    cases w.getLast? <;> rfl

theorem vowelAfter_false (w : Word) : vowelAfter false w = w.getLast?.any isVowel := by
  rw [vowelAfter_eq]
  cases w.getLast? <;> rfl

/-- A vowel before a word takes the run that the word starts with, if it starts with one. -/
theorem runsAfter_true (w : Word) :
    runsAfter true w + (if w.head?.any isVowel then 1 else 0) = runsAfter false w := by
  cases w with
  | nil => rfl
  | cons c w => cases hc : isVowel c <;> simp [runsAfter, hc, Nat.add_comm]

/-- A run across the seam is one run, and it is counted in both parts. -/
theorem weight_append (u v : Word) :
    (u ++ v).weight + (if u.runsInto v then 1 else 0) = u.weight + v.weight := by
  have hv := runsAfter_true v
  unfold weight runsInto
  rw [runsAfter_append, vowelAfter_false]
  cases u.getLast?.any isVowel with
  | false => simp
  | true =>
    simp only [Bool.true_and]
    omega

/-- Read backwards, two words meet at the same seam. -/
theorem runsInto_reverse (u v : Word) : runsInto v.reverse u.reverse = runsInto u v := by
  unfold runsInto
  rw [List.getLast?_reverse, List.head?_reverse, Bool.and_comm]

theorem weight_reverse (w : Word) : weight w.reverse = w.weight := by
  induction w with
  | nil => rfl
  | cons c w ih =>
    -- One reading puts the first letter before `w`, the other puts it behind the reverse of `w`.
    have hfront := weight_append [c] w
    have hback := weight_append w.reverse [c]
    have hseam : runsInto w.reverse [c] = runsInto [c] w := runsInto_reverse [c] w
    rw [List.singleton_append] at hfront
    rw [hseam, ih] at hback
    rw [List.reverse_cons]
    omega

/-- A run takes its vowel and the consonant before it. Only the first run of a word can do without
the consonant, and not behind a vowel. -/
theorem two_mul_runsAfter_le (b : Bool) (w : Word) :
    2 * runsAfter b w ≤ w.length + (if b then 0 else 1) := by
  induction w generalizing b with
  | nil => exact Nat.zero_le _
  | cons c w ih =>
    have hw := ih (isVowel c)
    rw [runsAfter, List.length_cons]
    cases hc : isVowel c with
    | false =>
      simp only [hc, Bool.false_eq_true, if_false] at hw
      simp only [Bool.false_and, Bool.false_eq_true, if_false]
      omega
    | true =>
      simp only [hc, if_true] at hw
      cases b with
      | false =>
        simp only [Bool.not_false, Bool.and_true, if_true, Bool.false_eq_true, if_false]
        omega
      | true =>
        simp only [Bool.not_true, Bool.and_false, Bool.false_eq_true, if_false, if_true]
        omega

theorem weight_le_half (w : Word) : w.weight ≤ (w.length + 1) / 2 := by
  have h : 2 * w.weight ≤ w.length + 1 := two_mul_runsAfter_le false w
  omega

end Word

/-- The weight of a concatenation is the sum of the weights, less one where a vowel run goes on
across the seam. It does not drop when a word is extended on either side, it is the same read
backwards, it is half the length at most, rounded up, and it is zero only without vowels. -/
theorem weight_additive_but_for_seam :
    (∀ u v : Word,
      if u.runsInto v then (u ++ v).weight + 1 = u.weight + v.weight
      else (u ++ v).weight = u.weight + v.weight) ∧
    (∀ u v : Word, u.weight ≤ (u ++ v).weight ∧ v.weight ≤ (u ++ v).weight) ∧
    (∀ w : Word, Word.weight w.reverse = w.weight) ∧
    (∀ w : Word, w.weight ≤ (w.length + 1) / 2) ∧
    ∀ w : Word, 0 < w.weight ↔ w.hasVowel = true := by
  refine ⟨?_, ?_, Word.weight_reverse, Word.weight_le_half, fun w => Word.weight_pos_iff⟩
  · intro u v
    have h := Word.weight_append u v
    split_ifs at h ⊢
    · exact h
    · exact h
  · intro u v
    exact ⟨Word.weight_le_append u v, Word.weight_le_append_left u v⟩

end Stemming
