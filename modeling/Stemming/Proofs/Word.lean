import Stemming.Word
import Mathlib.Data.List.Basic

/-! Endings, cuts and vowel runs of words. -/
namespace Stemming.Word

theorem endsWith_iff {w s : Word} : w.endsWith s = true ↔ s <:+ w :=
  List.isSuffixOf_iff_suffix

theorem endsWith_append (p s : Word) : (p ++ s).endsWith s = true :=
  endsWith_iff.mpr (List.suffix_append p s)

theorem endsWith_trans {w s t : Word} (hs : w.endsWith s = true) (ht : s.endsWith t = true) :
    w.endsWith t = true :=
  endsWith_iff.mpr ((endsWith_iff.mp ht).trans (endsWith_iff.mp hs))

theorem exists_eq_append {w s : Word} (h : w.endsWith s = true) : ∃ p, w = p ++ s := by
  obtain ⟨p, hp⟩ := endsWith_iff.mp h
  exact ⟨p, hp.symm⟩

/-- One of two endings ends with the other, so that a word can have both. -/
def nested (s t : Word) : Bool := s.endsWith t || t.endsWith s

theorem nested_of_endsWith {w s t : Word} (hs : w.endsWith s = true)
    (ht : w.endsWith t = true) : nested s t = true := by
  unfold nested
  rw [Bool.or_eq_true, endsWith_iff, endsWith_iff]
  exact (List.suffix_or_suffix_of_suffix (endsWith_iff.mp hs) (endsWith_iff.mp ht)).symm

/-- Of two endings that are not nested a word has at most one. -/
theorem endsWith_eq_false {w s t : Word} (hs : w.endsWith s = true) (hn : nested s t = false) :
    w.endsWith t = false := by
  by_contra ht
  have h := nested_of_endsWith hs (eq_true_of_ne_false ht)
  rw [hn] at h
  exact Bool.false_ne_true h

@[simp] theorem dropEnd_zero (w : Word) : w.dropEnd 0 = w := by simp [dropEnd]

@[simp] theorem length_dropEnd (w : Word) (n : Nat) : (w.dropEnd n).length = w.length - n := by
  simp [dropEnd]

theorem dropEnd_isPrefix (w : Word) (n : Nat) : w.dropEnd n <+: w := List.take_prefix _ _

@[simp] theorem dropEnd_append (p s : Word) : (p ++ s).dropEnd s.length = p := by
  simp [dropEnd]

@[simp] theorem dropEnd_append_singleton (p : Word) (c : Char) : (p ++ [c]).dropEnd 1 = p :=
  dropEnd_append p [c]

theorem dropEnd_append_of_le (p : Word) {s : Word} {n : Nat} (hn : n ≤ s.length) :
    (p ++ s).dropEnd n = p ++ s.dropEnd n := by
  have hl : (p ++ s).length - n = p.length + (s.length - n) := by
    rw [List.length_append]
    omega
  rw [dropEnd, dropEnd, hl, List.take_length_add_append]

theorem dropEnd_dropEnd (w : Word) (m n : Nat) : (w.dropEnd m).dropEnd n = w.dropEnd (m + n) := by
  rw [dropEnd, length_dropEnd, dropEnd, dropEnd, List.take_take]
  congr 1
  omega

/-- Cutting more leaves less. -/
theorem dropEnd_isPrefix_dropEnd (w : Word) {m n : Nat} (h : m ≤ n) :
    w.dropEnd n <+: w.dropEnd m := by
  obtain ⟨k, rfl⟩ := Nat.exists_eq_add_of_le h
  rw [← dropEnd_dropEnd]
  exact dropEnd_isPrefix _ k

theorem dropEnd_of_length_le {w : Word} {n : Nat} (h : w.length ≤ n) : w.dropEnd n = [] := by
  rw [dropEnd, Nat.sub_eq_zero_of_le h, List.take_zero]

theorem dropEnd_eq_self_iff {w : Word} {n : Nat} : w.dropEnd n = w ↔ n = 0 ∨ w = [] := by
  constructor
  · intro h
    have hl := congrArg List.length h
    rw [length_dropEnd] at hl
    by_cases hw : w = []
    · exact Or.inr hw
    · have := List.length_pos_iff.mpr hw
      omega
  · rintro (rfl | rfl)
    · exact dropEnd_zero w
    · simp [dropEnd]

@[simp] theorem hasVowel_append (u v : Word) :
    (u ++ v).hasVowel = (u.hasVowel || v.hasVowel) := List.any_append

/-- Whether a vowel stands just before what follows `w`. -/
def vowelAfter (vowelBefore : Bool) : Word → Bool
  | [] => vowelBefore
  | c :: w => vowelAfter (isVowel c) w

/-- A run that goes on across the seam is counted on its left side only. -/
theorem runsAfter_append (b : Bool) (u v : Word) :
    runsAfter b (u ++ v) = runsAfter b u + runsAfter (vowelAfter b u) v := by
  induction u generalizing b with
  | nil => simp [runsAfter, vowelAfter]
  | cons c u ih => simp only [List.cons_append, runsAfter, vowelAfter, ih, Nat.add_assoc]

theorem hasVowel_of_vowelAfter {b : Bool} {u : Word} (h : vowelAfter b u = true) :
    b = true ∨ u.hasVowel = true := by
  induction u generalizing b with
  | nil => exact Or.inl h
  | cons c u ih =>
    right
    rw [hasVowel, List.any_cons, Bool.or_eq_true]
    exact ih h

/-- A word has weight exactly when it has a vowel. -/
theorem weight_pos_iff {w : Word} : 0 < w.weight ↔ w.hasVowel = true := by
  unfold weight
  induction w with
  | nil => simp [runsAfter, hasVowel]
  | cons c w ih =>
    cases hc : isVowel c with
    | true =>
      simp only [runsAfter, hasVowel, List.any_cons, hc, Bool.true_or, iff_true]
      exact Nat.add_pos_left (by decide) _
    | false => simpa [runsAfter, hasVowel, hc] using ih

theorem weight_le_append (u v : Word) : u.weight ≤ (u ++ v).weight := by
  unfold weight
  rw [runsAfter_append]
  omega

/-- A vowel before a word takes one of its runs at most. -/
theorem runsAfter_false_le (b : Bool) (v : Word) : runsAfter false v ≤ runsAfter b v + 1 := by
  cases v with
  | nil => exact Nat.zero_le _
  | cons c v =>
    simp only [runsAfter]
    split_ifs <;> omega

theorem weight_le_append_left (u v : Word) : v.weight ≤ (u ++ v).weight := by
  unfold weight
  rw [runsAfter_append]
  cases hb : vowelAfter false u with
  | false => omega
  | true =>
    have hv := (hasVowel_of_vowelAfter hb).resolve_left Bool.false_ne_true
    have hu : 0 < runsAfter false u := weight_pos_iff.mpr hv
    have hle := runsAfter_false_le true v
    omega

/-- Cutting more leaves no more vowel runs. -/
theorem weight_dropEnd_le (w : Word) {m n : Nat} (h : m ≤ n) :
    (w.dropEnd n).weight ≤ (w.dropEnd m).weight := by
  obtain ⟨x, hx⟩ := dropEnd_isPrefix_dropEnd w h
  rw [← hx]
  exact weight_le_append _ x

theorem two_le_length_of_endsDoubled {w : Word} (h : w.endsDoubled = true) :
    2 ≤ w.length := by
  unfold endsDoubled at h
  split at h
  next last previous rest hrev =>
    rw [← List.length_reverse, hrev]
    simp
  next => exact absurd h Bool.false_ne_true

/-- Vowel, consonant, vowel are two runs, whatever stands before them. -/
theorem two_le_weight_of_hasTailPattern {w : Word} (h : w.hasTailPattern = true) :
    2 ≤ w.weight := by
  unfold hasTailPattern at h
  split at h
  next last middle first rest hrev =>
    obtain ⟨⟨hf, hm⟩, hl⟩ : (isVowel first = true ∧ isVowel middle = false) ∧
        isVowel last = true := by simpa using h
    have hw : w = rest.reverse ++ [first, middle, last] := by
      rw [← List.reverse_reverse w, hrev]
      simp
    have htail : weight [first, middle, last] = 2 := by simp [weight, runsAfter, hf, hm, hl]
    rw [hw, ← htail]
    exact weight_le_append_left _ _
  next => exact absurd h Bool.false_ne_true

end Stemming.Word
