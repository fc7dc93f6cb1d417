import Stemming.Proofs.Stages

/-! Vowels survive stemming. Each gate behind `plural` asks for a vowel in what its rule keeps, so
the later stages never take the last vowel of a word and do not touch a word that has none. The
cleanup that `verbal` leads to has no such gates; it is given stems with a vowel only. -/
namespace Stemming

namespace Word

theorem hasVowel_of_isPrefix {u w : Word} (h : u <+: w) (hu : u.hasVowel = true) :
    w.hasVowel = true := by
  obtain ⟨v, rfl⟩ := h
  simp [hu]

theorem hasVowel_of_endsWith {w s : Word} (h : w.endsWith s = true) (hs : s.hasVowel = true) :
    w.hasVowel = true := by
  obtain ⟨p, rfl⟩ := exists_eq_append h
  simp [hs]

/-- One letter of a doubled consonant can go without a vowel. -/
theorem hasVowel_dropEnd_of_endsDoubled {w : Word} (h : w.endsDoubled = true) :
    (w.dropEnd 1).hasVowel = w.hasVowel := by
  unfold endsDoubled at h
  split at h
  next last previous rest hrev =>
    obtain ⟨-, hlast⟩ : last = previous ∧ isVowel last = false := by simpa using h
    have hw : w = (rest.reverse ++ [previous]) ++ [last] := by
      rw [← List.reverse_reverse w, hrev]
      simp
    have hnone : hasVowel [last] = false := by simp [hasVowel, hlast]
    rw [hw, dropEnd_append_singleton, hasVowel_append _ [last], hnone, Bool.or_false]
  next => exact absurd h Bool.false_ne_true

end Word

namespace Rule

variable {r : Rule} {w : Word}

/-- The gate asks for a vowel within what the rule keeps of the word. -/
def guardsVowel (r : Rule) : Bool :=
  match r.gate with
  | .stemHasVowel | .stemWeightAbove _ => r.remove ≤ r.suffix.length
  | .remainderWeightAbove _ | .softFinalE => true
  | .always | .undouble | .shortTail => false

theorem hasVowel_remainderOf (hg : r.guardsVowel = true)
    (ha : r.admits Word.hasTailPattern w = true) : (r.remainderOf w).hasVowel = true := by
  have hstem (hle : r.remove ≤ r.suffix.length) (hv : (r.stemOf w).hasVowel = true) :
      (r.remainderOf w).hasVowel = true :=
    Word.hasVowel_of_isPrefix (w.dropEnd_isPrefix_dropEnd hle) hv
  unfold guardsVowel at hg
  unfold admits at ha
  cases hgate : r.gate with
  | stemHasVowel =>
    simp only [hgate, decide_eq_true_eq] at hg
    simp only [hgate, Gate.holds] at ha
    exact hstem hg ha
  | stemWeightAbove bound =>
    simp only [hgate, decide_eq_true_eq] at hg
    simp only [hgate, Gate.holds, decide_eq_true_eq] at ha
    exact hstem hg (Word.weight_pos_iff.mp (Nat.zero_lt_of_lt ha))
  | remainderWeightAbove bound =>
    simp only [hgate, Gate.holds, decide_eq_true_eq] at ha
    exact Word.weight_pos_iff.mp (Nat.zero_lt_of_lt ha)
  | softFinalE => rwa [hgate, Gate.softFinalE_holds] at ha
  | always => simp [hgate] at hg
  | undouble => simp [hgate] at hg
  | shortTail => simp [hgate] at hg

end Rule

/-- Every rule of the stages behind `plural` guards a vowel, and leads to `verbalCleanup` if
anywhere. -/
theorem Stage.guardsVowel_of_mem {s : Stage} (hs : s ∈ Stage.sequence.tail) {r : Rule}
    (hr : r ∈ s.table.rules) :
    r.guardsVowel = true ∧ (r.follow = none ∨ r.follow = some .verbalCleanup) := by
  have all : ∀ s ∈ Stage.sequence.tail, ∀ r ∈ s.table.rules, r.guardsVowel = true ∧
      (r.follow = none ∨ r.follow = some .verbalCleanup) := by decide
  exact all s hs r hr

/-- On a stem with a vowel the cleanup leaves one: it cuts half of a doubled consonant at most. -/
theorem hasVowel_verbalCleanup {w : Word} (hv : w.hasVowel = true) :
    (Selector.once Stage.select .verbalCleanup w).hasVowel = true := by
  have rules : ∀ r ∈ Table.verbalCleanupRules,
      r.remove = 0 ∨ (r.remove = 1 ∧ r.gate = .undouble) := by decide
  cases h : Stage.select .verbalCleanup w with
  | none => rwa [Stage.once_of_select_none h]
  | some r =>
    obtain ⟨hr, -, ha⟩ := Stage.select_some h
    rw [Stage.once_of_select_some h, Rule.apply, Rule.remainderOf, Word.hasVowel_append]
    rcases rules r hr with hn | ⟨hn, hg⟩
    · simp [hn, hv]
    · simp only [Rule.admits, hg, Gate.holds, Bool.and_eq_true] at ha
      simp [hn, Word.hasVowel_dropEnd_of_endsDoubled ha.1, hv]

-- Alone it can give a word its first vowel.
example : applyStage .verbalCleanup "bl".toList = "ble".toList := by decide

/-- From `w` to `x` no last vowel went, and a word without a vowel stayed as it was. -/
structure KeepsVowels (w x : Word) : Prop where
  hasVowel : x.hasVowel = w.hasVowel
  eq_self : w.hasVowel = false → x = w

namespace KeepsVowels

variable {w x y : Word}

theorem refl (w : Word) : KeepsVowels w w := ⟨rfl, fun _ => rfl⟩

theorem trans (h : KeepsVowels w x) (h' : KeepsVowels x y) : KeepsVowels w y where
  hasVowel := h'.hasVowel.trans h.hasVowel
  eq_self hw := (h'.eq_self (h.hasVowel.trans hw)).trans (h.eq_self hw)

theorem of_hasVowel (hw : w.hasVowel = true) (hx : x.hasVowel = true) : KeepsVowels w x where
  hasVowel := hx.trans hw.symm
  eq_self hn := absurd (hw.symm.trans hn) (by decide)

theorem step {s : Stage} (hs : s ∈ Stage.sequence.tail) (w : Word) :
    KeepsVowels w (applyStage s w) := by
  cases h : s.select w with
  | none =>
    rw [applyStage_of_select_none h]
    exact refl w
  | some r =>
    obtain ⟨hr, -, ha⟩ := Stage.select_some h
    obtain ⟨hg, hfollow⟩ := Stage.guardsVowel_of_mem hs hr
    have hrem := Rule.hasVowel_remainderOf hg ha
    have happly : (r.apply w).hasVowel = true := by simp [Rule.apply, hrem]
    apply of_hasVowel (Word.hasVowel_of_isPrefix (w.dropEnd_isPrefix r.remove) hrem)
    rw [applyStage_of_select_some h, Rule.run]
    rcases hfollow with hf | hf
    · rw [hf]
      exact happly
    · rw [hf]
      exact hasVowel_verbalCleanup happly

theorem run {stages : List Stage} (hs : stages ⊆ Stage.sequence.tail) (w : Word) :
    KeepsVowels w (stages.foldl (fun x s => applyStage s x) w) := by
  induction stages generalizing w with
  | nil => exact refl w
  | cons s stages ih =>
    rw [List.cons_subset] at hs
    exact (step hs.1 w).trans (ih hs.2 _)

end KeepsVowels

/-- After `plural` a word keeps its last vowel, and stays as it is if it has none. -/
theorem keepsVowels_stem (w : Word) : KeepsVowels (applyStage .plural w) (stem w) := by
  have hsplit : Stage.sequence = .plural :: Stage.sequence.tail := rfl
  rw [stem_eq_foldl, hsplit, List.foldl_cons]
  exact KeepsVowels.run (List.Subset.refl _) _

/-- The endings that lose two letters have a vowel. -/
theorem plural_of_not_hasVowel {w : Word} (h : w.hasVowel = false) :
    applyStage .plural w = if w.endsWith "ss".toList then w else w.dropEnd 1 := by
  have hends (s : String) (hs : Word.hasVowel s.toList = true) : Cascade.ends w s = false := by
    by_contra hw
    have hv := Word.hasVowel_of_endsWith (eq_true_of_ne_false hw) hs
    rw [h] at hv
    exact Bool.false_ne_true hv
  rw [Cascade.applyStage_plural, Cascade.plural, hends "sses" (by decide), hends "ies" (by decide)]
  simp only [Bool.false_eq_true, if_false]
  rfl

/-- Every stage but `plural` leaves a vowel in a word that has one and keeps a word that has none.
So a stem has a vowel exactly when the word has one after `plural`, and what `plural` leaves
without a vowel is the stem. A word without any vowel loses its last character, or nothing if it
ends in `ss`. -/
theorem vowels_survive_stemming :
    (∀ s ∈ Stage.sequence, s ≠ .plural → ∀ w : Word,
      (applyStage s w).hasVowel = w.hasVowel ∧ (w.hasVowel = false → applyStage s w = w)) ∧
    ∀ w : Word,
      (stem w).hasVowel = (applyStage .plural w).hasVowel ∧
      ((applyStage .plural w).hasVowel = false → stem w = applyStage .plural w) ∧
      (w.hasVowel = false → stem w = if w.endsWith "ss".toList then w else w.dropEnd 1) := by
  refine ⟨?_, ?_⟩
  · intro s hs hne w
    have htail : s ∈ Stage.sequence.tail := (List.mem_cons.mp hs).resolve_left hne
    have hkeep := KeepsVowels.step htail w
    exact ⟨hkeep.hasVowel, hkeep.eq_self⟩
  · intro w
    have hkeep := keepsVowels_stem w
    refine ⟨hkeep.hasVowel, hkeep.eq_self, ?_⟩
    intro hw
    have hplural := plural_of_not_hasVowel hw
    rw [← hplural]
    apply hkeep.eq_self
    by_contra hv
    have hv := Word.hasVowel_of_isPrefix (plural_isPrefix w) (eq_true_of_ne_false hv)
    rw [hw] at hv
    exact Bool.false_ne_true hv

/-- A consonant before the `y`, an ending in `sses` behind consonants, and a word of another
script. -/
theorem vowels_survive_stemming_sky :
    (Stage.terminalY ∈ Stage.sequence ∧ Stage.terminalY ≠ .plural ∧
      Word.hasVowel "sky".toList = false ∧ applyStage .terminalY "sky".toList = "sky".toList) ∧
    (Word.hasVowel (applyStage .plural "psses".toList) = false ∧
      stem "psses".toList = applyStage .plural "psses".toList) ∧
    Word.hasVowel "Миру7".toList = false ∧ stem "Миру7".toList = "Миру".toList := by
  obtain ⟨hstage, hstem⟩ := vowels_survive_stemming
  have hmem : Stage.terminalY ∈ Stage.sequence := by decide
  have hne : Stage.terminalY ≠ .plural := by decide
  have hsky : Word.hasVowel "sky".toList = false := by decide
  have hpsses : Word.hasVowel (applyStage .plural "psses".toList) = false := by decide
  have hmiru : Word.hasVowel "Миру7".toList = false := by decide
  have hloses := (hstem "Миру7".toList).2.2 hmiru
  exact ⟨⟨hmem, hne, hsky, (hstage _ hmem hne _).2 hsky⟩, ⟨hpsses, (hstem _).2.1 hpsses⟩, hmiru,
    hloses.trans (by decide)⟩

end Stemming
