import Stemming.Proofs.Cascade

/-! What each stage can do to a word: every case of a stage names the part that is kept, what
its gate says about that part, and what stands after it. -/
namespace Stemming

/-- A stage whose rules all ask for a vowel puts an ending after a stem with a vowel. -/
theorem Stage.select_cases {s : Stage}
    (hs : ∀ r ∈ s.table.rules, r.asksVowel = true ∧ r.remove ≤ r.suffix.length) (w : Word) :
    s.select w = none ∨ ∃ r ∈ s.table.rules, ∃ p, s.select w = some r ∧ w = p ++ r.suffix ∧
      p.hasVowel = true ∧ r.apply w = p ++ r.ending := by
  cases h : s.select w with
  | none => exact Or.inl rfl
  | some r =>
    obtain ⟨hr, hf, ha⟩ := select_some h
    obtain ⟨p, hp⟩ := Rule.exists_stem (hs r hr).1 (hs r hr).2 hf ha
    exact Or.inr ⟨r, hr, p, rfl, hp⟩

/-- `plural` keeps a word in `ss` and shortens every other. -/
theorem plural_cases (w : Word) :
    (w.endsWith "ss".toList = true ∧ applyStage .plural w = w) ∨
      (w.endsWith "ss".toList = false ∧
        ∃ n, 1 ≤ n ∧ n ≤ 2 ∧ applyStage .plural w = w.dropEnd n) := by
  rw [Cascade.applyStage_plural, Cascade.plural]
  split_ifs with h1 h2 h3
  · exact Or.inr ⟨Word.endsWith_eq_false h1 (by decide), 2, by decide, Nat.le_refl _, rfl⟩
  · exact Or.inr ⟨Word.endsWith_eq_false h2 (by decide), 2, by decide, Nat.le_refl _, rfl⟩
  · exact Or.inl ⟨h3, rfl⟩
  · exact Or.inr ⟨eq_false_of_ne_true h3, 1, Nat.le_refl _, by decide, rfl⟩

theorem plural_isPrefix (w : Word) : applyStage .plural w <+: w := by
  rcases plural_cases w with ⟨-, heq⟩ | ⟨-, n, -, -, heq⟩
  · simp only [heq, List.prefix_rfl]
  · rw [heq]
    exact w.dropEnd_isPrefix n

theorem plural_of_ss {w : Word} (h : w.endsWith "ss".toList = true) :
    applyStage .plural w = w := by
  rcases plural_cases w with ⟨-, heq⟩ | ⟨hn, -⟩
  · exact heq
  · rw [h] at hn
    exact absurd hn.symm Bool.false_ne_true

theorem verbalCleanup_cases (w : Word) :
    applyStage .verbalCleanup w = w ++ ['e'] ∨
      ∃ n ≤ 1, applyStage .verbalCleanup w = w.dropEnd n := by
  have rules : ∀ r ∈ Table.verbalCleanupRules,
      (r.remove = 0 ∧ r.append = ['e']) ∨ (r.remove = 1 ∧ r.append = []) := by decide
  rw [applyStage_eq_once (by decide)]
  cases h : Stage.select .verbalCleanup w with
  | none =>
    rw [Stage.once_of_select_none h]
    exact Or.inr ⟨0, by decide, w.dropEnd_zero.symm⟩
  | some r =>
    rw [Stage.once_of_select_some h, Rule.apply, Rule.remainderOf]
    rcases rules r (Stage.select_some h).1 with ⟨hn, ha⟩ | ⟨hn, ha⟩
    · exact Or.inl (by rw [hn, ha, Word.dropEnd_zero])
    · exact Or.inr ⟨1, Nat.le_refl _, by rw [hn, ha, List.append_nil]⟩

/-- `verbal` shortens `eed`, or takes `ed` or `ing` off a stem with a vowel and mends the
stem. -/
theorem verbal_cases (w : Word) :
    applyStage .verbal w = w ∨
      ∃ p : Word, p.hasVowel = true ∧
        ((w = p ++ "eed".toList ∧ applyStage .verbal w = p ++ "ee".toList) ∨
          ((w = p ++ "ed".toList ∨ w = p ++ "ing".toList) ∧
            applyStage .verbal w = applyStage .verbalCleanup p)) := by
  rcases Stage.select_cases (s := .verbal) (by decide) w with hn | ⟨r, hr, p, hs, rfl, hp, ha⟩
  · exact Or.inl (applyStage_of_select_none hn)
  · right
    refine ⟨p, hp, ?_⟩
    rw [applyStage_of_select_some hs]
    have hcut (suffix : String) : (Rule.thenCleanup suffix).run (p ++ suffix.toList) =
        applyStage .verbalCleanup p := by
      rw [Rule.run_thenCleanup, Word.dropEnd_append]
    have hmem : r = .of "eed" 1 "" (.stemWeightAbove 0) ∨ r = .thenCleanup "ed" ∨
        r = .thenCleanup "ing" := by
      simpa [Stage.table, Table.verbalRules] using hr
    rcases hmem with rfl | rfl | rfl
    · exact Or.inl ⟨rfl, ha⟩
    · exact Or.inr ⟨Or.inl rfl, hcut "ed"⟩
    · exact Or.inr ⟨Or.inr rfl, hcut "ing"⟩

theorem terminalY_cases (w : Word) :
    applyStage .terminalY w = w ∨
      ∃ p : Word, p.hasVowel = true ∧ w = p ++ ['y'] ∧ applyStage .terminalY w = p ++ ['i'] := by
  rcases Stage.select_cases (s := .terminalY) (by decide) w with
    hn | ⟨r, hr, p, hs, hw, hp, ha⟩
  · exact Or.inl (applyStage_of_select_none hn)
  · have hy : r = .of "y" 1 "i" .stemHasVowel := List.mem_singleton.mp hr
    subst hy
    exact Or.inr ⟨p, hp, hw, by rw [applyStage_of_select_some hs]; exact ha⟩

/-- The two derivational stages replace a whole suffix after a stem with a vowel. -/
theorem replacement_cases {s : Stage} (hs : s = .derivational ∨ s = .secondaryDerivational)
    (w : Word) :
    applyStage s w = w ∨ ∃ r ∈ s.table.rules, ∃ p : Word, p.hasVowel = true ∧
      w = p ++ r.suffix ∧ applyStage s w = p ++ r.append := by
  have rules : ∀ r ∈ s.table.rules,
      (r.asksVowel = true ∧ r.remove ≤ r.suffix.length) ∧ r.ending = r.append ∧
        r.follow = none := by
    rcases hs with rfl | rfl <;> decide
  rcases Stage.select_cases (fun r hr => (rules r hr).1) w with
    hn | ⟨r, hr, p, hsel, hw, hp, ha⟩
  · exact Or.inl (applyStage_of_select_none hn)
  · obtain ⟨-, he, hf⟩ := rules r hr
    refine Or.inr ⟨r, hr, p, hp, hw, ?_⟩
    rw [applyStage_of_select_some hsel, Rule.run, hf, ← he]
    exact ha

/-- `suffixStrip` cuts at least two characters and leaves at least two vowel runs. -/
theorem suffixStrip_cases (w : Word) :
    applyStage .suffixStrip w = w ∨
      ∃ n, 2 ≤ n ∧ 1 < (w.dropEnd n).weight ∧ applyStage .suffixStrip w = w.dropEnd n := by
  have rules : ∀ r ∈ Table.suffixStripRules, 2 ≤ r.remove ∧ r.gate = .remainderWeightAbove 1 ∧
      r.append = [] ∧ r.follow = none := by decide
  cases h : Stage.select .suffixStrip w with
  | none => exact Or.inl (applyStage_of_select_none h)
  | some r =>
    obtain ⟨hr, -, ha⟩ := Stage.select_some h
    obtain ⟨hn, hg, he, hf⟩ := rules r hr
    rw [Rule.admits, hg] at ha
    refine Or.inr ⟨r.remove, hn, of_decide_eq_true ha, ?_⟩
    rw [applyStage_of_select_some h, Rule.run, hf, Rule.apply, he, List.append_nil]
    rfl

/-- The gate of the final `e` asks for a vowel before it and no more. -/
theorem admits_final_e (p : Word) :
    (Rule.of "e" 1 "" .softFinalE).admits Word.hasTailPattern (p ++ ['e']) = p.hasVowel := by
  have hrem : (Rule.of "e" 1 "" .softFinalE).remainderOf (p ++ ['e']) = p :=
    Word.dropEnd_append_singleton p 'e'
  rw [Rule.admits, hrem]
  exact Gate.softFinalE_holds _ _ _

theorem run_final_e (p : Word) : (Rule.of "e" 1 "" .softFinalE).run (p ++ ['e']) = p := by
  change (p ++ ['e']).dropEnd 1 ++ [] = p
  rw [Word.dropEnd_append_singleton, List.append_nil]

/-- A final `e` goes after a stem with a vowel, and a final `ll` may lose one letter. -/
theorem cleanup_cases (w : Word) :
    applyStage .cleanup w = w ∨
      ∃ p : Word, (p.hasVowel = true ∧ w = p ++ ['e'] ∧ applyStage .cleanup w = p) ∨
        (w = p ++ ['l', 'l'] ∧ applyStage .cleanup w = p ++ ['l']) := by
  cases h : Stage.select .cleanup w with
  | none => exact Or.inl (applyStage_of_select_none h)
  | some r =>
    obtain ⟨hr, hf, ha⟩ := Stage.select_some h
    have hmem : r = .of "e" 1 "" .softFinalE ∨ r = .of "ll" 1 "" (.remainderWeightAbove 1) := by
      simpa [Stage.table, Table.cleanupRules] using hr
    obtain ⟨p, rfl⟩ := Rule.exists_of_fits hf
    rw [applyStage_of_select_some h]
    right
    rcases hmem with rfl | rfl
    · exact ⟨p, Or.inl ⟨(admits_final_e p).symm.trans ha, rfl, run_final_e p⟩⟩
    · exact ⟨p, Or.inr ⟨rfl, Rule.apply_append (by decide) p⟩⟩

theorem cleanup_isPrefix (w : Word) : applyStage .cleanup w <+: w := by
  rcases cleanup_cases w with heq | ⟨p, ⟨-, rfl, heq⟩ | ⟨rfl, heq⟩⟩
  · simp only [heq, List.prefix_rfl]
  · rw [heq]
    exact List.prefix_append p ['e']
  · rw [heq]
    exact (List.prefix_append_right_inj p).mpr (List.prefix_append ['l'] ['l'])

/-- The final `e` of a stem with a vowel always goes. -/
theorem cleanup_append_e {p : Word} (hp : p.hasVowel = true) :
    applyStage .cleanup (p ++ ['e']) = p := by
  have hs : Stage.select .cleanup (p ++ ['e']) = some (.of "e" 1 "" .softFinalE) := by
    apply Stage.select_eq_some (Word.endsWith_append p ['e'])
    · decide
    · exact Rule.fits_append _ p
    · exact (admits_final_e p).trans hp
  rw [applyStage_of_select_some hs, run_final_e]

end Stemming
