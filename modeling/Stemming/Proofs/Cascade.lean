import Stemming.Stem.Cascade
import Stemming.Proofs.Selection

/-! The rule tables and the cascades of suffix tests agree on every word. -/
namespace Stemming

/-- A table read as a cascade. A rule that fits and is refused ends the search under
`firstSuffix` and is passed over under `firstAdmitted`. -/
def Matching.run (m : Matching) : List Rule → Word → Word
  | [], w => w
  | r :: rules, w =>
    if r.fits w then
      if r.admits Word.hasTailPattern w then r.run w
      else if m = .firstSuffix then w else m.run rules w
    else m.run rules w

theorem Matching.run_eq_select (m : Matching) (rules : List Rule) (w : Word) :
    m.run rules w = ((m.select Word.hasTailPattern rules w).map (·.run w)).getD w := by
  induction rules with
  | nil => cases m <;> rfl
  | cons r rules ih =>
    rw [run, ih]
    cases m with
    | firstSuffix =>
      rw [select, select, List.find?_cons]
      cases hf : r.fits w with
      | false => rfl
      | true =>
        rw [Option.filter_some]
        by_cases ha : r.admits Word.hasTailPattern w <;> simp [ha]
    | firstAdmitted =>
      rw [select, select, List.find?_cons]
      cases hf : r.fits w with
      | false => simp
      | true => by_cases ha : r.admits Word.hasTailPattern w <;> simp [ha]

theorem applyStage_eq_run (s : Stage) (w : Word) :
    applyStage s w = s.table.matching.run s.table.rules w := by
  have hsel : s.table.matching.select Word.hasTailPattern s.table.rules w = s.select w := rfl
  rw [Matching.run_eq_select, hsel]
  cases h : s.select w with
  | none => exact applyStage_of_select_none h
  | some r => exact applyStage_of_select_some h

namespace Cascade

/-- The test and the rewriting of one rule of a `firstSuffix` table. -/
theorem run_of (suffix ending : String) (n : Nat) (g : Gate) (rules : List Rule) (w : Word) :
    Matching.firstSuffix.run (.of suffix n ending g :: rules) w =
      if ends w suffix then
        if g.holds Word.hasTailPattern w (w.dropEnd suffix.toList.length) (w.dropEnd n)
          then w.dropEnd n ++ ending.toList else w
      else Matching.firstSuffix.run rules w := rfl

theorem run_replace (suffix ending : String) (rules : List Rule) (w : Word) :
    Matching.firstSuffix.run (.replace suffix ending :: rules) w =
      if ends w suffix then swap w suffix ending else Matching.firstSuffix.run rules w := by
  rw [Rule.replace, run_of]
  simp only [Gate.holds, decide_eq_true_eq, swap]

theorem run_strip (suffix : String) (n : Nat) (rules : List Rule) (w : Word) :
    Matching.firstSuffix.run (.strip suffix n :: rules) w =
      if ends w suffix then cut w n else Matching.firstSuffix.run rules w := by
  rw [Rule.strip, run_of]
  simp only [Gate.holds, decide_eq_true_eq, cut, String.toList_empty, List.append_nil]

/-- A block of suffixes that lose the same number of characters is one test. -/
theorem run_strip_block (suffixes : List String) (n : Nat) (rules : List Rule) (w : Word) :
    Matching.firstSuffix.run (suffixes.map (Rule.strip · n) ++ rules) w =
      if suffixes.any (ends w) then cut w n else Matching.firstSuffix.run rules w := by
  induction suffixes with
  | nil => rfl
  | cons suffix suffixes ih =>
    rw [List.map_cons, List.cons_append, run_strip, ih, List.any_cons]
    cases ends w suffix <;> rfl

theorem applyStage_plural (w : Word) : applyStage .plural w = plural w := by
  rw [applyStage_eq_run]
  simp only [Stage.table, Table.pluralRules, run_of, Gate.holds]
  simp [plural, ends, Word.endsWith]

/-- The test and the rewriting of one rule of a `firstAdmitted` table. -/
theorem run_of_admitted (suffix ending : String) (n : Nat) (g : Gate) (rules : List Rule)
    (w : Word) :
    Matching.firstAdmitted.run (.of suffix n ending g :: rules) w =
      if ends w suffix &&
          g.holds Word.hasTailPattern w (w.dropEnd suffix.toList.length) (w.dropEnd n)
        then w.dropEnd n ++ ending.toList
      else Matching.firstAdmitted.run rules w := by
  have hf : (Rule.of suffix n ending g).fits w = ends w suffix := rfl
  rw [Matching.run, hf]
  cases ends w suffix with
  | false => rfl
  | true => rfl

theorem applyStage_verbalCleanup (w : Word) :
    applyStage .verbalCleanup w = verbalCleanup w := by
  have hempty : ends w "" = true := Word.endsWith_iff.mpr (List.nil_suffix)
  rw [applyStage_eq_run]
  simp only [Stage.table, Table.verbalCleanupRules, run_of_admitted, Gate.holds, verbalCleanup,
    hempty, Bool.and_true, Bool.true_and, Bool.not_or, ← Bool.and_assoc]
  cases ends w "at" with
  | true => simp
  | false =>
    cases ends w "bl" with
    | true => simp
    | false =>
      cases ends w "iz" with
      | true => simp
      | false => simp [ends, Matching.run]

theorem applyStage_terminalY (w : Word) : applyStage .terminalY w = terminalY w := by
  rw [applyStage_eq_run]
  simp only [Stage.table, Table.terminalYRules, run_of, Gate.holds, terminalY]
  cases ends w "y" <;> rfl

/-- The test and the rewriting of one rule that leads to `verbalCleanup`. -/
theorem run_thenCleanup (suffix : String) (rules : List Rule) (w : Word) :
    Matching.firstSuffix.run (.thenCleanup suffix :: rules) w =
      if ends w suffix then
        if (w.dropEnd suffix.toList.length).hasVowel
          then verbalCleanup (w.dropEnd suffix.toList.length) else w
      else Matching.firstSuffix.run rules w := by
  rw [Matching.run, Rule.run_thenCleanup, applyStage_verbalCleanup]
  rfl

theorem applyStage_verbal (w : Word) : applyStage .verbal w = verbal w := by
  rw [applyStage_eq_run]
  simp only [Stage.table, Table.verbalRules, run_of, run_thenCleanup, Gate.holds,
    decide_eq_true_eq, String.toList_empty, List.append_nil, verbal]
  cases hed : ends w "ed" with
  | false => cases ends w "ing" <;> rfl
  | true =>
    -- The table stops at `ed` when its gate refuses; the cascade goes on to `ing`, in vain.
    have hing : ends w "ing" = false := Word.endsWith_eq_false hed (by decide)
    rw [hing]
    rfl

theorem applyStage_derivational (w : Word) : applyStage .derivational w = derivational w := by
  rw [applyStage_eq_run]
  simp only [Stage.table, Table.derivationalRules, run_replace]
  rfl

theorem applyStage_secondaryDerivational (w : Word) :
    applyStage .secondaryDerivational w = secondaryDerivational w := by
  rw [applyStage_eq_run]
  simp only [Stage.table, Table.secondaryDerivationalRules, run_replace]
  rfl

theorem applyStage_suffixStrip (w : Word) : applyStage .suffixStrip w = suffixStrip w := by
  have hgroups : Table.suffixStripRules =
      ["al", "ance", "ence", "er", "ic", "able", "ible", "ant", "ement", "ment", "ent", "ion",
        "ou"].map (Rule.strip · 2) ++
      (["ism", "ate", "iti", "ous", "ive", "ize"].map (Rule.strip · 3) ++
      (["sion", "tion"].map (Rule.strip · 4) ++ [])) := rfl
  rw [applyStage_eq_run, Stage.table, hgroups, run_strip_block, run_strip_block, run_strip_block,
    Matching.run, suffixStrip]

theorem applyStage_cleanup (w : Word) : applyStage .cleanup w = cleanup w := by
  rw [applyStage_eq_run]
  simp only [Stage.table, Table.cleanupRules, run_of, Gate.holds]
  simp [cleanup, Matching.run]

/-- The tables and the cascades rewrite every word alike, stage by stage and as a whole. -/
theorem tables_refine_cascades :
    (∀ (s : Stage) (w : Word), applyStage s w = stage s w) ∧
      ∀ w : Word, Stemming.stem w = stem w := by
  have hstage : ∀ (s : Stage) (w : Word), applyStage s w = stage s w := by
    intro s w
    cases s with
    | plural => exact applyStage_plural w
    | verbal => exact applyStage_verbal w
    | verbalCleanup => exact applyStage_verbalCleanup w
    | terminalY => exact applyStage_terminalY w
    | derivational => exact applyStage_derivational w
    | secondaryDerivational => exact applyStage_secondaryDerivational w
    | suffixStrip => exact applyStage_suffixStrip w
    | cleanup => exact applyStage_cleanup w
  refine ⟨hstage, fun w => ?_⟩
  simp only [stem_eq_foldl, hstage, Stage.sequence, List.foldl_cons, List.foldl_nil]
  rfl

end Cascade
end Stemming
