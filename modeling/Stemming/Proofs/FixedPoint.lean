import Mathlib.Data.List.TFAE
import Mathlib.Logic.Function.Iterate
import Mathlib.Tactic.TFAE
import Stemming.Proofs.Derivation
import Stemming.Proofs.Residue

/-! The words that stemming keeps. Every other word gets strictly shorter, so that repeated
stemming comes to rest. -/
namespace Stemming

/-- A run through inner stages and `cleanup` never makes a word longer, although single rules
append letters. -/
theorem length_cleanup_run_le {stages : List Stage} (hs : stages ⊆ Stage.inner) (x : Word) :
    (applyStage .cleanup (stages.foldl (fun x s => applyStage s x) x)).length ≤ x.length := by
  have hr : Residue x (stages.foldl (fun x s => applyStage s x) x) :=
    (Residue.cut List.prefix_rfl).run hs
  exact Nat.le_trans (cleanup_isPrefix _).length_le hr.length_le

/-- The empty word, and the words in `ss` that are no `ness` after a vowel. -/
def Settled (w : Word) : Prop :=
  w = [] ∨ ("ss".toList <:+ w ∧ ¬∃ p : Word, w = p ++ "ness".toList ∧ p.hasVowel = true)

/-- On a word in `ss` a derivational stage acts only on `ness` after a vowel, and shortens it. -/
theorem replacement_of_ss {s : Stage} (hs : s = .derivational ∨ s = .secondaryDerivational)
    {w : Word} (hw : w.endsWith "ss".toList = true) :
    applyStage s w = w ∨ ((∃ p : Word, w = p ++ "ness".toList ∧ p.hasVowel = true) ∧
      (applyStage s w).length < w.length) := by
  have rules : ∀ r ∈ s.rulesNear "ss".toList,
      r.suffix.endsWith "ness".toList = true ∧ r.append.length < r.suffix.length := by
    rcases hs with rfl | rfl <;> decide
  rcases replacement_cases hs w with heq | ⟨r, hr, p, hv, rfl, heq⟩
  · exact Or.inl heq
  · obtain ⟨hn, hl⟩ := rules r (Stage.mem_rulesNear hr (r.fits_append p) hw)
    obtain ⟨q, hq⟩ := Word.exists_eq_append hn
    refine Or.inr ⟨⟨p ++ q, by rw [hq, List.append_assoc], by simp [hv]⟩, ?_⟩
    rw [heq, List.length_append, List.length_append]
    omega

theorem secondaryDerivational_ness {p : Word} (hv : p.hasVowel = true) :
    applyStage .secondaryDerivational (p ++ "ness".toList) = p := by
  have hs : Stage.select .secondaryDerivational (p ++ "ness".toList) =
      some (.replace "ness" "") := by
    apply Stage.select_eq_some (Word.endsWith_append p _)
    · decide
    · exact Rule.fits_append (.replace "ness" "") p
    · exact (Rule.admits_append (r := .replace "ness" "") (by decide) p).trans hv
  have hr : (Rule.replace "ness" "").apply (p ++ "ness".toList) = p ++ [] :=
    Rule.apply_append (r := .replace "ness" "") (by decide) p
  rw [applyStage_of_select_some hs, Rule.run]
  exact hr.trans (List.append_nil p)

/-- A stage keeps the word and leads nowhere. -/
def Stage.Keeps (s : Stage) (w : Word) : Prop :=
  Selector.follow Stage.select s w = none ∧ Selector.once Stage.select s w = w

theorem Stage.keeps_of_select_none {s : Stage} {w : Word} (h : s.select w = none) :
    s.Keeps w := by
  refine ⟨?_, once_of_select_none h⟩
  rw [Selector.follow, h]
  rfl

theorem Stage.keeps_of_applyStage {s : Stage} {w : Word} (hs : s ≠ .verbal)
    (h : applyStage s w = w) : s.Keeps w :=
  ⟨follow_eq_none hs w, (applyStage_eq_once hs w).symm.trans h⟩

/-- No stage touches a settled word. -/
theorem Settled.keeps {w : Word} (h : Settled w) : ∀ s ∈ Stage.sequence, s.Keeps w := by
  intro s hs
  rcases h with rfl | ⟨hss, hness⟩
  · have hnil : ∀ s ∈ Stage.sequence, Selector.follow Stage.select s [] = none ∧
        Selector.once Stage.select s [] = [] := by decide
    exact hnil s hs
  · have hw := Word.endsWith_iff.mpr hss
    have hrep (hd : s = .derivational ∨ s = .secondaryDerivational) : applyStage s w = w :=
      (replacement_of_ss hd hw).resolve_right fun hr => hness hr.1
    cases s with
    | plural => exact Stage.keeps_of_applyStage (by decide) (plural_of_ss hw)
    | verbal => exact Stage.keeps_of_select_none (Stage.select_eq_none hw (by decide))
    | terminalY => exact Stage.keeps_of_select_none (Stage.select_eq_none hw (by decide))
    | derivational => exact Stage.keeps_of_applyStage (by decide) (hrep (Or.inl rfl))
    | secondaryDerivational => exact Stage.keeps_of_applyStage (by decide) (hrep (Or.inr rfl))
    | suffixStrip => exact Stage.keeps_of_select_none (Stage.select_eq_none hw (by decide))
    | cleanup => exact Stage.keeps_of_select_none (Stage.select_eq_none hw (by decide))
    | verbalCleanup => exact absurd hs (by decide)

/-- A `ness` after a vowel is removed, or shortened with what stands before it. -/
theorem length_stem_lt_of_ness {p : Word} (hv : p.hasVowel = true) :
    (stem (p ++ "ness".toList)).length < (p ++ "ness".toList).length := by
  have hw : (p ++ "ness".toList).endsWith "ss".toList = true :=
    Word.endsWith_trans (Word.endsWith_append p _) (by decide)
  have hkeep (s : Stage) (hs : s.rulesNear "ss".toList = []) :
      applyStage s (p ++ "ness".toList) = p ++ "ness".toList :=
    applyStage_of_select_none (Stage.select_eq_none hw hs)
  rw [stem_eq_cleanup, plural_of_ss hw, Stage.inner, List.foldl_cons, hkeep .verbal (by decide),
    List.foldl_cons, hkeep .terminalY (by decide), List.foldl_cons]
  rcases replacement_of_ss (Or.inl rfl) hw with heq | ⟨-, hlt⟩
  · rw [heq, List.foldl_cons, secondaryDerivational_ness hv]
    have hp : p.length < (p ++ "ness".toList).length := by simp
    apply Nat.lt_of_le_of_lt (length_cleanup_run_le ?_ p) hp
    decide
  · apply Nat.lt_of_le_of_lt (length_cleanup_run_le ?_ _) hlt
    decide

/-- Every word that is not settled gets shorter. -/
theorem length_stem_lt {w : Word} (h : ¬Settled w) : (stem w).length < w.length := by
  unfold Settled at h
  rw [not_or, not_and, not_not] at h
  obtain ⟨hne, hness⟩ := h
  rcases plural_cases w with ⟨hss, -⟩ | ⟨-, n, hn, -, heq⟩
  · obtain ⟨p, rfl, hv⟩ := hness (Word.endsWith_iff.mp hss)
    exact length_stem_lt_of_ness hv
  · have hcut : (applyStage .plural w).length < w.length := by
      have hpos := List.length_pos_iff.mpr hne
      rw [heq, Word.length_dropEnd]
      omega
    rw [stem_eq_cleanup]
    exact Nat.lt_of_le_of_lt (length_cleanup_run_le (List.Subset.refl _) _) hcut

/-- Records that change nothing lead back to where they began. -/
theorem Linked.eq_of_unchanged {u v : Word} {xs : List StageRecord} (h : Linked u xs v)
    (hx : ∀ r ∈ xs, r.changed = false) : u = v := by
  induction xs generalizing u with
  | nil => exact h
  | cons r xs ih =>
    have hr : r.input = r.output := bne_eq_false_iff_eq.mp (hx r List.mem_cons_self)
    rw [← h.1, hr]
    exact ih h.2 fun q hq => hx q (List.mem_cons_of_mem r hq)

theorem stem_eq_of_changes {w : Word} (h : (stemTraced w).changes = []) : stem w = w := by
  have hlink : Linked w (stemTraced w).records (stem w) :=
    Selector.derivation_linked Stage.select Stage.sequence w
  apply (hlink.eq_of_unchanged ?_).symm
  intro r hr
  exact eq_false_of_ne_true (List.filter_eq_nil_iff.mp h r hr)

theorem derivation_of_keeps {stages : List Stage} {w : Word} (h : ∀ s ∈ stages, s.Keeps w) :
    Selector.derivation Stage.select stages w = stages.map (Selector.record Stage.select · w) := by
  induction stages with
  | nil => rfl
  | cons s stages ih =>
    obtain ⟨hf, ho⟩ := h s List.mem_cons_self
    rw [Selector.derivation, Selector.records, Selector.apply, hf]
    simp only [ho, List.map_cons]
    rw [ih fun t ht => h t (List.mem_cons_of_mem s ht)]
    rfl

theorem Settled.changes_eq_nil {w : Word} (h : Settled w) : (stemTraced w).changes = [] := by
  have hrec : (stemTraced w).records = Stage.sequence.map (Selector.record Stage.select · w) :=
    derivation_of_keeps h.keeps
  rw [Trace.changes, hrec, List.filter_eq_nil_iff]
  intro r hr
  obtain ⟨s, hs, rfl⟩ := List.mem_map.mp hr
  have ho : (Selector.record Stage.select s w).output = w := (h.keeps s hs).2
  rw [StageRecord.changed, ho]
  simp [Selector.record]

/-- As many rounds as a word has letters are enough. -/
theorem stem_iterate_fixed {n : Nat} {w : Word} (h : w.length ≤ n) :
    stem (stem^[n] w) = stem^[n] w := by
  induction n generalizing w with
  | zero =>
    obtain rfl : w = [] := List.eq_nil_of_length_eq_zero (Nat.le_zero.mp h)
    exact stem_eq_of_changes (Settled.changes_eq_nil (Or.inl rfl))
  | succ n ih =>
    by_cases hs : Settled w
    · have hfix : stem w = w := stem_eq_of_changes hs.changes_eq_nil
      rw [Function.iterate_fixed hfix, hfix]
    · rw [Function.iterate_succ_apply]
      have hlt := length_stem_lt hs
      exact ih (by omega)

/-- Stemming never lengthens a word. It keeps a word, or only its length, exactly when no stage
changes it, and these are the settled words; repeated stemming ends in one of them. -/
theorem stem_fixed_points (w : Word) :
    (stem w).length ≤ w.length ∧
    [stem w = w, (stem w).length = w.length, (stemTraced w).changes = [],
      w = [] ∨ ("ss".toList <:+ w ∧
        ¬∃ p : Word, w = p ++ "ness".toList ∧ p.hasVowel = true)].TFAE ∧
    stem (stem^[w.length] w) = stem^[w.length] w ∧
    (stem^[w.length] w = [] ∨ "ss".toList <:+ stem^[w.length] w) := by
  have hsettled {x : Word} (hx : (stem x).length = x.length) : Settled x := by
    by_contra hn
    have := length_stem_lt hn
    omega
  have hfix : stem (stem^[w.length] w) = stem^[w.length] w := stem_iterate_fixed (Nat.le_refl _)
  refine ⟨?_, ?_, hfix, ?_⟩
  · by_cases hs : Settled w
    · exact Nat.le_of_eq (congrArg List.length (stem_eq_of_changes hs.changes_eq_nil))
    · exact Nat.le_of_lt (length_stem_lt hs)
  · tfae_have 1 → 2 := congrArg List.length
    tfae_have 2 → 4 := hsettled
    tfae_have 4 → 3 := Settled.changes_eq_nil
    tfae_have 3 → 1 := stem_eq_of_changes
    tfae_finish
  · rcases hsettled (congrArg List.length hfix) with hnil | ⟨hss, -⟩
    · exact Or.inl hnil
    · exact Or.inr hss

end Stemming
