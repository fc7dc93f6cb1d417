import Stemming.Proofs.Selection

/-! Stemming works at the end of a word. Two words with a common ending are run side by side:
they stay in step as long as the ending is longer than what a stage looks at, and the few
characters that a stage can take off are counted stage by stage. -/
namespace Stemming

namespace Word

/-- A short suffix is looked for in the ending alone. -/
theorem endsWith_append_of_le (u : Word) {x s : Word} (h : s.length ≤ x.length) :
    (u ++ x).endsWith s = x.endsWith s := by
  rw [Bool.eq_iff_iff, endsWith_iff, endsWith_iff]
  constructor
  · intro hs
    exact List.suffix_of_suffix_length_le hs (List.suffix_append u x) h
  · intro hs
    exact hs.trans (List.suffix_append u x)

theorem endsDoubled_append (u : Word) {x : Word} (h : 2 ≤ x.length) :
    (u ++ x).endsDoubled = x.endsDoubled := by
  unfold endsDoubled
  rw [List.reverse_append]
  rw [← List.length_reverse] at h
  match x.reverse, h with
  | _ :: _ :: _, _ => rfl

end Word

/-- What a gate says of a word with the ending `x`, when two vowel runs stand before it. -/
def Gate.passes (x : Word) : Gate → Bool
  | .undouble => x.endsDoubled && !(x.endsWith ['l'] || x.endsWith ['s'] || x.endsWith ['z'])
  | .shortTail => false
  | _ => true

/-- The number of characters at the end of a word that a gate compares. -/
def Gate.reach : Gate → Nat
  | .undouble => 2
  | _ => 0

/-- Two vowel runs are enough for the gate. -/
def Gate.atMostTwo : Gate → Bool
  | .stemWeightAbove bound => bound < 2
  | .remainderWeightAbove bound => bound < 2
  | _ => true

namespace Rule

/-- The number of characters at the end of a word that a rule compares or removes. -/
def reach (r : Rule) : Nat := max (max r.suffix.length r.remove) r.gate.reach

/-- The number of characters by which a rule can shorten a word. -/
def loss (r : Rule) : Nat := r.remove - r.append.length

theorem fits_append_of_le {r : Rule} {x : Word} (hr : r.reach ≤ x.length) (u : Word) :
    r.fits (u ++ x) = r.fits x := by
  unfold reach at hr
  exact Word.endsWith_append_of_le u (by omega)

/-- A word with two vowel runs before its ending passes every gate that asks for vowels. -/
theorem admits_append_of_weight {r : Rule} {u x : Word} (hr : r.reach ≤ x.length)
    (hg : r.gate.atMostTwo = true) (hu : 2 ≤ u.weight) :
    r.admits Word.hasTailPattern (u ++ x) = r.gate.passes x := by
  have hstem : r.stemOf (u ++ x) = u ++ x.dropEnd r.suffix.length := by
    apply Word.dropEnd_append_of_le
    unfold reach at hr
    omega
  have hrem : r.remainderOf (u ++ x) = u ++ x.dropEnd r.remove := by
    apply Word.dropEnd_append_of_le
    unfold reach at hr
    omega
  have hw (v : Word) : 2 ≤ (u ++ v).weight := Nat.le_trans hu (Word.weight_le_append u v)
  unfold admits
  rw [hstem, hrem]
  cases hgate : r.gate with
  | always => rfl
  | stemHasVowel =>
    have hv : u.hasVowel = true := Word.weight_pos_iff.mp (by omega)
    simp [Gate.holds, Gate.passes, hv]
  | stemWeightAbove bound =>
    have hb : bound < 2 := by simpa [hgate, Gate.atMostTwo] using hg
    have := hw (x.dropEnd r.suffix.length)
    simp only [Gate.holds, Gate.passes, decide_eq_true_eq]
    omega
  | remainderWeightAbove bound =>
    have hb : bound < 2 := by simpa [hgate, Gate.atMostTwo] using hg
    have := hw (x.dropEnd r.remove)
    simp only [Gate.holds, Gate.passes, decide_eq_true_eq]
    omega
  | softFinalE =>
    have hone : 1 < (u ++ x.dropEnd r.remove).weight := hw _
    simp [Gate.holds, Gate.passes, hone]
  | undouble =>
    have hx : 2 ≤ x.length := by
      have h2 : r.gate.reach = 2 := by rw [hgate]; rfl
      unfold reach at hr
      omega
    have hend (c : Char) : (u ++ x).endsWith [c] = x.endsWith [c] := by
      apply Word.endsWith_append_of_le
      simp only [List.length_singleton]
      omega
    simp only [Gate.holds, Gate.passes, Word.endsDoubled_append u hx, hend]
  | shortTail =>
    have hne : (u ++ x).weight ≠ 1 := by
      have := hw x
      omega
    simp [Gate.holds, Gate.passes, hne]

theorem apply_append_of_le {r : Rule} {x : Word} (hr : r.reach ≤ x.length) (u : Word) :
    r.apply (u ++ x) = u ++ r.apply x := by
  unfold reach at hr
  unfold apply remainderOf
  rw [Word.dropEnd_append_of_le u (by omega), List.append_assoc]

theorem length_apply (r : Rule) (x : Word) : x.length - r.loss ≤ (r.apply x).length := by
  unfold apply remainderOf loss
  rw [List.length_append, Word.length_dropEnd]
  omega

end Rule

/-- Two words on which the rules agree get the same rule. -/
theorem Matching.select_congr {tail : Word → Bool} {rules : List Rule} {w v : Word}
    (m : Matching) (hf : ∀ r ∈ rules, r.fits w = r.fits v)
    (ha : ∀ r ∈ rules, r.admits tail w = r.admits tail v) :
    m.select tail rules w = m.select tail rules v := by
  cases m with
  | firstSuffix =>
    unfold select
    rw [List.find?_congr hf]
    cases hfind : rules.find? (·.fits v) with
    | none => rfl
    | some r => simp only [Option.filter, ha r (List.mem_of_find?_eq_some hfind)]
  | firstAdmitted =>
    unfold select
    apply List.find?_congr
    intro r hr
    rw [hf r hr, ha r hr]

namespace Stage

/-- The reach of the rules of a stage. -/
def reach : Stage → Nat
  | plural => 4
  | verbal => 3
  | verbalCleanup => 2
  | terminalY => 1
  | derivational => 7
  | secondaryDerivational => 5
  | suffixStrip => 5
  | cleanup => 2

/-- The loss by the rules of a stage. -/
def loss : Stage → Nat
  | plural => 2
  | verbal => 3
  | verbalCleanup => 1
  | terminalY => 0
  | derivational => 4
  | secondaryDerivational => 5
  | suffixStrip => 4
  | cleanup => 1

theorem rule_bounds {s : Stage} {r : Rule} (hr : r ∈ s.table.rules) :
    r.reach ≤ s.reach ∧ r.loss ≤ s.loss ∧ r.gate.atMostTwo = true := by
  have all : ∀ s ∈ Stage.all, ∀ r ∈ s.table.rules,
      r.reach ≤ s.reach ∧ r.loss ≤ s.loss ∧ r.gate.atMostTwo = true := by decide
  exact all s (mem_all s) r hr

end Stage

/-- The gates cannot tell what stands before the ending: it is the same, or has weight enough. -/
def Alike (u v : Word) : Prop := u = v ∨ (2 ≤ u.weight ∧ 2 ≤ v.weight)

/-- Two words are `u` and `v` with a common ending of at least `n` characters. -/
def Tied (u v : Word) (n : Nat) (x y : Word) : Prop :=
  ∃ t : Word, n ≤ t.length ∧ x = u ++ t ∧ y = v ++ t

namespace Tied

variable {u v x y : Word} {n m : Nat}

theorem mono (h : Tied u v n x y) (hm : m ≤ n) : Tied u v m x y := by
  obtain ⟨t, ht, hx, hy⟩ := h
  exact ⟨t, Nat.le_trans hm ht, hx, hy⟩

/-- A stage selects the same rule for both words. -/
theorem select_eq {s : Stage} (h : Tied u v n x y) (ha : Alike u v) (hs : s.reach ≤ n) :
    s.select x = s.select y := by
  obtain ⟨t, ht, rfl, rfl⟩ := h
  rcases ha with rfl | ⟨hu, hv⟩
  · rfl
  -- Neither what a rule looks for nor its gate depends on `u` and `v`, only on the ending `t`.
  · have hreach {r : Rule} (hr : r ∈ s.table.rules) : r.reach ≤ t.length :=
      (Stage.rule_bounds hr).1.trans (hs.trans ht)
    apply Matching.select_congr
    · intro r hr
      rw [Rule.fits_append_of_le (hreach hr) u, Rule.fits_append_of_le (hreach hr) v]
    · intro r hr
      obtain ⟨-, -, hg⟩ := Stage.rule_bounds hr
      rw [Rule.admits_append_of_weight (hreach hr) hg hu,
        Rule.admits_append_of_weight (hreach hr) hg hv]

/-- A rule makes the same change to both endings. -/
theorem apply {r : Rule} (h : Tied u v n x y) (hr : r.reach ≤ n) :
    Tied u v (n - r.loss) (r.apply x) (r.apply y) := by
  obtain ⟨t, ht, rfl, rfl⟩ := h
  have hreach : r.reach ≤ t.length := Nat.le_trans hr ht
  refine ⟨r.apply t, ?_, Rule.apply_append_of_le hreach u, Rule.apply_append_of_le hreach v⟩
  have := r.length_apply t
  omega

theorem once {s : Stage} (h : Tied u v n x y) (ha : Alike u v) (hs : s.reach ≤ n) :
    Tied u v (n - s.loss) (Selector.once Stage.select s x) (Selector.once Stage.select s y) := by
  have heq := h.select_eq ha hs
  unfold Selector.once
  rw [← heq]
  cases hsel : s.select x with
  | none => exact h.mono (Nat.sub_le n s.loss)
  | some r =>
    obtain ⟨hreach, hloss, -⟩ := Stage.rule_bounds (Stage.select_some hsel).1
    exact (h.apply (by omega)).mono (by omega)

theorem step {s : Stage} (h : Tied u v n x y) (ha : Alike u v) (hne : s ≠ .verbal)
    (hs : s.reach ≤ n) : Tied u v (n - s.loss) (applyStage s x) (applyStage s y) := by
  rw [applyStage_eq_once hne, applyStage_eq_once hne]
  exact h.once ha hs

/-- `verbal` may take off four characters, the last of them in `verbalCleanup`. -/
theorem verbal (h : Tied u v n x y) (ha : Alike u v) (hn : 5 ≤ n) :
    Tied u v (n - 4) (applyStage .verbal x) (applyStage .verbal y) := by
  have hreach : Stage.reach .verbal ≤ n := Nat.le_trans (by decide) hn
  have hfollow : Selector.follow Stage.select .verbal x =
      Selector.follow Stage.select .verbal y := by
    unfold Selector.follow
    rw [h.select_eq ha hreach]
  have hstep := h.once ha hreach
  simp only [Stage.loss] at hstep
  unfold applyStage Selector.apply
  rw [← hfollow, Stage.follow_verbal]
  split_ifs
  · have hclean := hstep.once (s := .verbalCleanup) ha (by simp only [Stage.reach]; omega)
    exact hclean.mono (by simp only [Stage.loss]; omega)
  · exact hstep.mono (by omega)

/-- `plural` takes off two characters only where `verbal` then does nothing, so that the two
together take off at most five. -/
theorem plural_verbal (h : Tied u v n x y) (ha : Alike u v) (hn : 6 ≤ n) :
    Tied u v (n - 5) (applyStage .verbal (applyStage .plural x))
      (applyStage .verbal (applyStage .plural y)) := by
  have rules : ∀ r ∈ Table.pluralRules, r.follow = none ∧ r.reach ≤ 4 ∧ (r.loss ≤ 1 ∨
      (r.loss ≤ 2 ∧ r.remove ≤ r.suffix.length ∧ Stage.rulesNear .verbal r.ending = [])) := by
    decide
  have heq := h.select_eq (s := .plural) ha (by simp only [Stage.reach]; omega)
  cases hsel : Stage.select .plural x with
  | none =>
    rw [applyStage_of_select_none hsel, applyStage_of_select_none (heq.symm.trans hsel)]
    exact (h.verbal ha (by omega)).mono (by omega)
  | some r =>
    have hsel' := heq.symm.trans hsel
    obtain ⟨hr, hfx, -⟩ := Stage.select_some hsel
    obtain ⟨-, hfy, -⟩ := Stage.select_some hsel'
    obtain ⟨hfollow, hreach, hloss⟩ := rules r hr
    have hrun (z : Word) : r.run z = r.apply z := by rw [Rule.run, hfollow]
    rw [applyStage_of_select_some hsel, applyStage_of_select_some hsel', hrun, hrun]
    have hcut := h.apply (r := r) (by omega)
    rcases hloss with hone | ⟨htwo, hrem, hnear⟩
    · exact (hcut.verbal ha (by omega)).mono (by omega)
    -- What the rule leaves ends in `ss` or `i`, and no verbal suffix ends like that.
    · have hkeep {z : Word} (hz : r.fits z = true) :
          applyStage .verbal (r.apply z) = r.apply z := by
        obtain ⟨p, rfl⟩ := Rule.exists_of_fits hz
        rw [Rule.apply_append hrem]
        exact applyStage_of_select_none (Stage.select_eq_none (Word.endsWith_append p _) hnear)
      rw [hkeep hfx, hkeep hfy]
      exact hcut.mono (by omega)

end Tied

/-- The stages of a run reach no further than into an ending of `n` characters. -/
def Stage.fitsIn : List Stage → Nat → Bool
  | [], _ => true
  | s :: stages, n => s ≠ .verbal && s.reach ≤ n && fitsIn stages (n - s.loss)

/-- The two words stay in step through a run. -/
theorem Tied.run {u v x y : Word} {n : Nat} {stages : List Stage} (h : Tied u v n x y)
    (ha : Alike u v) (hs : Stage.fitsIn stages n = true) :
    Tied u v 0 (stages.foldl (fun x s => applyStage s x) x)
      (stages.foldl (fun x s => applyStage s x) y) := by
  induction stages generalizing x y n with
  | nil => exact h.mono (Nat.zero_le n)
  | cons s stages ih =>
    simp only [Stage.fitsIn, Bool.and_eq_true, decide_eq_true_eq] at hs
    obtain ⟨⟨hne, hreach⟩, hrest⟩ := hs
    exact ih (h.step ha hne hreach) hrest

/-- The stages after `verbal`. -/
def Stage.later : List Stage :=
  [.terminalY, .derivational, .secondaryDerivational, .suffixStrip, .cleanup]

theorem stem_eq_later (w : Word) :
    stem w = Stage.later.foldl (fun x s => applyStage s x)
      (applyStage .verbal (applyStage .plural w)) := by
  rw [stem_eq_foldl]
  simp only [Stage.sequence, Stage.later, List.foldl_cons, List.foldl_nil]

theorem exists_common_ending {u v w : Word} (ha : Alike u v) (hw : 20 ≤ w.length) :
    ∃ t, stem (u ++ w) = u ++ t ∧ stem (v ++ w) = v ++ t := by
  -- Twenty is enough: five characters go to `plural` and `verbal`, and each later stage still
  -- finds as many as it reaches for.
  have hstart : Tied u v 20 (u ++ w) (v ++ w) := ⟨w, hw, rfl, rfl⟩
  have hverbal := hstart.plural_verbal ha (by decide)
  have hlater : Stage.fitsIn Stage.later 15 = true := by decide
  obtain ⟨t, -, hu, hv⟩ := hverbal.run ha hlater
  rw [stem_eq_later, stem_eq_later]
  exact ⟨t, hu, hv⟩

/-- Stemming leaves alone what stands before the last twenty characters, and the change it makes
to them does not depend on what stands there once this has two vowel runs. -/
theorem stem_locality :
    (∀ u w : Word, 20 ≤ w.length → u <+: stem (u ++ w)) ∧
    ∀ u₁ u₂ w : Word, 2 ≤ u₁.weight → 2 ≤ u₂.weight → 20 ≤ w.length →
      ∃ t, stem (u₁ ++ w) = u₁ ++ t ∧ stem (u₂ ++ w) = u₂ ++ t := by
  constructor
  · intro u w hw
    obtain ⟨t, ht, -⟩ := exists_common_ending (u := u) (Or.inl rfl) hw
    rw [ht]
    exact List.prefix_append u t
  · intro u₁ u₂ w h₁ h₂ hw
    exact exists_common_ending (Or.inr ⟨h₁, h₂⟩) hw

theorem stem_locality_nternationalizations :
    20 ≤ "nternationalizations".toList.length ∧
    2 ≤ Word.weight "banana".toList ∧ 2 ≤ Word.weight "oboe".toList ∧
    "ski".toList <+: stem ("ski".toList ++ "nternationalizations".toList) ∧
    ∃ t, stem ("banana".toList ++ "nternationalizations".toList) = "banana".toList ++ t ∧
      stem ("oboe".toList ++ "nternationalizations".toList) = "oboe".toList ++ t := by
  have hlength : 20 ≤ "nternationalizations".toList.length := by decide
  have hbanana : 2 ≤ Word.weight "banana".toList := by decide
  have hoboe : 2 ≤ Word.weight "oboe".toList := by decide
  exact ⟨hlength, hbanana, hoboe, stem_locality.1 _ _ hlength,
    stem_locality.2 _ _ _ hbanana hoboe hlength⟩

end Stemming
