import Stemming.Proofs.Stages

/-! What is left of a word between two stages. Some rules append letters, so the word need not
be a beginning of the one that came in; the invariant names the few fresh endings it can have
and what must stand before them for the last stage to remove them. -/
namespace Stemming

/-- A beginning of `w`, or one with a fresh ending in the place of at least as many letters. -/
inductive Residue (w : Word) : Word → Prop
  | cut {p : Word} (hp : p <+: w) : Residue w p
  | finalE {p : Word} (hp : p <+: w) (hl : p.length < w.length) (hv : p.hasVowel = true) :
      Residue w (p ++ ['e'])
  | finalI {p : Word} (hp : p ++ ['y'] <+: w) : Residue w (p ++ ['i'])
  | finalLe {p : Word} (hp : p ++ "ilit".toList <+: w) (hb : p.endsWith ['b'] = true)
      (hv : p.hasVowel = true) : Residue w (p ++ ['l', 'e'])

namespace Residue

variable {w x : Word}

theorem length_le (h : Residue w x) : x.length ≤ w.length := by
  cases h with
  | cut hp => exact hp.length_le
  | finalE hp hl hv =>
    rw [List.length_append]
    exact hl
  | finalI hp => simpa using hp.length_le
  | finalLe hp hb hv =>
    have hl := hp.length_le
    simp only [List.length_append, String.reduceToList, List.length_cons, List.length_nil] at hl ⊢
    omega

/-- A fresh ending shows in the last letter. -/
theorem isPrefix_or_endsWith (h : Residue w x) :
    x <+: w ∨ x.endsWith ['e'] = true ∨ x.endsWith ['i'] = true := by
  cases h with
  | cut hp => exact Or.inl hp
  | finalE hp hl hv => exact Or.inr (Or.inl (Word.endsWith_append _ _))
  | finalI hp => exact Or.inr (Or.inr (Word.endsWith_append _ _))
  | finalLe hp hb hv =>
    exact Or.inr (Or.inl (Word.endsWith_trans (Word.endsWith_append _ ['l', 'e']) (by decide)))

/-- At most the last letter is fresh, or the residue ends in `e`. -/
theorem dropEnd_one (h : Residue w x) : x.dropEnd 1 <+: w ∨ x.endsWith ['e'] = true := by
  cases h with
  | cut hp => exact Or.inl ((x.dropEnd_isPrefix 1).trans hp)
  | finalE hp hl hv => exact Or.inr (Word.endsWith_append _ _)
  | @finalI p hp =>
    rw [Word.dropEnd_append_singleton]
    exact Or.inl ((List.prefix_append p ['y']).trans hp)
  | finalLe hp hb hv =>
    exact Or.inr (Word.endsWith_trans (Word.endsWith_append _ ['l', 'e']) (by decide))

/-- At most the last two letters are fresh. -/
theorem dropEnd_two (h : Residue w x) : x.dropEnd 2 <+: w := by
  cases h with
  | cut hp => exact (x.dropEnd_isPrefix 2).trans hp
  | @finalE p hp hl hv =>
    rw [← Word.dropEnd_dropEnd _ 1 1, Word.dropEnd_append_singleton]
    exact (p.dropEnd_isPrefix 1).trans hp
  | @finalI p hp =>
    rw [← Word.dropEnd_dropEnd _ 1 1, Word.dropEnd_append_singleton]
    exact (p.dropEnd_isPrefix 1).trans ((List.prefix_append p ['y']).trans hp)
  | @finalLe p hp hb hv =>
    rw [show (p ++ ['l', 'e']).dropEnd 2 = p from Word.dropEnd_append p ['l', 'e']]
    exact (List.prefix_append p _).trans hp

/-- A stage with no rule for words in `e` or `i` acts on beginnings of `w` only. -/
theorem applyStage_of_isPrefix {s : Stage} (h : Residue w x) (he : s.rulesNear ['e'] = [])
    (hi : s.rulesNear ['i'] = []) (hp : x <+: w → Residue w (applyStage s x)) :
    Residue w (applyStage s x) := by
  rcases h.isPrefix_or_endsWith with hx | hx | hx
  · exact hp hx
  · rw [applyStage_of_select_none (Stage.select_eq_none hx he)]
    exact h
  · rw [applyStage_of_select_none (Stage.select_eq_none hx hi)]
    exact h

theorem verbal (h : Residue w x) : Residue w (applyStage .verbal x) := by
  apply h.applyStage_of_isPrefix (by decide) (by decide)
  intro hx
  rcases verbal_cases x with heq | ⟨p, hv, ⟨rfl, heq⟩ | ⟨hw, heq⟩⟩
  · rw [heq]
    exact h
  · rw [heq]
    have hee : p ++ "ee".toList <+: p ++ "eed".toList :=
      (List.prefix_append_right_inj p).mpr (by decide)
    exact cut (hee.trans hx)
  · rw [heq]
    have hp : p <+: w ∧ p.length < w.length := by
      have hl := hx.length_le
      rcases hw with rfl | rfl
      all_goals
        refine ⟨(List.prefix_append p _).trans hx, ?_⟩
        rw [List.length_append] at hl
        exact Nat.lt_of_lt_of_le (Nat.lt_add_of_pos_right (by decide)) hl
    rcases verbalCleanup_cases p with hc | ⟨n, -, hc⟩
    · rw [hc]
      exact finalE hp.1 hp.2 hv
    · rw [hc]
      exact cut ((p.dropEnd_isPrefix n).trans hp.1)

theorem terminalY (h : Residue w x) : Residue w (applyStage .terminalY x) := by
  apply h.applyStage_of_isPrefix (by decide) (by decide)
  intro hx
  rcases terminalY_cases x with heq | ⟨p, -, rfl, heq⟩
  · rw [heq]
    exact h
  · rw [heq]
    exact finalI hx

/-- The replacements of `derivational` keep a beginning of the suffix, which loses at least its
last letter, and may put an `e` after it; only `biliti` loses more and gets `le`. -/
theorem derivational_append {r : Rule} (hr : r ∈ Table.derivationalRules) {p : Word}
    (hv : p.hasVowel = true) (hd : (p ++ r.suffix).dropEnd 1 <+: w)
    (hl : (p ++ r.suffix).length ≤ w.length) : Residue w (p ++ r.append) := by
  have rules : ∀ r ∈ Table.derivationalRules, 1 ≤ r.suffix.length ∧
      (r.append <+: r.suffix.dropEnd 1 ∨
        (r.append.dropEnd 1 <+: r.suffix.dropEnd 1 ∧ r.append = r.append.dropEnd 1 ++ ['e']) ∨
        (r.suffix = "biliti".toList ∧ r.append = "ble".toList)) := by decide
  obtain ⟨hlen, hcases⟩ := rules r hr
  rw [Word.dropEnd_append_of_le p hlen] at hd
  rcases hcases with ha | ⟨ha, he⟩ | ⟨hs, ha⟩
  · exact cut (((List.prefix_append_right_inj p).mpr ha).trans hd)
  · rw [he, ← List.append_assoc]
    refine finalE (((List.prefix_append_right_inj p).mpr ha).trans hd) ?_ (by simp [hv])
    have hk := ha.length_le
    rw [Word.length_dropEnd r.suffix] at hk
    rw [List.length_append] at hl ⊢
    omega
  · rw [hs] at hd
    rw [ha]
    have hw : p ++ "ble".toList = (p ++ ['b']) ++ ['l', 'e'] := by simp
    rw [hw]
    refine finalLe ?_ (Word.endsWith_append _ _) (by simp [hv])
    rw [List.append_assoc]
    exact hd

theorem derivational (h : Residue w x) : Residue w (applyStage .derivational x) := by
  rcases h.dropEnd_one with hd | he
  · rcases replacement_cases (Or.inl rfl) x with heq | ⟨r, hr, p, hv, rfl, heq⟩
    · rw [heq]
      exact h
    · rw [heq]
      exact derivational_append hr hv hd h.length_le
  · rw [applyStage_of_select_none (Stage.select_eq_none he (by decide))]
    exact h

/-- The replacements of `secondaryDerivational` are beginnings of their suffixes, short enough
to leave out every fresh letter. -/
theorem secondaryDerivational (h : Residue w x) :
    Residue w (applyStage .secondaryDerivational x) := by
  have rules : ∀ r ∈ Table.secondaryDerivationalRules, 2 ≤ r.suffix.length ∧
      r.append <+: r.suffix.dropEnd 2 := by decide
  rcases replacement_cases (Or.inr rfl) x with heq | ⟨r, hr, p, -, rfl, heq⟩
  · rw [heq]
    exact h
  · rw [heq]
    obtain ⟨hlen, ha⟩ := rules r hr
    have hd := h.dropEnd_two
    rw [Word.dropEnd_append_of_le p hlen] at hd
    exact cut (((List.prefix_append_right_inj p).mpr ha).trans hd)

theorem suffixStrip (h : Residue w x) : Residue w (applyStage .suffixStrip x) := by
  rcases suffixStrip_cases x with heq | ⟨n, hn, -, heq⟩
  · rw [heq]
    exact h
  · rw [heq]
    exact cut ((x.dropEnd_isPrefix_dropEnd hn).trans h.dropEnd_two)

end Residue

/-- The stages between `plural` and `cleanup`. -/
def Stage.inner : List Stage :=
  [.verbal, .terminalY, .derivational, .secondaryDerivational, .suffixStrip]

theorem stem_eq_cleanup (w : Word) :
    stem w = applyStage .cleanup
      (Stage.inner.foldl (fun x s => applyStage s x) (applyStage .plural w)) := by
  rw [stem_eq_foldl]
  simp only [Stage.sequence, Stage.inner, List.foldl_cons, List.foldl_nil]

namespace Residue

variable {w x : Word}

theorem step {s : Stage} (hs : s ∈ Stage.inner) (h : Residue w x) :
    Residue w (applyStage s x) := by
  cases s with
  | verbal => exact h.verbal
  | terminalY => exact h.terminalY
  | derivational => exact h.derivational
  | secondaryDerivational => exact h.secondaryDerivational
  | suffixStrip => exact h.suffixStrip
  | plural => exact absurd hs (by decide)
  | verbalCleanup => exact absurd hs (by decide)
  | cleanup => exact absurd hs (by decide)

theorem run {stages : List Stage} (hs : stages ⊆ Stage.inner) (h : Residue w x) :
    Residue w (stages.foldl (fun x s => applyStage s x) x) := by
  induction stages generalizing x with
  | nil => exact h
  | cons s stages ih =>
    rw [List.cons_subset] at hs
    exact ih hs.2 (h.step hs.1)

/-- After `cleanup` no fresh `e` is left: a vowel stands before each of them. -/
theorem cleanup (h : Residue w x) :
    ∃ p r : Word, w = p ++ r ∧ (applyStage .cleanup x = p ∨
      (applyStage .cleanup x = p ++ ['i'] ∧ ['y'] <+: r) ∨
      (applyStage .cleanup x = p ++ ['l'] ∧ ['b'] <:+ p ∧ "ilit".toList <+: r)) := by
  cases h with
  | cut hp =>
    obtain ⟨r, hr⟩ := (cleanup_isPrefix x).trans hp
    exact ⟨applyStage .cleanup x, r, hr.symm, Or.inl rfl⟩
  | @finalE p hp hl hv =>
    obtain ⟨r, rfl⟩ := hp
    exact ⟨p, r, rfl, Or.inl (cleanup_append_e hv)⟩
  | @finalI p hp =>
    obtain ⟨r, rfl⟩ := hp
    have hi : Stage.select .cleanup (p ++ ['i']) = none :=
      Stage.select_eq_none (Word.endsWith_append p ['i']) (by decide)
    refine ⟨p, ['y'] ++ r, by simp, Or.inr (Or.inl ⟨applyStage_of_select_none hi, ?_⟩)⟩
    exact List.prefix_append ['y'] r
  | @finalLe p hp hb hv =>
    obtain ⟨r, rfl⟩ := hp
    have hl : applyStage .cleanup (p ++ ['l', 'e']) = p ++ ['l'] := by
      have hle : p ++ ['l', 'e'] = (p ++ ['l']) ++ ['e'] := by simp
      rw [hle]
      exact cleanup_append_e (by simp [hv])
    refine ⟨p, "ilit".toList ++ r, by simp, Or.inr (Or.inr ⟨hl, Word.endsWith_iff.mp hb, ?_⟩)⟩
    exact List.prefix_append _ r

end Residue

/-- Every stem is a beginning of the word, but for an `i` in the place of a `y` and for the `l` of
`bl` in the place of `ilit`. -/
theorem stem_shape (w : Word) :
    ∃ p r : Word, w = p ++ r ∧ (stem w = p ∨ (stem w = p ++ ['i'] ∧ ['y'] <+: r) ∨
      (stem w = p ++ ['l'] ∧ ['b'] <:+ p ∧ "ilit".toList <+: r)) := by
  rw [stem_eq_cleanup]
  exact ((Residue.cut (plural_isPrefix w)).run (List.Subset.refl _)).cleanup

example : stem "abilities".toList = "abl".toList := by decide

end Stemming
