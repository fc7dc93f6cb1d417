import Mathlib.Data.List.Find
import Stemming.Stem
import Stemming.Proofs.Word

/-! What a selected rule says about the word, and which rules an ending leaves open. Whether a
rule can fit a word with a known ending is a finite question about the table. -/
namespace Stemming

namespace Rule

theorem exists_of_fits {r : Rule} {w : Word} (h : r.fits w = true) :
    ∃ p, w = p ++ r.suffix := Word.exists_eq_append h

theorem fits_append (r : Rule) (p : Word) : r.fits (p ++ r.suffix) = true :=
  Word.endsWith_append p r.suffix

@[simp] theorem stemOf_append (r : Rule) (p : Word) : r.stemOf (p ++ r.suffix) = p :=
  Word.dropEnd_append p r.suffix

/-- What a rule that cuts within its suffix puts in the suffix's place. -/
def ending (r : Rule) : Word := r.suffix.dropEnd r.remove ++ r.append

theorem apply_append {r : Rule} (h : r.remove ≤ r.suffix.length) (p : Word) :
    r.apply (p ++ r.suffix) = p ++ r.ending := by
  rw [apply, remainderOf, Word.dropEnd_append_of_le p h, ending, List.append_assoc]

/-- The gates that ask for a vowel in the stem, by presence or by weight. -/
def asksVowel (r : Rule) : Bool := r.gate = .stemHasVowel || r.gate = .stemWeightAbove 0

theorem admits_append {tail : Word → Bool} {r : Rule} (h : r.asksVowel = true) (p : Word) :
    r.admits tail (p ++ r.suffix) = p.hasVowel := by
  rw [asksVowel, Bool.or_eq_true, decide_eq_true_eq, decide_eq_true_eq] at h
  rcases h with hg | hg
  · rw [admits, hg, stemOf_append]
    rfl
  · rw [admits, hg, stemOf_append, Bool.eq_iff_iff, ← Word.weight_pos_iff]
    exact decide_eq_true_iff

/-- A rule that asks for a vowel splits the word into a stem with a vowel and the suffix. -/
theorem exists_stem {tail : Word → Bool} {r : Rule} {w : Word} (hg : r.asksVowel = true)
    (hr : r.remove ≤ r.suffix.length) (hf : r.fits w = true) (ha : r.admits tail w = true) :
    ∃ p, w = p ++ r.suffix ∧ p.hasVowel = true ∧ r.apply w = p ++ r.ending := by
  obtain ⟨p, rfl⟩ := exists_of_fits hf
  rw [admits_append hg] at ha
  exact ⟨p, rfl, ha, apply_append hr p⟩

end Rule

/-- A soft final `e` goes exactly when a vowel is left: with the tail pattern there are two
runs. -/
theorem Gate.softFinalE_holds (word stem remainder : Word) :
    Gate.softFinalE.holds Word.hasTailPattern word stem remainder = remainder.hasVowel := by
  have hw := @Word.weight_pos_iff remainder
  have ht := @Word.two_le_weight_of_hasTailPattern remainder
  rw [Bool.eq_iff_iff, ← hw]
  cases hp : remainder.hasTailPattern with
  | true => simp [holds, hp]; have := ht hp; omega
  | false => simp [holds, hp]; omega

theorem Matching.select_some {tail : Word → Bool} {rules : List Rule} {w : Word} {r : Rule}
    {m : Matching} (h : m.select tail rules w = some r) :
    r ∈ rules ∧ r.fits w = true ∧ r.admits tail w = true := by
  cases m with
  | firstSuffix =>
    obtain ⟨hfind, ha⟩ := Option.filter_eq_some_iff.mp h
    have hf := List.find?_some hfind
    exact ⟨List.mem_of_find?_eq_some hfind, hf, ha⟩
  | firstAdmitted =>
    have hp := List.find?_some h
    rw [Bool.and_eq_true] at hp
    exact ⟨List.mem_of_find?_eq_some h, hp⟩

namespace Stage

theorem select_some {s : Stage} {w : Word} {r : Rule} (h : s.select w = some r) :
    r ∈ s.table.rules ∧ r.fits w = true ∧ r.admits Word.hasTailPattern w = true :=
  Matching.select_some h

/-- The rules of a stage whose suffix can stand at the end of a word that ends with `t`. -/
def rulesNear (s : Stage) (t : Word) : List Rule :=
  s.table.rules.filter fun r => Word.nested r.suffix t

theorem mem_rulesNear {s : Stage} {w t : Word} {r : Rule} (hr : r ∈ s.table.rules)
    (hf : r.fits w = true) (ht : w.endsWith t = true) : r ∈ s.rulesNear t :=
  List.mem_filter.mpr ⟨hr, Word.nested_of_endsWith hf ht⟩

/-- An ending that agrees with no suffix of the table keeps the stage from firing. -/
theorem select_eq_none {s : Stage} {w t : Word} (ht : w.endsWith t = true)
    (hn : s.rulesNear t = []) : s.select w = none := by
  rw [Option.eq_none_iff_forall_ne_some]
  intro r hs
  obtain ⟨hr, hf, -⟩ := select_some hs
  have hm := mem_rulesNear hr hf ht
  rw [hn] at hm
  exact List.not_mem_nil hm

/-- A search among the rules that fit needs to look only near the ending, and stops at the first
rule there if this one passes. -/
theorem find?_eq_some {s : Stage} {w t : Word} {r : Rule} {test : Rule → Bool}
    (ht : w.endsWith t = true) (hr : (s.rulesNear t).head? = some r)
    (hfits : ∀ q, test q = true → q.fits w = true) (htest : test r = true) :
    s.table.rules.find? test = some r := by
  have hnear : s.table.rules.find? test = (s.rulesNear t).find? test := by
    rw [rulesNear, List.find?_filter]
    apply List.find?_congr
    intro q _
    cases hq : test q with
    | false => simp
    | true => simp [Word.nested_of_endsWith (hfits q hq) ht]
  obtain ⟨others, hothers⟩ := List.head?_eq_some_iff.mp hr
  rw [hnear, hothers]
  exact List.find?_cons_of_pos htest

/-- The first rule near an ending is selected under both policies if it fits and is admitted. -/
theorem select_eq_some {s : Stage} {w t : Word} {r : Rule} (ht : w.endsWith t = true)
    (hr : (s.rulesNear t).head? = some r) (hf : r.fits w = true)
    (ha : r.admits Word.hasTailPattern w = true) : s.select w = some r := by
  rw [select, selectWith]
  cases s.table.matching with
  | firstSuffix =>
    rw [Matching.select, find?_eq_some ht hr (fun _ h => h) hf]
    exact Option.filter_some_pos ha
  | firstAdmitted =>
    apply find?_eq_some ht hr
    · intro q hq
      exact (Bool.and_eq_true_iff.mp hq).1
    · exact Bool.and_eq_true_iff.mpr ⟨hf, ha⟩

theorem once_of_select_none {s : Stage} {w : Word} (h : s.select w = none) :
    Selector.once select s w = w := by
  rw [Selector.once, h]

theorem once_of_select_some {s : Stage} {w : Word} {r : Rule} (h : s.select w = some r) :
    Selector.once select s w = r.apply w := by
  rw [Selector.once, h]

/-- Only the rules of `verbal` lead to another stage. -/
theorem follow_eq_none {s : Stage} (hs : s ≠ .verbal) (w : Word) :
    Selector.follow select s w = none := by
  have all : ∀ s ∈ Stage.all, s ≠ .verbal → ∀ r ∈ s.table.rules, r.follow = none := by decide
  rw [Selector.follow, Option.bind_eq_none_iff]
  intro r hr
  exact all s (mem_all s) hs r (select_some hr).1

/-- A rule of `verbal` leads to `verbalCleanup` exactly when its suffix is `ed` or `ing`. -/
theorem follow_verbal (w : Word) :
    Selector.follow select .verbal w =
      if (select .verbal w).map Rule.suffix = some "ed".toList ∨
          (select .verbal w).map Rule.suffix = some "ing".toList
        then some .verbalCleanup else none := by
  have all : ∀ r ∈ Table.verbalRules, r.follow =
      if some r.suffix = some "ed".toList ∨ some r.suffix = some "ing".toList
        then some .verbalCleanup else none := by decide
  rw [Selector.follow]
  cases h : select .verbal w with
  | none => simp
  | some r => exact all r (select_some h).1

end Stage

/-- What a rule that fires makes of a word, with the stage it leads to. -/
def Rule.run (r : Rule) (w : Word) : Word :=
  match r.follow with
  | some next => Selector.once Stage.select next (r.apply w)
  | none => r.apply w

theorem applyStage_of_select_some {s : Stage} {w : Word} {r : Rule} (h : s.select w = some r) :
    applyStage s w = r.run w := by
  rw [applyStage, Selector.apply, Selector.follow, h, Stage.once_of_select_some h]
  rfl

/-- A stage that selects no rule leaves the word as it is. -/
theorem applyStage_of_select_none {s : Stage} {w : Word} (h : s.select w = none) :
    applyStage s w = w := by
  rw [applyStage, Selector.apply, Selector.follow, h]
  exact Stage.once_of_select_none h

theorem applyStage_eq_once {s : Stage} (hs : s ≠ .verbal) (w : Word) :
    applyStage s w = Selector.once Stage.select s w := by
  rw [applyStage, Selector.apply, Stage.follow_eq_none hs]

theorem Rule.run_thenCleanup (suffix : String) (w : Word) :
    (Rule.thenCleanup suffix).run w =
      applyStage .verbalCleanup (w.dropEnd suffix.toList.length) := by
  have ha : (Rule.thenCleanup suffix).apply w = w.dropEnd suffix.toList.length :=
    List.append_nil _
  rw [applyStage_eq_once (by decide), ← ha]
  rfl

theorem stem_eq_foldl (w : Word) :
    stem w = Stage.sequence.foldl (fun x s => applyStage s x) w := rfl

end Stemming
