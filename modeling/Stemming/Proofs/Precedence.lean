import Mathlib.Data.List.Nodup
import Mathlib.Data.List.Perm.Basic
import Stemming.Proofs.TailPattern

/-! Which of several fitting rules decides. The suffixes of a word form a chain, so of the rules
that fit it one has the longest suffix; a table that puts longer suffixes first finds that rule,
and no other order with this property finds another. A rule that is refused under `firstSuffix`
ends the search, and this matters only where a later rule would be admitted. -/
namespace Stemming

namespace Rule

/-- Of the rules that fit `w`, `r` alone has the longest suffix. -/
def Longest (rules : List Rule) (w : Word) (r : Rule) : Prop :=
  r ∈ rules ∧ r.fits w = true ∧
    ∀ t ∈ rules, t.fits w = true → t ≠ r → t.suffix.length < r.suffix.length

/-- Every rule stands behind the rules with a longer suffix that ends with its own. -/
def LongestFirst (rules : List Rule) : Prop :=
  rules.Pairwise fun a b => b.suffix.endsWith a.suffix = true → b.suffix.length ≤ a.suffix.length

instance (rules : List Rule) : Decidable (LongestFirst rules) :=
  inferInstanceAs (Decidable (List.Pairwise _ rules))

theorem Longest.unique {rules : List Rule} {w : Word} {r t : Rule} (hr : Longest rules w r)
    (ht : Longest rules w t) : r = t := by
  by_contra hne
  have hlt := ht.2.2 r hr.1 hr.2.1 hne
  have hgt := hr.2.2 t ht.1 ht.2.1 (Ne.symm hne)
  omega

theorem suffix_eq_of_fits {w : Word} {r t : Rule} (hr : r.fits w = true) (ht : t.fits w = true)
    (hl : t.suffix.length = r.suffix.length) : t.suffix = r.suffix := by
  have hs : t.suffix <:+ r.suffix :=
    List.suffix_of_suffix_length_le (Word.endsWith_iff.mp ht) (Word.endsWith_iff.mp hr) hl.le
  exact hs.eq_of_length hl

/-- It is enough that the rules kept by a test which every fitting rule passes are in order. -/
theorem LongestFirst.filter_fits {rules : List Rule} {keep : Rule → Bool} {w : Word}
    (hl : LongestFirst (rules.filter keep))
    (hk : ∀ r ∈ rules, r.fits w = true → keep r = true) :
    LongestFirst (rules.filter (·.fits w)) := by
  have heq : rules.filter (·.fits w) = (rules.filter keep).filter (·.fits w) := by
    rw [List.filter_filter]
    apply List.filter_congr
    intro r hr
    cases hf : r.fits w with
    | false => rfl
    | true => rw [hk r hr hf, Bool.and_true]
  rw [heq]
  exact List.Pairwise.filter _ hl

theorem longest_of_find? {rules : List Rule} {w : Word} {r : Rule}
    (hd : (rules.map suffix).Nodup) (hl : LongestFirst (rules.filter (·.fits w)))
    (h : rules.find? (·.fits w) = some r) : Longest rules w r := by
  obtain ⟨hr, before, after, rfl, hbefore⟩ := List.find?_eq_some_iff_append.mp h
  have hmem : r ∈ before ++ r :: after := by simp
  refine ⟨hmem, hr, ?_⟩
  intro t ht htw hne
  have hafter : t ∈ after := by
    rcases List.mem_append.mp ht with hb | hb
    · have hnot := hbefore t hb
      rw [htw] at hnot
      exact absurd hnot Bool.false_ne_true
    · exact (List.mem_cons.mp hb).resolve_left hne
  have hle : t.suffix.length ≤ r.suffix.length := by
    rcases List.suffix_or_suffix_of_suffix (Word.endsWith_iff.mp htw)
      (Word.endsWith_iff.mp hr) with hs | hs
    · exact hs.length_le
    -- Only here the order counts: `t` stands behind `r`, although its suffix is the longer one.
    · rw [LongestFirst, List.filter_append, List.pairwise_append,
        List.filter_cons_of_pos (by exact hr), List.pairwise_cons] at hl
      obtain ⟨-, ⟨hhead, -⟩, -⟩ := hl
      exact hhead t (List.mem_filter.mpr ⟨hafter, htw⟩) (Word.endsWith_iff.mpr hs)
  apply Nat.lt_of_le_of_ne hle
  intro hlen
  exact hne (List.inj_on_of_nodup_map hd ht hmem (suffix_eq_of_fits hr htw hlen))

/-- In a table with longer suffixes first, the first rule that fits is the longest one. -/
theorem find?_fits_iff {rules : List Rule} {w : Word} (hd : (rules.map suffix).Nodup)
    (hl : LongestFirst (rules.filter (·.fits w))) (r : Rule) :
    rules.find? (·.fits w) = some r ↔ Longest rules w r := by
  constructor
  · exact longest_of_find? hd hl
  · intro hr
    cases hfind : rules.find? (·.fits w) with
    | none => exact absurd hr.2.1 (List.find?_eq_none.mp hfind r hr.1)
    | some t => rw [(longest_of_find? hd hl hfind).unique hr]

/-- The two rules that stand behind `ion` in their table, although their suffixes end with it. -/
def behindIon (r : Rule) : Bool := r.suffix = "sion".toList || r.suffix = "tion".toList

theorem not_behindIon_of_fits {w : Word} (hsion : w.endsWith "sion".toList = false)
    (htion : w.endsWith "tion".toList = false) {r : Rule} (hr : r.fits w = true) :
    (!r.behindIon) = true := by
  rw [Bool.not_eq_true']
  by_contra hb
  rw [behindIon, Bool.not_eq_false, Bool.or_eq_true, decide_eq_true_eq, decide_eq_true_eq] at hb
  rcases hb with heq | heq
  · rw [fits, heq, hsion] at hr
    exact Bool.false_ne_true hr
  · rw [fits, heq, htion] at hr
    exact Bool.false_ne_true hr

theorem longest_congr_perm {rules rules' : List Rule} (hp : rules'.Perm rules) (w : Word)
    (r : Rule) : Longest rules' w r ↔ Longest rules w r := by
  simp only [Longest, hp.mem_iff]

end Rule

/-- Two orders of the same rules that both put longer suffixes first select alike. -/
theorem Matching.select_of_perm {tail : Word → Bool} {rules rules' : List Rule} {w : Word}
    (hp : rules'.Perm rules) (hd : (rules.map Rule.suffix).Nodup)
    (hl : Rule.LongestFirst (rules.filter (·.fits w)))
    (hl' : Rule.LongestFirst (rules'.filter (·.fits w))) :
    firstSuffix.select tail rules' w = firstSuffix.select tail rules w := by
  have hd' : (rules'.map Rule.suffix).Nodup := (hp.map Rule.suffix).nodup_iff.mpr hd
  have hfind : rules'.find? (·.fits w) = rules.find? (·.fits w) := by
    apply Option.ext
    intro r
    rw [Rule.find?_fits_iff hd' hl', Rule.find?_fits_iff hd hl, Rule.longest_congr_perm hp]
  rw [select, select, hfind]

namespace Stage

/-- The stages whose tables put longer suffixes first. -/
def longestFirst : List Stage :=
  [.plural, .verbal, .terminalY, .derivational, .secondaryDerivational, .cleanup]

theorem longestFirst_table {s : Stage} (hs : s ∈ longestFirst) :
    s.table.matching = .firstSuffix ∧ (s.table.rules.map Rule.suffix).Nodup ∧
      Rule.LongestFirst s.table.rules := by
  have all : ∀ s ∈ longestFirst, s.table.matching = .firstSuffix ∧
      (s.table.rules.map Rule.suffix).Nodup ∧ Rule.LongestFirst s.table.rules := by decide
  exact all s hs

theorem suffixStrip_table :
    (Table.suffixStripRules.map Rule.suffix).Nodup ∧
      Rule.LongestFirst (Table.suffixStripRules.filter fun r => !r.behindIon) := by decide

end Stage

/-- The first rule that fits is the one with the longest suffix, and no order of the rules that
keeps longer suffixes first selects another. In `suffixStrip` this is so for the words that do
not end in `sion` or `tion`; on those `ion` comes first. -/
theorem first_match_is_longest :
    (∀ s ∈ [Stage.plural, .verbal, .terminalY, .derivational, .secondaryDerivational, .cleanup],
      ∀ w : Word,
        (∀ r, s.table.rules.find? (·.fits w) = some r ↔ Rule.Longest s.table.rules w r) ∧
        ∀ rules : List Rule, rules.Perm s.table.rules → Rule.LongestFirst rules →
          s.table.matching.select Word.hasTailPattern rules w = s.select w) ∧
    (∀ w : Word, w.endsWith "sion".toList = false → w.endsWith "tion".toList = false →
      (∀ r, Table.suffixStripRules.find? (·.fits w) = some r ↔
        Rule.Longest Table.suffixStripRules w r) ∧
      ∀ rules : List Rule, rules.Perm Table.suffixStripRules →
        Rule.LongestFirst (rules.filter fun r => !r.behindIon) →
          Stage.suffixStrip.table.matching.select Word.hasTailPattern rules w =
            Stage.suffixStrip.select w) ∧
    ∀ w : Word, w.endsWith "sion".toList = true ∨ w.endsWith "tion".toList = true →
      Table.suffixStripRules.find? (·.fits w) = some (.strip "ion" 2) := by
  refine ⟨?_, ?_, ?_⟩
  · intro s hs w
    obtain ⟨hm, hd, hl⟩ := Stage.longestFirst_table hs
    refine ⟨Rule.find?_fits_iff hd (hl.filter _), ?_⟩
    intro rules hp hl'
    rw [Stage.select, Stage.selectWith, hm]
    exact Matching.select_of_perm hp hd (hl.filter _) (hl'.filter _)
  · intro w hsion htion
    obtain ⟨hd, hl⟩ := Stage.suffixStrip_table
    have hfits {rules : List Rule} (h : Rule.LongestFirst (rules.filter fun r => !r.behindIon)) :
        Rule.LongestFirst (rules.filter (·.fits w)) :=
      h.filter_fits fun r _ hr => Rule.not_behindIon_of_fits hsion htion hr
    refine ⟨Rule.find?_fits_iff hd (hfits hl), ?_⟩
    intro rules hp hl'
    exact Matching.select_of_perm hp hd (hfits hl) (hfits hl')
  · intro w hw
    have hion : w.endsWith "ion".toList = true := by
      rcases hw with hsion | htion
      · exact Word.endsWith_trans hsion (by decide)
      · exact Word.endsWith_trans htion (by decide)
    exact Stage.find?_eq_some (s := .suffixStrip) hion (by decide) (fun _ h => h) hion

theorem first_match_is_longest_rotated :
    (Table.derivationalRules.rotateLeft 2).Perm Table.derivationalRules ∧
    Rule.LongestFirst (Table.derivationalRules.rotateLeft 2) ∧
    Matching.firstSuffix.select Word.hasTailPattern (Table.derivationalRules.rotateLeft 2)
      "relational".toList = Stage.derivational.select "relational".toList ∧
    Word.endsWith "agreement".toList "sion".toList = false ∧
    Word.endsWith "agreement".toList "tion".toList = false ∧
    Rule.Longest Table.suffixStripRules "agreement".toList (.strip "ement" 2) ∧
    (Table.suffixStripRules.rotateLeft 19).Perm Table.suffixStripRules ∧
    Rule.LongestFirst ((Table.suffixStripRules.rotateLeft 19).filter fun r => !r.behindIon) ∧
    Matching.firstSuffix.select Word.hasTailPattern (Table.suffixStripRules.rotateLeft 19)
      "agreement".toList = Stage.suffixStrip.select "agreement".toList ∧
    Word.endsWith "adoption".toList "tion".toList = true ∧
    Table.suffixStripRules.find? (·.fits "adoption".toList) = some (.strip "ion" 2) := by
  have hperm : (Table.derivationalRules.rotateLeft 2).Perm Table.derivationalRules := by decide
  have hfirst : Rule.LongestFirst (Table.derivationalRules.rotateLeft 2) := by decide
  have hsion : Word.endsWith "agreement".toList "sion".toList = false := by decide
  have htion : Word.endsWith "agreement".toList "tion".toList = false := by decide
  have hperm' : (Table.suffixStripRules.rotateLeft 19).Perm Table.suffixStripRules := by decide
  have hfirst' : Rule.LongestFirst
      ((Table.suffixStripRules.rotateLeft 19).filter fun r => !r.behindIon) := by decide
  have hadoption : Word.endsWith "adoption".toList "tion".toList = true := by decide
  obtain ⟨hstages, hstrip, hion⟩ := first_match_is_longest
  obtain ⟨hlongest, horder⟩ := hstrip _ hsion htion
  refine ⟨hperm, hfirst, ?_, hsion, htion, ?_, hperm', hfirst', horder _ hperm' hfirst',
    hadoption, hion _ (Or.inr hadoption)⟩
  · exact (hstages .derivational (by decide) _).2 _ hperm hfirst
  · exact (hlongest _).mp (by decide)

/-- Where a rule that is refused leaves no later rule to be admitted, both policies select alike. -/
theorem Matching.firstSuffix_eq_firstAdmitted {tail : Word → Bool} {rules : List Rule} {w : Word}
    (h : rules.Pairwise fun r t => r.fits w = true → t.fits w = true →
      t.admits tail w = true → r.admits tail w = true) :
    firstSuffix.select tail rules w = firstAdmitted.select tail rules w := by
  induction rules with
  | nil => rfl
  | cons r rules ih =>
    rw [List.pairwise_cons] at h
    have hrest := ih h.2
    unfold select at hrest ⊢
    cases hf : r.fits w with
    | false => simpa [List.find?_cons, hf] using hrest
    | true =>
      cases ha : r.admits tail w with
      | true => simp [hf, ha]
      | false =>
        have hnone : rules.find? (fun t => t.fits w && t.admits tail w) = none := by
          rw [List.find?_eq_none]
          intro t ht htw
          rw [Bool.and_eq_true] at htw
          have hadm := h.1 t ht hf htw.1 htw.2
          rw [ha] at hadm
          exact Bool.false_ne_true hadm
        simp [hf, ha, hnone]

/-- A check on two rules: no word fits both, or the gate of `r` asks for no more than that of
`t`. -/
def Rule.covers (r t : Rule) : Bool :=
  !Word.nested r.suffix t.suffix ||
    match r.gate, t.gate with
    | .always, _ => true
    | _, .shortTail => true
    | .remainderWeightAbove m, .remainderWeightAbove n => m ≤ n && r.remove ≤ t.remove
    | _, _ => false

theorem Rule.covers_sound {r t : Rule} {w : Word} (h : r.covers t = true)
    (hr : r.fits w = true) (ht : t.fits w = true)
    (ha : t.admits Word.hasTailPattern w = true) : r.admits Word.hasTailPattern w = true := by
  have hnested : Word.nested r.suffix t.suffix = true := Word.nested_of_endsWith hr ht
  rw [covers, hnested, Bool.not_true, Bool.false_or] at h
  unfold admits at ha ⊢
  split at h
  next hg =>
    rw [hg]
    rfl
  next hg _ =>
    rw [hg, Gate.shortTail_holds] at ha
    exact absurd ha Bool.false_ne_true
  next m n hm hn =>
    -- The rule that cuts more leaves no more vowel runs.
    rw [Bool.and_eq_true, decide_eq_true_eq, decide_eq_true_eq] at h
    have hle : (t.remainderOf w).weight ≤ (r.remainderOf w).weight :=
      Word.weight_dropEnd_le w h.2
    rw [hn, Gate.holds, decide_eq_true_eq] at ha
    rw [hm, Gate.holds, decide_eq_true_eq]
    omega
  next => exact absurd h Bool.false_ne_true

theorem Stage.covers_table {s : Stage} (hv : s ≠ .verbal) (hd : s ≠ .derivational) :
    s.table.rules.Pairwise fun r t => r.covers t = true := by
  have all : ∀ s ∈ Stage.all, s ≠ .verbal → s ≠ .derivational →
      s.table.rules.Pairwise fun r t => r.covers t = true := by decide
  exact all s (mem_all s) hv hd

/-- The two policies select differently in `verbal` and `derivational` for some word, and in no
other stage for any. -/
theorem matching_policies_differ_iff (s : Stage) :
    (∃ w : Word, Matching.firstSuffix.select Word.hasTailPattern s.table.rules w ≠
      Matching.firstAdmitted.select Word.hasTailPattern s.table.rules w) ↔
    s = .verbal ∨ s = .derivational := by
  constructor
  · rintro ⟨w, hne⟩
    by_contra hs
    rw [not_or] at hs
    apply hne
    apply Matching.firstSuffix_eq_firstAdmitted
    exact (Stage.covers_table hs.1 hs.2).imp fun hc hr ht ha => Rule.covers_sound hc hr ht ha
  -- `eed` is refused after `f`, but `ed` stands after `fe`; likewise `ational` and `tional`.
  · rintro (rfl | rfl)
    · exact ⟨"feed".toList, by decide⟩
    · exact ⟨"rational".toList, by decide⟩

end Stemming
