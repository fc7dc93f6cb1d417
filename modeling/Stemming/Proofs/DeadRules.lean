import Stemming.Proofs.Derivation
import Stemming.Proofs.Locality
import Stemming.Proofs.Precedence

/-! The rules that never fire, and why all others do. Two rules are hidden behind a shorter
suffix, one has a gate that no word passes. For every other rule there is an ending that reaches
its stage unharmed and is rewritten by it there, whatever stands before. -/
namespace Stemming

namespace Stage

/-- Every rule of every table, with its stage. -/
def rulebook : List (Stage × Rule) := all.flatMap fun s => s.table.rules.map fun r => (s, r)

theorem rulebook_nodup : rulebook.Nodup := by
  have hstages : all.Nodup := by decide
  have htables (s : Stage) : s.table.rules.Nodup := by
    cases s with
    | suffixStrip => exact .of_map _ suffixStrip_table.1
    | verbalCleanup => decide
    | _ => exact .of_map _ (longestFirst_table (by decide)).2.1
  rw [rulebook, List.nodup_flatMap]
  constructor
  · intro s _
    exact (htables s).map fun _ _ h => congrArg Prod.snd h
  · refine hstages.imp ?_
    intro s t hne e hs ht
    obtain ⟨r, -, rfl⟩ := List.mem_map.mp hs
    obtain ⟨q, -, heq⟩ := List.mem_map.mp ht
    exact hne (congrArg Prod.fst heq).symm

theorem mem_rulebook {s : Stage} {r : Rule} : (s, r) ∈ rulebook ↔ r ∈ s.table.rules := by
  simp [rulebook, mem_all]

/-- The rules that no word selects. -/
def deadRules : List (Stage × Rule) :=
  [(.suffixStrip, .strip "sion" 4), (.suffixStrip, .strip "tion" 4),
    (.verbalCleanup, .of "" 0 "e" .shortTail)]

/-- A rule behind one whose suffix its own suffix ends with is never selected by first suffix. -/
theorem select_ne_of_hidden {s : Stage} {r t : Rule} (hm : s.table.matching = .firstSuffix)
    (hnear : (s.rulesNear r.suffix).head? = some t) (ht : r.suffix.endsWith t.suffix = true)
    (hne : t ≠ r) (w : Word) : s.select w ≠ some r := by
  intro hs
  have hr := (select_some hs).2.1
  rw [select, selectWith, hm, Matching.select,
    find?_eq_some hr hnear (fun _ h => h) (Word.endsWith_trans hr ht)] at hs
  exact hne (Option.some.inj (Option.filter_eq_some_iff.mp hs).1)

theorem select_ne_of_shortTail {s : Stage} {r : Rule} (hg : r.gate = .shortTail) (w : Word) :
    s.select w ≠ some r := by
  intro hs
  have ha := (select_some hs).2.2
  rw [Rule.admits, hg, Gate.shortTail_holds] at ha
  exact Bool.false_ne_true ha

theorem select_ne_of_mem_deadRules {s : Stage} {r : Rule} (h : (s, r) ∈ deadRules) (w : Word) :
    s.select w ≠ some r := by
  have hcases : (s = .suffixStrip ∧ r = .strip "sion" 4) ∨
      (s = .suffixStrip ∧ r = .strip "tion" 4) ∨
      (s = .verbalCleanup ∧ r = .of "" 0 "e" .shortTail) := by
    simpa [deadRules] using h
  rcases hcases with ⟨rfl, rfl⟩ | ⟨rfl, rfl⟩ | ⟨rfl, rfl⟩
  · exact select_ne_of_hidden (t := .strip "ion" 2) rfl (by decide) (by decide) (by decide) w
  · exact select_ne_of_hidden (t := .strip "ion" 2) rfl (by decide) (by decide) (by decide) w
  · exact select_ne_of_shortTail rfl w

end Stage

namespace Rule

/-- The suffix of a rule after a consonant, or what the gate of a doubled consonant asks for. -/
def sampleEnd (r : Rule) : Word := 'b' :: if r.gate = .undouble then ['b'] else r.suffix

/-- An ending with two vowel runs before the suffix. -/
def sample (r : Rule) : Word := "aba".toList ++ r.sampleEnd

end Rule

namespace Stage

/-- The stages between `plural` and `s`. -/
def between (s : Stage) : List Stage := (sequence.takeWhile (· ≠ s)).tail

/-- What `plural`, and `verbal` before `verbalCleanup`, take off on the way to `s`. -/
def trail : Stage → Word
  | .plural => []
  | .verbalCleanup => "ed".toList ++ ['x']
  | _ => ['x']

/-- Near its sample a live rule comes first in its table, and its gate passes. -/
theorem sample_selected : ∀ s ∈ Stage.all, ∀ r ∈ s.table.rules, (s, r) ∉ deadRules →
    (s.rulesNear r.sample).head? = some r ∧ r.sample.endsWith r.suffix = true ∧
      r.reach ≤ r.sampleEnd.length ∧ r.gate.passes r.sampleEnd = true := by
  decide +kernel

/-- No stage on the way to a live rule has a rule for its sample. -/
theorem sample_unharmed : ∀ s ∈ Stage.all, s ≠ .verbalCleanup → ∀ r ∈ s.table.rules,
    (s, r) ∉ deadRules → ∀ t ∈ s.between, t.rulesNear r.sample = [] := by
  decide +kernel

/-- A sample of `verbalCleanup` with `ed` after it does not end in `eed`. -/
theorem sample_before_ed : ∀ r ∈ Stage.verbalCleanup.table.rules,
    (Stage.verbal.rulesNear (r.sample ++ "ed".toList)).head? = some (.thenCleanup "ed") := by
  decide

/-- A live rule is selected for every word that ends with its sample. -/
theorem select_sample {s : Stage} {r : Rule} (hr : r ∈ s.table.rules)
    (hlive : (s, r) ∉ deadRules) (u : Word) : s.select (u ++ r.sample) = some r := by
  obtain ⟨hnear, hend, hreach, hpass⟩ := sample_selected s (mem_all s) r hr hlive
  have hw : 2 ≤ (u ++ "aba".toList).weight :=
    Nat.le_trans (by decide) (Word.weight_le_append_left u "aba".toList)
  have ha : r.admits Word.hasTailPattern (u ++ r.sample) = true := by
    rw [Rule.sample, ← List.append_assoc,
      Rule.admits_append_of_weight hreach (rule_bounds hr).2.2 hw]
    exact hpass
  have hu := Word.endsWith_append u r.sample
  exact select_eq_some hu hnear (Word.endsWith_trans hu hend) ha

end Stage

/-- `plural` takes off a last `x`, as any letter but `s`. -/
theorem plural_append_x (p : Word) : applyStage .plural (p ++ ['x']) = p := by
  have hs : Stage.select .plural (p ++ ['x']) = some (.of "" 1 "" .always) := by
    apply Stage.select_eq_some (Word.endsWith_append p ['x'])
    · decide
    · exact Word.endsWith_iff.mpr List.nil_suffix
    · rfl
  rw [applyStage_of_select_some hs]
  change (p ++ ['x']).dropEnd 1 ++ [] = p
  rw [Word.dropEnd_append_singleton, List.append_nil]

/-- A stage sees the word as it is when the stages before it keep it. -/
theorem Selector.record_mem_derivation (select : Selector) {before after : List Stage} {s : Stage}
    {w : Word} (hkeep : ∀ t ∈ before, select.apply t w = w) :
    select.record s w ∈ select.derivation (before ++ s :: after) w := by
  induction before with
  | nil => exact List.mem_append_left _ List.mem_cons_self
  | cons t before ih =>
    rw [List.cons_append, derivation, hkeep t List.mem_cons_self]
    exact List.mem_append_right _ (ih fun q hq => hkeep q (List.mem_cons_of_mem t hq))

/-- The trace has a record of `s` on whose input `r` is selected. -/
def Trace.Shows (t : Trace) (s : Stage) (r : Rule) : Prop :=
  ∃ x ∈ t.records, x.stage = s ∧ s.select x.input = some r

/-- A live rule shows in every trace with a record of its stage on the sample. -/
theorem Trace.shows_of_record_mem {s : Stage} {r : Rule} {t : Trace} (hr : r ∈ s.table.rules)
    (hlive : (s, r) ∉ Stage.deadRules) (u : Word)
    (h : Selector.record Stage.select s (u ++ r.sample) ∈ t.records) : t.Shows s r :=
  ⟨_, h, rfl, Stage.select_sample hr hlive u⟩

/-- In a stage of the sequence after `plural` the sample arrives as it is. -/
theorem shows_of_between {s : Stage} {r : Rule} (hr : r ∈ s.table.rules)
    (hlive : (s, r) ∉ Stage.deadRules) (hp : s ≠ .plural) (hs : s ≠ .verbalCleanup) (u : Word) :
    (stemTraced (u ++ r.sample ++ ['x'])).Shows s r := by
  have hsplit : ∃ after, Stage.sequence = .plural :: (s.between ++ s :: after) := by
    cases s with
    | plural => exact absurd rfl hp
    | verbalCleanup => exact absurd rfl hs
    | _ => exact ⟨_, rfl⟩
  obtain ⟨after, hafter⟩ := hsplit
  have hkeep : ∀ t ∈ s.between, applyStage t (u ++ r.sample) = u ++ r.sample := by
    intro t ht
    have hnear := Stage.sample_unharmed s (Stage.mem_all s) hs r hr hlive t ht
    exact applyStage_of_select_none (Stage.select_eq_none (Word.endsWith_append u _) hnear)
  apply Trace.shows_of_record_mem hr hlive u
  change _ ∈ Selector.derivation Stage.select Stage.sequence _
  rw [hafter, Selector.derivation]
  apply List.mem_append_right
  have hplural : Selector.apply Stage.select .plural (u ++ r.sample ++ ['x']) = u ++ r.sample :=
    plural_append_x _
  rw [hplural]
  exact Selector.record_mem_derivation Stage.select hkeep

/-- `verbal` takes `ed` off the sample of a cleanup rule and hands the rest to that rule. -/
theorem shows_verbalCleanup {r : Rule} (hr : r ∈ Stage.verbalCleanup.table.rules)
    (hlive : (Stage.verbalCleanup, r) ∉ Stage.deadRules) (u : Word) :
    (stemTraced (u ++ r.sample ++ "ed".toList ++ ['x'])).Shows .verbalCleanup r := by
  have hv : (u ++ r.sample).hasVowel = true := by
    rw [Rule.sample, Word.hasVowel_append, Word.hasVowel_append]
    simp [Word.hasVowel, isVowel]
  have hsel : Stage.select .verbal (u ++ r.sample ++ "ed".toList) = some (.thenCleanup "ed") := by
    have hend : (u ++ r.sample ++ "ed".toList).endsWith (r.sample ++ "ed".toList) = true := by
      rw [List.append_assoc]
      exact Word.endsWith_append u _
    apply Stage.select_eq_some hend (Stage.sample_before_ed r hr)
    · exact Rule.fits_append (.thenCleanup "ed") _
    · exact (Rule.admits_append (r := .thenCleanup "ed") (by decide) _).trans hv
  have honce : Selector.once Stage.select .verbal (u ++ r.sample ++ "ed".toList) =
      u ++ r.sample := by
    rw [Stage.once_of_select_some hsel]
    exact (Rule.apply_append (r := .thenCleanup "ed") (by decide) _).trans (List.append_nil _)
  have hfollow : Selector.follow Stage.select .verbal (u ++ r.sample ++ "ed".toList) =
      some .verbalCleanup := by
    rw [Selector.follow, hsel]
    rfl
  apply Trace.shows_of_record_mem hr hlive u
  rw [stemTraced_records, plural_append_x, Selector.records, hfollow, honce]
  simp

/-- A live rule shows in the trace of every word that ends with its sample and the trail of its
stage. -/
theorem shows_sample {s : Stage} {r : Rule} (hr : r ∈ s.table.rules)
    (hlive : (s, r) ∉ Stage.deadRules) (u : Word) :
    (stemTraced (u ++ (r.sample ++ s.trail))).Shows s r := by
  cases s with
  | plural =>
    apply Trace.shows_of_record_mem hr hlive u
    rw [stemTraced_records, Stage.trail, List.append_nil]
    exact List.mem_cons_self
  | verbalCleanup =>
    have h := shows_verbalCleanup hr hlive u
    simpa only [Stage.trail, List.append_assoc] using h
  | _ =>
    have h := shows_of_between hr hlive (by decide) (by decide) u
    simpa only [Stage.trail, List.append_assoc] using h

/-- Of the 63 rules exactly three are dead. No word selects these, and each of the other 60 shows
in the trace of every word with a certain ending. -/
theorem dead_rules_are_three :
    Stage.rulebook.Nodup ∧ Stage.rulebook.length = 63 ∧
    Stage.deadRules.Nodup ∧ Stage.deadRules.length = 3 ∧ Stage.deadRules ⊆ Stage.rulebook ∧
    (∀ s r, (s, r) ∈ Stage.deadRules → ∀ w : Word, s.select w ≠ some r) ∧
    ∀ s r, (s, r) ∈ Stage.rulebook → (s, r) ∉ Stage.deadRules →
      ∃ ending : Word, ∀ u : Word, ∃ x ∈ (stemTraced (u ++ ending)).records,
        x.stage = s ∧ s.select x.input = some r := by
  refine ⟨Stage.rulebook_nodup, rfl, by decide, rfl, by decide, ?_, ?_⟩
  · intro s r hdead w
    exact Stage.select_ne_of_mem_deadRules hdead w
  · intro s r hr hlive
    exact ⟨r.sample ++ s.trail, shows_sample (Stage.mem_rulebook.mp hr) hlive⟩

theorem dead_rules_are_three_ement :
    (Stage.suffixStrip, Rule.strip "tion" 4) ∈ Stage.deadRules ∧
    Stage.suffixStrip.select "adoption".toList ≠ some (.strip "tion" 4) ∧
    (Stage.suffixStrip, Rule.strip "ement" 2) ∈ Stage.rulebook ∧
    (Stage.suffixStrip, Rule.strip "ement" 2) ∉ Stage.deadRules ∧
    ∃ ending : Word, ∀ u : Word, ∃ x ∈ (stemTraced (u ++ ending)).records,
      x.stage = .suffixStrip ∧ Stage.suffixStrip.select x.input = some (.strip "ement" 2) := by
  have htion : (Stage.suffixStrip, Rule.strip "tion" 4) ∈ Stage.deadRules := by decide
  have hement : (Stage.suffixStrip, Rule.strip "ement" 2) ∈ Stage.rulebook := by decide
  have hlive : (Stage.suffixStrip, Rule.strip "ement" 2) ∉ Stage.deadRules := by decide
  obtain ⟨-, -, -, -, -, hdead, hshown⟩ := dead_rules_are_three
  exact ⟨htion, hdead _ _ htion _, hement, hlive, hshown _ _ hement hlive⟩

end Stemming
