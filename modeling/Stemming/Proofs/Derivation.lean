import Stemming.Stem.Trace
import Stemming.Proofs.Selection

/-! The records of a trace are one derivation of the stem: they lead from the word to its stem
without a gap, in the order of the stages, and each one is a step of its stage. -/
namespace Stemming

/-- The records lead from `w` to `v`: each begins where the one before it ended. -/
def Linked (w : Word) : List StageRecord → Word → Prop
  | [], v => w = v
  | r :: records, v => r.input = w ∧ Linked r.output records v

namespace Linked

variable {u v w : Word} {xs ys : List StageRecord}

theorem append (hx : Linked u xs v) (hy : Linked v ys w) : Linked u (xs ++ ys) w := by
  induction xs generalizing u with
  | nil =>
    obtain rfl : u = v := hx
    exact hy
  | cons r xs ih => exact ⟨hx.1, ih hx.2⟩

theorem isChain (h : Linked u xs v) : xs.IsChain fun a b => b.input = a.output := by
  induction xs generalizing u with
  | nil => exact .nil
  | cons a xs ih =>
    cases xs with
    | nil => exact .singleton a
    | cons b xs => exact .cons_cons h.2.1 (ih h.2)

theorem last_output (h : Linked u xs v) :
    (xs.getLast?.map StageRecord.output).getD u = v := by
  induction xs generalizing u with
  | nil => exact h
  | cons a xs ih =>
    have hlast := ih h.2
    cases xs with
    | nil => exact hlast
    | cons b xs => simpa [List.getLast?_cons] using hlast

end Linked

namespace Selector

variable (select : Selector)

theorem records_linked (s : Stage) (w : Word) :
    Linked w (select.records s w) (select.apply s w) := by
  unfold records apply
  cases select.follow s w with
  | none => exact ⟨rfl, rfl⟩
  | some next => exact ⟨rfl, rfl, rfl⟩

/-- The records of a run lead to the word that the run without records returns. -/
theorem derivation_linked (stages : List Stage) (w : Word) :
    Linked w (select.derivation stages w) (stages.foldl (fun x s => select.apply s x) w) := by
  induction stages generalizing w with
  | nil => rfl
  | cons s stages ih => exact (select.records_linked s w).append (ih _)

theorem exists_of_mem_records {s : Stage} {w : Word} {r : StageRecord}
    (h : r ∈ select.records s w) : ∃ t x, r = select.record t x := by
  unfold records at h
  rcases List.mem_cons.mp h with rfl | h
  · exact ⟨s, w, rfl⟩
  · cases hf : select.follow s w with
    | none =>
      rw [hf] at h
      exact absurd h List.not_mem_nil
    | some next =>
      rw [hf] at h
      exact ⟨next, select.once s w, List.mem_singleton.mp h⟩

/-- Every record of a run is a step of its stage. -/
theorem exists_of_mem_derivation {stages : List Stage} {w : Word} {r : StageRecord}
    (h : r ∈ select.derivation stages w) : ∃ t x, r = select.record t x := by
  induction stages generalizing w with
  | nil => exact absurd h List.not_mem_nil
  | cons s stages ih =>
    rcases List.mem_append.mp h with h | h
    · exact select.exists_of_mem_records h
    · exact ih h

end Selector

namespace Stage

theorem records_of_ne_verbal {s : Stage} (hs : s ≠ .verbal) (w : Word) :
    Selector.records select s w = [Selector.record select s w] := by
  rw [Selector.records, follow_eq_none hs]

theorem records_verbal (w : Word) :
    Selector.records select .verbal w = Selector.record select .verbal w ::
      if (Selector.record select .verbal w).suffix = some "ed".toList ∨
          (Selector.record select .verbal w).suffix = some "ing".toList
        then [Selector.record select .verbalCleanup (Selector.once select .verbal w)] else [] := by
  rw [Selector.records, follow_verbal, Selector.record]
  split_ifs <;> rfl

theorem map_stage_derivation {stages : List Stage} (hs : Stage.verbal ∉ stages) (w : Word) :
    (Selector.derivation select stages w).map StageRecord.stage = stages := by
  induction stages generalizing w with
  | nil => rfl
  | cons s stages ih =>
    rw [List.mem_cons, not_or] at hs
    rw [Selector.derivation, records_of_ne_verbal (Ne.symm hs.1), List.map_append, ih hs.2]
    rfl

/-- Apart from the two plural rules that may keep the word, each rule that fires changes it. -/
theorem apply_eq_self_iff {s : Stage} {w : Word} {r : Rule} (h : s.select w = some r) :
    r.apply w = w ↔ s = .plural ∧ (r.suffix = "ss".toList ∨ w = []) := by
  have rules : ∀ s ∈ Stage.all, ∀ r ∈ s.table.rules,
      (r.remove ≤ r.suffix.length ∧ r.ending ≠ r.suffix ∧
        (s = .plural → r.suffix ≠ "ss".toList ∧ r.suffix ≠ [])) ∨
      (s = .verbalCleanup ∧ r = .of "" 1 "" .undouble) ∨
      (s = .plural ∧ (r = .of "ss" 0 "" .always ∨ r = .of "" 1 "" .always)) := by decide
  obtain ⟨hr, hf, ha⟩ := select_some h
  rcases rules s (mem_all s) r hr with ⟨hn, he, hp⟩ | ⟨rfl, rfl⟩ | ⟨rfl, rfl | rfl⟩
  · obtain ⟨p, rfl⟩ := Rule.exists_of_fits hf
    rw [Rule.apply_append hn, List.append_cancel_left_eq]
    constructor
    · intro hc
      exact absurd hc he
    · rintro ⟨rfl, hss | hnil⟩
      · exact absurd hss (hp rfl).1
      · exact absurd (List.append_eq_nil_iff.mp hnil).2 (hp rfl).2
  · have happ : (Rule.of "" 1 "" .undouble).apply w = w.dropEnd 1 := List.append_nil _
    rw [happ, Word.dropEnd_eq_self_iff]
    constructor
    · rintro (h1 | rfl)
      · exact absurd h1 (by decide)
      · exact absurd ha (by decide)
    · rintro ⟨hs, -⟩
      exact absurd hs (by decide)
  · have happ : (Rule.of "ss" 0 "" .always).apply w = w :=
      (List.append_nil _).trans w.dropEnd_zero
    exact ⟨fun _ => ⟨rfl, Or.inl rfl⟩, fun _ => happ⟩
  · have happ : (Rule.of "" 1 "" .always).apply w = w.dropEnd 1 := List.append_nil _
    rw [happ, Word.dropEnd_eq_self_iff]
    constructor
    · rintro (h1 | hw)
      · exact absurd h1 (by decide)
      · exact ⟨rfl, Or.inr hw⟩
    · rintro ⟨-, hss | hw⟩
      · exact absurd hss (by decide)
      · exact Or.inr hw

theorem changed_record {s : Stage} {w : Word} {r : Rule} (h : s.select w = some r) :
    (Selector.record select s w).changed = false ↔
      s = .plural ∧ (r.suffix = "ss".toList ∨ w = []) := by
  have hout : (Selector.record select s w).output = r.apply w := once_of_select_some h
  rw [StageRecord.changed, hout, bne_eq_false_iff_eq, ← apply_eq_self_iff h]
  exact eq_comm

end Stage

/-- The records of a whole run, with the one of `verbal` and what follows it set apart. -/
theorem stemTraced_records (w : Word) :
    (stemTraced w).records =
      Selector.record Stage.select .plural w ::
        (Selector.records Stage.select .verbal (applyStage .plural w) ++
          Selector.derivation Stage.select (Stage.sequence.drop 2)
            (applyStage .verbal (applyStage .plural w))) := by
  rw [stemTraced, Selector.trace]
  simp only [Stage.sequence, List.drop_succ_cons, List.drop_zero]
  rw [Selector.derivation, Stage.records_of_ne_verbal (by decide), Selector.derivation]
  rfl

/-- A trace ends in the stem and is one unbroken derivation of it. Its stages are those of
`Stage.sequence`, with `verbalCleanup` after `verbal` exactly when the record of `verbal` names
`ed` or `ing`. Every record is what the rule selected for its input makes of that input, and
only in `plural` does a rule that fires keep its input. -/
theorem stemTraced_derivation (w : Word) :
    (stemTraced w).output = stem w ∧
    (stemTraced w).records.head?.map StageRecord.input = some w ∧
    ((stemTraced w).records.IsChain fun a b => b.input = a.output) ∧
    (∃ v, (stemTraced w).records[1]? = some v ∧ v.stage = .verbal ∧
      (stemTraced w).records.map StageRecord.stage =
        if v.suffix = some "ed".toList ∨ v.suffix = some "ing".toList
          then [.plural, .verbal, .verbalCleanup, .terminalY, .derivational,
            .secondaryDerivational, .suffixStrip, .cleanup]
          else Stage.sequence) ∧
    (∀ r ∈ (stemTraced w).records,
      r.suffix = (r.stage.select r.input).map Rule.suffix ∧
      r.output = ((r.stage.select r.input).map (·.apply r.input)).getD r.input) ∧
    ∀ r ∈ (stemTraced w).records, r.suffix.isSome →
      (r.changed = false ↔ r.stage = .plural ∧ (r.suffix = some "ss".toList ∨ r.input = [])) := by
  have hlink : Linked w (stemTraced w).records (stem w) :=
    Selector.derivation_linked Stage.select Stage.sequence w
  have hstep : ∀ r ∈ (stemTraced w).records, ∃ s x, r = Selector.record Stage.select s x :=
    fun r hr => Selector.exists_of_mem_derivation Stage.select hr
  refine ⟨hlink.last_output, ?_, hlink.isChain, ?_, ?_, ?_⟩
  · rw [stemTraced_records]
    rfl
  · rw [stemTraced_records, Stage.records_verbal]
    refine ⟨_, rfl, rfl, ?_⟩
    rw [List.map_cons, List.map_append, Stage.map_stage_derivation (by decide)]
    split_ifs <;> rfl
  · intro r hr
    obtain ⟨s, x, rfl⟩ := hstep r hr
    refine ⟨rfl, ?_⟩
    change Selector.once Stage.select s x = ((s.select x).map (·.apply x)).getD x
    rw [Selector.once]
    cases s.select x <;> rfl
  · intro r hr hsome
    obtain ⟨s, x, rfl⟩ := hstep r hr
    cases hsel : s.select x with
    | none =>
      rw [Selector.record, hsel] at hsome
      exact absurd hsome Bool.false_ne_true
    | some rule =>
      rw [Stage.changed_record hsel]
      simp [Selector.record, hsel]

end Stemming
