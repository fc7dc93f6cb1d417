import Stemming.Rule.Table

/-! Stemming: every word runs through the stages in order. The engine takes the rule selection
as a parameter; `stem` runs it with the tables of `Stage.table`. -/
namespace Stemming

/-- The rule, if any, that fires on a word in a stage. -/
abbrev Selector := Stage → Word → Option Rule

namespace Selector

variable (select : Selector)

/-- One stage alone, without the stage its rule may lead to. -/
def once (stage : Stage) (w : Word) : Word :=
  match select stage w with
  | some r => r.apply w
  | none => w

/-- The stage that the selected rule leads to. -/
def follow (stage : Stage) (w : Word) : Option Stage := (select stage w).bind Rule.follow

/-- One stage, and after it the stage its rule leads to. -/
def apply (stage : Stage) (w : Word) : Word :=
  match select.follow stage w with
  | some next => select.once next (select.once stage w)
  | none => select.once stage w

def stem (w : Word) : Word := Stage.sequence.foldl (fun w stage => select.apply stage w) w

end Selector

/-- No rule of a stage that another stage leads to leads on, so one step of following is all
of it. -/
theorem Stage.follow_ends (s next : Stage) (r t : Rule) (hr : r ∈ s.table.rules)
    (hf : r.follow = some next) (ht : t ∈ next.table.rules) : t.follow = none := by
  have all : ∀ s ∈ Stage.all, ∀ r ∈ s.table.rules, ∀ next ∈ r.follow,
      ∀ t ∈ next.table.rules, t.follow = none := by decide
  exact all s (Stage.mem_all s) r hr next hf t ht

/-- One stage on its own; `verbal` includes the cleanup its rules ask for. -/
def applyStage (stage : Stage) (w : Word) : Word := Selector.apply Stage.select stage w

def stem (w : Word) : Word := Selector.stem Stage.select w

def stemAll (ws : List Word) : List Word := ws.map stem

/-- Batches of at least this many words are cut in halves. -/
def splitThreshold : Nat := 4096

/-- Stems a batch by halves, which do not depend on each other. -/
def stemSplit (ws : List Word) : List Word :=
  if ws.length < splitThreshold then stemAll ws
  else stemSplit (ws.take (ws.length / 2)) ++ stemSplit (ws.drop (ws.length / 2))
termination_by ws.length
decreasing_by all_goals simp only [splitThreshold, List.length_take, List.length_drop] at *; omega

theorem stemSplit_eq_stemAll (ws : List Word) : stemSplit ws = stemAll ws := by
  fun_induction stemSplit ws with
  | case1 ws => rfl
  | case2 ws _ left right =>
    rw [left, right]
    simp only [stemAll, ← List.map_append, List.take_append_drop]

/-- Stems a batch, by halves when it is large. -/
def stemBatch (ws : List Word) : List Word :=
  if splitThreshold ≤ ws.length then stemSplit ws else stemAll ws

theorem stemBatch_eq_stemAll (ws : List Word) : stemBatch ws = stemAll ws := by
  rw [stemBatch, stemSplit_eq_stemAll, ite_self]

end Stemming
