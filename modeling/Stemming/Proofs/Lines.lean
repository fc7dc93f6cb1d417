import Mathlib.Data.List.Basic
import Stemming.Bytes

/-! The lines of a file, by what ends a line rather than by how the bytes are scanned. -/
namespace Stemming

/-- A line without a carriage return at its end; of several only the last one goes. -/
def chomp (line : Bytes) : Bytes := if line.getLast? = some 13 then line.dropLast else line

/-- The bytes consist of the lines. A line feed ends a line, together with one carriage return
before it; behind the last line feed there may be one more line. -/
inductive LinesOf : Bytes → List Bytes → Prop
  | nil : LinesOf [] []
  | last {line : Bytes} (hne : line ≠ []) (hline : 10 ∉ line) : LinesOf line [line]
  | feed {line rest : Bytes} {ls : List Bytes} (hline : 10 ∉ line) (hrest : LinesOf rest ls) :
      LinesOf (line ++ 10 :: rest) (chomp line :: ls)

theorem chomp_cons {b : UInt8} {line : Bytes} (h : b ≠ 13 ∨ line ≠ []) :
    chomp (b :: line) = b :: chomp line := by
  cases line with
  | nil =>
    have hb : b ≠ 13 := h.resolve_right (fun hne => hne rfl)
    simp [chomp, hb]
  | cons c line =>
    unfold chomp
    rw [List.getLast?_cons_cons, List.dropLast_cons_cons]
    split_ifs <;> rfl

/-- A byte that ends no line stands at the front of the first one. -/
theorem lines_cons {b : UInt8} {bs : Bytes} (hb : b ≠ 10) (h : b ≠ 13 ∨ bs.head? ≠ some 10) :
    lines (b :: bs) = (b :: (lines bs).headD []) :: (lines bs).tail := by
  rw [lines]
  · cases lines bs <;> rfl
  · rintro bs' rfl rfl
    simp at h
  · rintro rfl
    exact hb rfl

theorem lines_of_not_mem {line : Bytes} (hne : line ≠ []) (hline : 10 ∉ line) :
    lines line = [line] := by
  induction line with
  | nil => exact absurd rfl hne
  | cons b line ih =>
    rw [List.mem_cons, not_or] at hline
    have hhead : line.head? ≠ some 10 := fun h => hline.2 (List.mem_of_head? h)
    rw [lines_cons (Ne.symm hline.1) (Or.inr hhead)]
    by_cases hnil : line = []
    · subst hnil
      rfl
    · rw [ih hnil hline.2]
      rfl

theorem lines_append_feed {line : Bytes} (hline : 10 ∉ line) (rest : Bytes) :
    lines (line ++ 10 :: rest) = chomp line :: lines rest := by
  induction line with
  | nil => simp [lines, chomp]
  | cons b line ih =>
    rw [List.mem_cons, not_or] at hline
    -- A carriage return goes only if the line feed comes right behind it.
    by_cases hreturn : b = 13 ∧ line = []
    · obtain ⟨rfl, rfl⟩ := hreturn
      simp [lines, chomp]
    · have h : b ≠ 13 ∨ line ≠ [] := not_and_or.mp hreturn
      have hhead : b ≠ 13 ∨ (line ++ 10 :: rest).head? ≠ some 10 := by
        refine h.imp_right fun hne => ?_
        rw [List.head?_append_of_ne_nil _ hne]
        exact fun hten => hline.2 (List.mem_of_head? hten)
      rw [List.cons_append, lines_cons (Ne.symm hline.1) hhead, ih hline.2, chomp_cons h]
      rfl

theorem LinesOf.lines_eq {bs : Bytes} {ls : List Bytes} (h : LinesOf bs ls) : lines bs = ls := by
  induction h with
  | nil => simp [lines]
  | last hne hline => exact lines_of_not_mem hne hline
  | feed hline _ ih => rw [lines_append_feed hline, ih]

/-- Every file has lines. -/
theorem linesOf_lines (bs : Bytes) : LinesOf bs (lines bs) := by
  induction hn : bs.length using Nat.strongRecOn generalizing bs with
  | ind n ih =>
    by_cases hfeed : 10 ∈ bs
    · obtain ⟨line, rest, rfl, hline⟩ := List.eq_append_cons_of_mem hfeed
      rw [lines_append_feed hline]
      refine .feed hline (ih rest.length ?_ rest rfl)
      simp only [List.length_append, List.length_cons] at hn
      omega
    · by_cases hnil : bs = []
      · subst hnil
        simpa [lines] using LinesOf.nil
      · rw [lines_of_not_mem hnil hfeed]
        exact .last hnil hfeed

/-- A file that ends with a line has as many lines as line feeds, and what is written behind it
begins a new line. -/
theorem lines_append {bs : Bytes} (h : bs = [] ∨ bs.getLast? = some 10) (rest : Bytes) :
    lines (bs ++ rest) = lines bs ++ lines rest ∧ (lines bs).length = bs.count 10 := by
  have hls := linesOf_lines bs
  generalize lines bs = ls at hls ⊢
  induction hls with
  | nil => simp
  | last hne hline =>
    have hlast := h.resolve_left hne
    exact absurd (List.mem_of_getLast? hlast) hline
  | @feed line more ls hline _ ih =>
    have hmore : more = [] ∨ more.getLast? = some 10 := by
      cases more with
      | nil => exact Or.inl rfl
      | cons b more =>
        right
        simpa [List.getLast?_append, List.getLast?_cons_cons] using h
    obtain ⟨happ, hlen⟩ := ih hmore
    rw [List.append_assoc, List.cons_append, lines_append_feed hline, happ]
    refine ⟨rfl, ?_⟩
    rw [List.length_cons, hlen, List.count_append, List.count_cons_self,
      List.count_eq_zero_of_not_mem hline, Nat.zero_add]

end Stemming
