import Stemming.Pipeline
import Stemming.Proofs.Residue

/-! The characters in the output of a pipeline that strips special characters: letters, digits,
and apostrophes inside words. Stripping sets this up. Stemming can cut a word right behind an
apostrophe, and nothing that comes later undoes more than that. -/
namespace Stemming

/-- Where every piece that contains `b` is `b` alone, a `b` in the joined pieces is a piece. -/
theorem exists_of_flatMap_eq {α β : Type} {f : α → List β} {b : β}
    (hf : ∀ a, b ∈ f a → f a = [b]) {l : List α} {xs ys : List β}
    (h : l.flatMap f = xs ++ b :: ys) :
    ∃ l₁ a l₂, l = l₁ ++ a :: l₂ ∧ l₁.flatMap f = xs ∧ f a = [b] ∧ l₂.flatMap f = ys := by
  induction l generalizing xs with
  | nil => simp at h
  | cons a l ih =>
    rw [List.flatMap_cons] at h
    rcases List.append_eq_append_iff.mp h with ⟨xs', rfl, hl⟩ | ⟨zs, ha, hys⟩
    · obtain ⟨l₁, c, l₂, rfl, rfl, hc, hys⟩ := ih hl
      exact ⟨a :: l₁, c, l₂, rfl, by simp, hc, hys⟩
    · cases zs with
      | nil =>
        have hl : l.flatMap f = [] ++ b :: ys := hys.symm
        obtain ⟨l₁, c, l₂, rfl, hnil, hc, hys⟩ := ih hl
        refine ⟨a :: l₁, c, l₂, rfl, ?_, hc, hys⟩
        rw [List.flatMap_cons, hnil, ha, List.append_nil, List.append_nil]
      | cons z zs =>
        obtain ⟨rfl, rfl⟩ := List.cons.inj hys
        -- The piece of `a` reaches over the seam, so it is `b` and nothing more.
        have hb : f a = [b] := hf a (by simp [ha])
        obtain ⟨rfl, rfl⟩ : xs = [] ∧ zs = [] := by
          have hlen := congrArg List.length (ha.symm.trans hb)
          simp only [List.length_append, List.length_cons, List.length_nil] at hlen
          exact ⟨List.eq_nil_of_length_eq_zero (by omega),
            List.eq_nil_of_length_eq_zero (by omega)⟩
        exact ⟨[], a, l, rfl, rfl, hb, rfl⟩

namespace Token

theorem isAlphabetic_apostrophe : Text.isAlphabetic apostrophe = false := by decide

theorem isAlphanumeric_apostrophe : Text.isAlphanumeric apostrophe = false := by decide

/-- Letters, digits and apostrophes. An apostrophe follows a letter and is followed by one, or, if
the token may break off there, by nothing. -/
structure Tidy (mayBreak : Bool) (t : Token) : Prop where
  isWordChar : ∀ c ∈ t, isWordChar c = true
  before : ∀ a b, t = a ++ apostrophe :: b → a.getLast?.any Text.isAlphabetic = true
  after : ∀ a b, t = a ++ apostrophe :: b →
    b.head?.any Text.isAlphabetic = true ∨ (b = [] ∧ mayBreak = true)

section Strip

variable {previous : Option Char} {cs : List Char}

theorem isWordChar_of_mem_stripAfter {c : Char} (h : c ∈ stripAfter previous cs) :
    isWordChar c = true := by
  fun_induction stripAfter previous cs with
  | case1 => exact absurd h List.not_mem_nil
  | case2 previous d cs hkeep ih =>
    rcases List.mem_cons.mp h with rfl | h
    · simp only [Bool.or_eq_true, Bool.and_eq_true] at hkeep
      unfold isWordChar
      rw [Bool.or_eq_true]
      exact hkeep.imp_right fun hquote => hquote.1.1
    · exact ih h
  | case3 previous d cs hdrop ih => exact ih h

/-- A letter is never stripped. -/
theorem head?_stripAfter (h : cs.head?.any Text.isAlphabetic = true) :
    (stripAfter previous cs).head?.any Text.isAlphabetic = true := by
  cases cs with
  | nil => simp at h
  | cons c cs =>
    have hc : Text.isAlphabetic c = true := by simpa using h
    rw [stripAfter, if_pos (by simp [Text.isAlphanumeric_of_isAlphabetic hc])]
    simpa using hc

/-- The letters around an apostrophe that is kept are kept with it. -/
theorem stripAfter_apostrophe {a b : List Char}
    (h : stripAfter previous cs = a ++ apostrophe :: b) :
    (a.getLast?.or previous).any Text.isAlphabetic = true ∧
      b.head?.any Text.isAlphabetic = true := by
  induction cs generalizing previous a with
  | nil => simp [stripAfter] at h
  | cons c cs ih =>
    unfold stripAfter at h
    split at h
    next hkeep =>
      cases a with
      | nil =>
        obtain ⟨rfl, rfl⟩ := List.cons.inj h
        simp only [isAlphanumeric_apostrophe, Bool.false_or, Bool.and_eq_true] at hkeep
        exact ⟨hkeep.1.2, head?_stripAfter hkeep.2⟩
      | cons d a =>
        obtain ⟨rfl, hrest⟩ := List.cons.inj h
        obtain ⟨hbefore, hafter⟩ := ih hrest
        refine ⟨?_, hafter⟩
        rw [List.getLast?_cons]
        cases hlast : a.getLast? <;> simpa [hlast] using hbefore
    next hdrop =>
      obtain ⟨hbefore, hafter⟩ := ih h
      refine ⟨?_, hafter⟩
      -- What was dropped is no letter, so the letter before the apostrophe was kept.
      have hc : Text.isAlphabetic c = false := by
        by_contra hletter
        have hletter := Text.isAlphanumeric_of_isAlphabetic (eq_true_of_ne_false hletter)
        simp [hletter] at hdrop
      cases hlast : a.getLast? with
      | none => simp [hlast, hc] at hbefore
      | some d => simpa [hlast] using hbefore

end Strip

theorem tidy_stripSpecial (mayBreak : Bool) (t : Token) : Tidy mayBreak (stripSpecial t) where
  isWordChar _ hc := isWordChar_of_mem_stripAfter hc
  before a b h := by simpa using (stripAfter_apostrophe h).1
  after a b h := Or.inl (stripAfter_apostrophe h).2

namespace Tidy

variable {mayBreak : Bool} {t : Token}

/-- A beginning of a token may break off behind an apostrophe. -/
theorem isPrefix (h : Tidy mayBreak t) {p : Token} (hp : p <+: t) : Tidy true p := by
  obtain ⟨r, rfl⟩ := hp
  have hsplit (a b : List Char) (hp : p = a ++ apostrophe :: b) :
      p ++ r = a ++ apostrophe :: (b ++ r) := by simp [hp]
  constructor
  · intro c hc
    exact h.isWordChar c (List.mem_append_left r hc)
  · intro a b hp
    exact h.before a (b ++ r) (hsplit a b hp)
  · intro a b hp
    cases b with
    | nil => exact Or.inr ⟨rfl, rfl⟩
    | cons c b =>
      rcases h.after a (c :: b ++ r) (hsplit a (c :: b) hp) with hc | ⟨hnil, -⟩
      · exact Or.inl (by simpa using hc)
      · simp at hnil

theorem append_letter (h : Tidy true t) {c : Char} (hc : Text.isAlphabetic c = true) :
    Tidy true (t ++ [c]) := by
  -- The letter is no apostrophe, so what follows an apostrophe ends with it.
  have hsplit (a b : List Char) (ht : t ++ [c] = a ++ apostrophe :: b) :
      ∃ b', b = b' ++ [c] ∧ t = a ++ apostrophe :: b' := by
    rcases List.eq_nil_or_concat b with rfl | ⟨b', d, rfl⟩
    · have hlast := (List.append_inj' ht rfl).2
      obtain rfl : c = apostrophe := List.singleton_inj.mp hlast
      rw [isAlphabetic_apostrophe] at hc
      exact absurd hc Bool.false_ne_true
    · have ht : t ++ [c] = (a ++ apostrophe :: b') ++ [d] := by simpa using ht
      obtain ⟨ht, hd⟩ := List.append_inj' ht rfl
      exact ⟨b', by rw [List.singleton_inj.mp hd, List.concat_eq_append], ht⟩
  constructor
  · intro d hd
    rcases List.mem_append.mp hd with hd | hd
    · exact h.isWordChar d hd
    · rw [List.mem_singleton.mp hd]
      simp [Token.isWordChar, Text.isAlphanumeric_of_isAlphabetic hc]
  · intro a b ht
    obtain ⟨b', -, hfront⟩ := hsplit a b ht
    exact h.before a b' hfront
  · intro a b ht
    obtain ⟨b', rfl, hfront⟩ := hsplit a b ht
    left
    rcases h.after a b' hfront with hb | ⟨rfl, -⟩
    · cases b' with
      | nil => simp at hb
      | cons d b' => simpa using hb
    · simpa using hc

/-- A stem is a beginning of the word, with at most one letter put behind it. -/
theorem stem (h : Tidy mayBreak t) : Tidy true (stem t) := by
  have hletters : Text.isAlphabetic 'i' = true ∧ Text.isAlphabetic 'l' = true := by decide
  obtain ⟨p, r, rfl, hshape⟩ :=
    ((Residue.cut (plural_isPrefix t)).run (List.Subset.refl _)).cleanup
  have hp : Tidy true p := h.isPrefix (List.prefix_append p r)
  rw [stem_eq_cleanup]
  rcases hshape with heq | ⟨heq, -⟩ | ⟨heq, -⟩
  · rw [heq]
    exact hp
  · rw [heq]
    exact hp.append_letter hletters.1
  · rw [heq]
    exact hp.append_letter hletters.2

end Tidy

/-- What takes the place of a character when accents are stripped. -/
def plainForm (c : Char) : List Char := (foldAccent? c).getD [c]

/-- A character stays as it is, or letters take its place. -/
theorem plainForm_cases (c : Char) : plainForm c = [c] ∨
    (plainForm c ≠ [] ∧ ∀ d ∈ plainForm c, Text.isAlphabetic d = true) := by
  have hgroups : ∀ group ∈ accents, group.1.toList ≠ [] ∧
      group.1.toList.all Text.isAlphabetic = true := by decide
  unfold plainForm
  cases h : foldAccent? c with
  | none => exact Or.inl rfl
  | some plain =>
    obtain ⟨group, hfind, rfl⟩ := Option.map_eq_some_iff.mp h
    obtain ⟨hne, hall⟩ := hgroups group (List.mem_of_find?_eq_some hfind)
    exact Or.inr ⟨hne, List.all_eq_true.mp hall⟩

/-- In the place of a letter stand letters. -/
theorem plainForm_letter {c : Char} (hc : Text.isAlphabetic c = true) :
    plainForm c ≠ [] ∧ ∀ d ∈ plainForm c, Text.isAlphabetic d = true := by
  rcases plainForm_cases c with heq | hletters
  · simp [heq, hc]
  · exact hletters

theorem eq_apostrophe_of_mem_plainForm {c : Char} (h : apostrophe ∈ plainForm c) :
    c = apostrophe ∧ plainForm c = [apostrophe] := by
  rcases plainForm_cases c with heq | ⟨-, hletters⟩
  · rw [heq] at h ⊢
    obtain rfl := List.mem_singleton.mp h
    exact ⟨rfl, rfl⟩
  · have hletter := hletters apostrophe h
    rw [isAlphabetic_apostrophe] at hletter
    exact absurd hletter Bool.false_ne_true

/-- Apostrophes stay where they are when accents are stripped. -/
theorem exists_of_stripAccents_eq {t : Token} {a b : List Char}
    (h : stripAccents t = a ++ apostrophe :: b) :
    ∃ a' b', t = a' ++ apostrophe :: b' ∧ stripAccents a' = a ∧ stripAccents b' = b := by
  obtain ⟨a', c, b', rfl, ha, hc, hb⟩ :=
    exists_of_flatMap_eq (fun c hc => (eq_apostrophe_of_mem_plainForm hc).2) h
  obtain ⟨rfl, -⟩ := eq_apostrophe_of_mem_plainForm (c := c) (by rw [hc]; simp)
  exact ⟨a', b', rfl, ha, hb⟩

theorem getLast?_stripAccents {t : Token} (h : t.getLast?.any Text.isAlphabetic = true) :
    (stripAccents t).getLast?.any Text.isAlphabetic = true := by
  rcases List.eq_nil_or_concat t with rfl | ⟨t, c, rfl⟩
  · simp at h
  · obtain ⟨hne, hletters⟩ := plainForm_letter (c := c) (by simpa using h)
    have happ : stripAccents (t.concat c) = stripAccents t ++ plainForm c := by
      simp [stripAccents, plainForm]
    rw [happ, List.getLast?_append_of_ne_nil _ hne, List.getLast?_eq_some_getLast hne]
    exact hletters _ (List.getLast_mem hne)

theorem head?_stripAccents {t : Token} (h : t.head?.any Text.isAlphabetic = true) :
    (stripAccents t).head?.any Text.isAlphabetic = true := by
  cases t with
  | nil => simp at h
  | cons c t =>
    obtain ⟨hne, hletters⟩ := plainForm_letter (c := c) (by simpa using h)
    have happ : stripAccents (c :: t) = plainForm c ++ stripAccents t := List.flatMap_cons
    rw [happ, List.head?_append_of_ne_nil _ hne, List.head?_eq_some_head hne]
    exact hletters _ (List.head_mem hne)

theorem Tidy.stripAccents {mayBreak : Bool} {t : Token} (h : Tidy mayBreak t) :
    Tidy mayBreak (stripAccents t) := by
  constructor
  · intro d hd
    obtain ⟨c, hc, hd⟩ : ∃ c ∈ t, d ∈ plainForm c := List.mem_flatMap.mp hd
    rcases plainForm_cases c with heq | ⟨-, hletters⟩
    · rw [heq] at hd
      rw [List.mem_singleton.mp hd]
      exact h.isWordChar c hc
    · simp [Token.isWordChar, Text.isAlphanumeric_of_isAlphabetic (hletters d hd)]
  · intro a b ht
    obtain ⟨a', b', heq, rfl, -⟩ := exists_of_stripAccents_eq ht
    exact getLast?_stripAccents (h.before a' b' heq)
  · intro a b ht
    obtain ⟨a', b', heq, -, rfl⟩ := exists_of_stripAccents_eq ht
    rcases h.after a' b' heq with hb | ⟨rfl, hbreak⟩
    · exact Or.inl (head?_stripAccents hb)
    · exact Or.inr ⟨rfl, hbreak⟩

end Token

open Token (Tidy)

/-- The steps behind the removal of special characters. -/
def Step.refinements : List Step := [.removeStopwords, .stem, .stripAccents]

theorem Step.run_tidy (a : Abbreviations) {mayBreak : Bool} {s : Step} (hs : s ∈ refinements)
    (hstem : s = .stem → mayBreak = true) {ts : List Token} (h : ∀ t ∈ ts, Tidy mayBreak t) :
    ∀ t ∈ s.run a ts, Tidy mayBreak t := by
  intro t ht
  cases s with
  | removeStopwords => exact h t (List.mem_filter.mp ht).1
  | stem =>
    rw [run, stemBatch_eq_stemAll] at ht
    obtain ⟨u, hu, rfl⟩ := List.mem_map.mp ht
    rw [hstem rfl]
    exact (h u hu).stem
  | stripAccents =>
    obtain ⟨u, hu, rfl⟩ := List.mem_map.mp ht
    exact (h u hu).stripAccents
  | expandContractions => exact absurd hs (by decide)
  | expandAbbreviations => exact absurd hs (by decide)
  | lowercase => exact absurd hs (by decide)
  | stripSpecial => exact absurd hs (by decide)

namespace Pipeline

variable (p : Pipeline)

theorem advance_tidy {s : Step} (hs : s ∈ Step.refinements) {ts : List Token}
    (h : ∀ t ∈ ts, Tidy p.options.stem t) : ∀ t ∈ p.advance ts s, Tidy p.options.stem t := by
  unfold advance
  split
  next hruns =>
    apply Step.run_tidy p.abbreviations hs _ h
    rintro rfl
    exact hruns
  next => exact h

theorem run_tidy {steps : List Step} (hs : steps ⊆ Step.refinements) {ts : List Token}
    (h : ∀ t ∈ ts, Tidy p.options.stem t) :
    ∀ t ∈ steps.foldl p.advance ts, Tidy p.options.stem t := by
  induction steps generalizing ts with
  | nil => exact h
  | cons s steps ih =>
    rw [List.cons_subset] at hs
    exact ih hs.2 (p.advance_tidy hs.1 h)

/-- The output is tidy, but for stems that break off behind an apostrophe. -/
theorem tidy_processTokens (hstrip : p.options.stripSpecial = true) (ts : List Token) :
    ∀ t ∈ p.processTokens ts, Tidy p.options.stem t := by
  have hsplit : Step.sequence =
      [.expandContractions, .expandAbbreviations, .lowercase] ++ .stripSpecial ::
        Step.refinements := rfl
  rw [processTokens, hsplit, List.foldl_append, List.foldl_cons]
  apply p.run_tidy (List.Subset.refl _)
  intro t ht
  have hruns : p.options.runs .stripSpecial = true := hstrip
  rw [advance, if_pos hruns] at ht
  obtain ⟨u, -, rfl⟩ := List.mem_map.mp (List.mem_filter.mp ht).1
  exact Token.tidy_stripSpecial _ u

/-- The output of a pipeline that strips special characters holds letters, digits and apostrophes
only. A letter stands before every apostrophe, and one stands behind it or, in a pipeline that
stems, nothing. -/
theorem output_characters (hstrip : p.options.stripSpecial = true) (ts : List Token) :
    ∀ t ∈ p.processTokens ts,
      (∀ c ∈ t, Text.isAlphanumeric c = true ∨ c = Token.apostrophe) ∧
      ∀ a b, t = a ++ Token.apostrophe :: b →
        (∃ c, a.getLast? = some c ∧ Text.isAlphabetic c = true) ∧
        ((∃ c, b.head? = some c ∧ Text.isAlphabetic c = true) ∨
          (b = [] ∧ p.options.stem = true)) := by
  intro t ht
  have htidy := p.tidy_processTokens hstrip ts t ht
  refine ⟨?_, ?_⟩
  · intro c hc
    simpa [Token.isWordChar] using htidy.isWordChar c hc
  · intro a b heq
    refine ⟨(Option.any_eq_true _ _).mp (htidy.before a b heq), ?_⟩
    exact (htidy.after a b heq).imp_left (Option.any_eq_true _ _).mp

/-- The stem breaks off behind its second apostrophe. -/
theorem output_characters_oneil :
    let p : Pipeline := { options := { removeStopwords := false, stripAccents := false } }
    p.options.stripSpecial = true ∧ "o'neil'".toList ∈ p.processTokens ["(O'Neil's)".toList] ∧
    (∃ c, "o'neil".toList.getLast? = some c ∧ Text.isAlphabetic c = true) ∧
    ((∃ c, ([] : List Char).head? = some c ∧ Text.isAlphabetic c = true) ∨
      (([] : List Char) = [] ∧ p.options.stem = true)) := by
  intro p
  have hmem : "o'neil'".toList ∈ p.processTokens ["(O'Neil's)".toList] := by decide +kernel
  exact ⟨rfl, hmem, (p.output_characters rfl _ _ hmem).2 "o'neil".toList [] rfl⟩

end Pipeline

end Stemming
