import Stemming.Proofs.Alphabet

/-! Stripping special characters gives a normal form: letters and digits, and apostrophes between
two letters. Whether an apostrophe is kept depends on its neighbours in the token that comes in,
and these are letters, which are always kept. Accents can be stripped before or after, since
letters take the place of letters and all else stays. -/
namespace Stemming.Token

theorem stripAfter_sublist (previous : Option Char) (cs : List Char) :
    (stripAfter previous cs).Sublist cs := by
  fun_induction stripAfter previous cs with
  | case1 => exact List.Sublist.refl []
  | case2 previous c cs hkeep ih => exact ih.cons_cons c
  | case3 previous c cs hdrop ih => exact ih.cons c

theorem filter_stripAfter (previous : Option Char) (cs : List Char) :
    (stripAfter previous cs).filter Text.isAlphanumeric = cs.filter Text.isAlphanumeric := by
  fun_induction stripAfter previous cs with
  | case1 => rfl
  | case2 previous c cs hkeep ih => rw [List.filter_cons, List.filter_cons, ih]
  | case3 previous c cs hdrop ih =>
    have hc : Text.isAlphanumeric c = false := by
      by_contra halnum
      simp [eq_true_of_ne_false halnum] at hdrop
    simp [ih, hc]

/-- The last character read is the character before what follows. -/
theorem getLast?_cons_or (c : Char) (cs : List Char) (previous : Option Char) :
    (c :: cs).getLast?.or previous = cs.getLast?.or (some c) := by
  rw [List.getLast?_cons]
  cases cs.getLast? <;> rfl

/-- Nothing goes from a token whose apostrophes all stand between letters. -/
theorem stripAfter_eq_self {previous : Option Char} {cs : List Char}
    (hword : ∀ c ∈ cs, isWordChar c = true)
    (hbetween : ∀ a b, cs = a ++ apostrophe :: b →
      (a.getLast?.or previous).any Text.isAlphabetic = true ∧
        b.head?.any Text.isAlphabetic = true) :
    stripAfter previous cs = cs := by
  induction cs generalizing previous with
  | nil => rfl
  | cons c cs ih =>
    have hkeep : (Text.isAlphanumeric c || (c == apostrophe &&
        previous.any Text.isAlphabetic && cs.head?.any Text.isAlphabetic)) = true := by
      have hc := hword c List.mem_cons_self
      rw [isWordChar, Bool.or_eq_true, beq_iff_eq] at hc
      rcases hc with halnum | rfl
      · simp [halnum]
      · obtain ⟨hbefore, hafter⟩ := hbetween [] cs rfl
        have hbefore : previous.any Text.isAlphabetic = true := by simpa using hbefore
        simp [hbefore, hafter]
    rw [stripAfter, if_pos hkeep]
    refine congrArg (c :: ·) (ih ?_ ?_)
    · intro d hd
      exact hword d (List.mem_cons_of_mem c hd)
    · intro a b hcs
      rw [← getLast?_cons_or c a previous]
      exact hbetween (c :: a) b (by rw [hcs, List.cons_append])

/-- The tokens that stripping keeps as they are. -/
theorem stripSpecial_eq_self_iff (t : Token) : stripSpecial t = t ↔ Tidy false t := by
  constructor
  · intro h
    rw [← h]
    exact tidy_stripSpecial false t
  · intro h
    apply stripAfter_eq_self h.isWordChar
    intro a b ht
    refine ⟨by simpa using h.before a b ht, ?_⟩
    exact (h.after a b ht).resolve_right fun hbreak => Bool.false_ne_true hbreak.2

theorem stripSpecial_stripSpecial (t : Token) :
    stripSpecial (stripSpecial t) = stripSpecial t :=
  (stripSpecial_eq_self_iff _).mpr (tidy_stripSpecial false t)

/-- A literal is checked as the list of its characters, without decoding it. -/
theorem all_toList_ofList {l : List Char} {test : Char → Bool} (h : l.all test = true) :
    (String.ofList l).toList.all test = true := by
  rwa [String.toList_ofList]

/-- The letters with accents are letters, and no plain form is among them. -/
theorem accents_letters : ∀ group ∈ accents,
    group.1.toList.all (·.toNat < 0x80) = true ∧
      group.2.toList.all (fun c => Text.isAlphabetic c && 0x80 ≤ c.toNat) = true := by
  simp only [accents, List.forall_mem_cons, List.not_mem_nil, false_imp_iff, implies_true,
    and_true]
  and_intros <;> exact all_toList_ofList (by decide +kernel)

theorem foldAccent?_eq_some {c : Char} {plain : List Char} (h : foldAccent? c = some plain) :
    (Text.isAlphabetic c = true ∧ 0x80 ≤ c.toNat) ∧ ∀ d ∈ plain, d.toNat < 0x80 := by
  obtain ⟨group, hfind, rfl⟩ := Option.map_eq_some_iff.mp h
  obtain ⟨hplain, haccent⟩ := accents_letters group (List.mem_of_find?_eq_some hfind)
  have hc : c ∈ group.2.toList := by simpa using List.find?_some hfind
  refine ⟨?_, ?_⟩
  · simpa using List.all_eq_true.mp haccent c hc
  · intro d hd
    simpa using List.all_eq_true.mp hplain d hd

theorem plainForm_of_not_letter {c : Char} (hc : Text.isAlphabetic c = false) :
    plainForm c = [c] := by
  unfold plainForm
  cases h : foldAccent? c with
  | none => rfl
  | some plain =>
    rw [(foldAccent?_eq_some h).1.1] at hc
    exact absurd hc.symm Bool.false_ne_true

theorem plainForm_of_mem {c d : Char} (h : d ∈ plainForm c) : plainForm d = [d] := by
  unfold plainForm at h
  cases hc : foldAccent? c with
  | none =>
    rw [hc] at h
    obtain rfl : d = c := by simpa using h
    rw [plainForm, hc]
    rfl
  | some plain =>
    rw [hc] at h
    have hplain : d.toNat < 0x80 := (foldAccent?_eq_some hc).2 d h
    unfold plainForm
    cases hd : foldAccent? d with
    | none => rfl
    | some twice =>
      have haccent := (foldAccent?_eq_some hd).1.2
      omega

theorem stripAccents_cons (c : Char) (t : Token) :
    stripAccents (c :: t) = plainForm c ++ stripAccents t := List.flatMap_cons

theorem stripAccents_stripAccents (t : Token) :
    stripAccents (stripAccents t) = stripAccents t := by
  have hplain (c : Char) : (plainForm c).flatMap plainForm = plainForm c := by
    rw [List.flatMap_congr fun d hd => plainForm_of_mem hd, List.flatMap_singleton']
  change (t.flatMap plainForm).flatMap plainForm = t.flatMap plainForm
  rw [List.flatMap_assoc]
  simp only [hplain]

/-- Of the character before, only whether it is a letter counts. -/
theorem stripAfter_congr {p q : Option Char}
    (h : p.any Text.isAlphabetic = q.any Text.isAlphabetic) (cs : List Char) :
    stripAfter p cs = stripAfter q cs := by
  cases cs with
  | nil => rfl
  | cons c cs => rw [stripAfter, stripAfter, h]

theorem stripAfter_letters {x : List Char} (hx : ∀ c ∈ x, Text.isAlphabetic c = true)
    (previous : Option Char) (cs : List Char) :
    stripAfter previous (x ++ cs) = x ++ stripAfter (x.getLast?.or previous) cs := by
  induction x generalizing previous with
  | nil => rfl
  | cons c x ih =>
    have hc : Text.isAlphanumeric c = true :=
      Text.isAlphanumeric_of_isAlphabetic (hx c List.mem_cons_self)
    rw [List.cons_append, stripAfter, if_pos (by simp [hc]), List.cons_append,
      ih fun d hd => hx d (List.mem_cons_of_mem c hd), getLast?_cons_or]

/-- A letter stands first after stripping accents exactly when one does before. -/
theorem head?_stripAccents_any (t : Token) :
    (stripAccents t).head?.any Text.isAlphabetic = t.head?.any Text.isAlphabetic := by
  cases t with
  | nil => rfl
  | cons c t =>
    cases hc : Text.isAlphabetic c with
    | true =>
      rw [head?_stripAccents (t := c :: t) (by simpa using hc)]
      simp [hc]
    | false => simp [stripAccents_cons, plainForm_of_not_letter hc]

theorem stripAfter_stripAccents (previous : Option Char) (t : Token) :
    stripAfter previous (stripAccents t) = stripAccents (stripAfter previous t) := by
  induction t generalizing previous with
  | nil => rfl
  | cons c t ih =>
    rw [stripAccents_cons]
    cases hc : Text.isAlphabetic c with
    | true =>
      -- A letter is kept, and so are the letters in its place; a letter stands before the rest.
      obtain ⟨hne, hletters⟩ := plainForm_letter hc
      have hbefore : ((plainForm c).getLast?.or previous).any Text.isAlphabetic =
          (some c).any Text.isAlphabetic := by
        rw [List.getLast?_eq_some_getLast hne]
        simp [hc, hletters _ (List.getLast_mem hne)]
      rw [stripAfter_letters hletters, stripAfter_congr hbefore, ih, stripAfter,
        if_pos (by simp [Text.isAlphanumeric_of_isAlphabetic hc]), stripAccents_cons]
    | false =>
      rw [plainForm_of_not_letter hc, List.singleton_append, stripAfter, stripAfter,
        head?_stripAccents_any, ih]
      split
      · rw [stripAccents_cons, plainForm_of_not_letter hc, List.singleton_append]
      · rfl

/-- Stripping special characters keeps the letters and digits of a token, in order, and of the rest
only apostrophes, each of which has a letter on both sides in the result. The tokens that have this
form are kept, so stripping twice is stripping once. Stripping accents does nothing the second
time either, and the two can be done in any order. -/
theorem stripping_normal_form (t : Token) :
    (stripSpecial t).filter Text.isAlphanumeric = t.filter Text.isAlphanumeric ∧
    (stripSpecial t).Sublist t ∧
    (∀ c ∈ stripSpecial t, Text.isAlphanumeric c = true ∨ c = apostrophe) ∧
    (∀ a b, stripSpecial t = a ++ apostrophe :: b →
      (∃ c, a.getLast? = some c ∧ Text.isAlphabetic c = true) ∧
      ∃ c, b.head? = some c ∧ Text.isAlphabetic c = true) ∧
    (stripSpecial t = t ↔ Tidy false t) ∧
    stripSpecial (stripSpecial t) = stripSpecial t ∧
    stripSpecial (stripAccents t) = stripAccents (stripSpecial t) ∧
    stripAccents (stripAccents t) = stripAccents t := by
  refine ⟨filter_stripAfter none t, stripAfter_sublist none t, ?_, ?_, stripSpecial_eq_self_iff t,
    stripSpecial_stripSpecial t, stripAfter_stripAccents none t, stripAccents_stripAccents t⟩
  · intro c hc
    simpa [isWordChar] using isWordChar_of_mem_stripAfter hc
  · intro a b h
    obtain ⟨hbefore, hafter⟩ := stripAfter_apostrophe h
    rw [Option.or_none] at hbefore
    exact ⟨(Option.any_eq_true _ _).mp hbefore, (Option.any_eq_true _ _).mp hafter⟩

/-- The first apostrophe and the last one go, the inner one stays. -/
theorem stripping_normal_form_oeil :
    stripSpecial "'l'œil'".toList = ['l'] ++ apostrophe :: "œil".toList ∧
    (∃ c, ['l'].getLast? = some c ∧ Text.isAlphabetic c = true) ∧
    (∃ c, "œil".toList.head? = some c ∧ Text.isAlphabetic c = true) ∧
    apostrophe ∈ stripSpecial "'l'œil'".toList ∧
    (Text.isAlphanumeric apostrophe = true ∨ apostrophe = apostrophe) := by
  have hstrip : stripSpecial "'l'œil'".toList = ['l'] ++ apostrophe :: "œil".toList := by
    decide +kernel
  have hmem : apostrophe ∈ stripSpecial "'l'œil'".toList := by
    rw [hstrip]
    exact List.mem_append_right _ List.mem_cons_self
  obtain ⟨-, -, hchars, hbetween, -⟩ := stripping_normal_form "'l'œil'".toList
  obtain ⟨hbefore, hafter⟩ := hbetween _ _ hstrip
  exact ⟨hstrip, hbefore, hafter, hmem, hchars _ hmem⟩

end Stemming.Token
