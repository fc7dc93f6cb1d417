import Stemming.Proofs.Casing
import Stemming.Proofs.ExpansionClosure
import Stemming.Proofs.StripNormalForm

/-! What a pipeline without stemming gives when it keeps case. On ASCII tokens each step behind
lowercasing does the same to a token and to its lowercase form, so keeping case changes nothing
but case. -/
namespace Stemming

namespace Text

/-- A fact about ASCII characters is checked code point by code point. -/
theorem forall_ascii {P : Char → Prop} (h : ∀ n < 0x80, P (Char.ofNat n)) {c : Char}
    (hc : c.toNat < 0x80) : P c := by
  have hP := h c.toNat hc
  rwa [Char.ofNat_toNat] at hP

section Ascii

variable {c : Char} (hc : c.toNat < 0x80)
include hc

theorem lowerChar_ascii : lowerChar c = [c.toLower] :=
  forall_ascii (P := fun c => lowerChar c = [c.toLower]) (by decide +kernel) hc

theorem toNat_toLower_ascii : c.toLower.toNat < 0x80 :=
  forall_ascii (P := fun c => c.toLower.toNat < 0x80) (by decide +kernel) hc

theorem isAlphabetic_toLower : isAlphabetic c.toLower = isAlphabetic c :=
  forall_ascii (P := fun c => isAlphabetic c.toLower = isAlphabetic c) (by decide +kernel) hc

theorem isAlphanumeric_toLower : isAlphanumeric c.toLower = isAlphanumeric c :=
  forall_ascii (P := fun c => isAlphanumeric c.toLower = isAlphanumeric c) (by decide +kernel) hc

end Ascii

theorem lowercaseAfter_ascii {s : List Char} (h : ∀ c ∈ s, c.toNat < 0x80)
    (before : List Char) : lowercaseAfter before s = s.map Char.toLower := by
  induction s generalizing before with
  | nil => rfl
  | cons c s ih =>
    have hc := h c List.mem_cons_self
    have hsigma : c ≠ capitalSigma := by
      rintro rfl
      exact absurd hc (by decide)
    rw [lowercaseAfter, if_neg hsigma, lowerChar_ascii hc,
      ih fun d hd => h d (List.mem_cons_of_mem c hd)]
    rfl

end Text

namespace Token

/-- All characters of the token are ASCII. -/
def Ascii (t : Token) : Prop := ∀ c ∈ t, c.toNat < 0x80

-- Decided along the token, not by going through all characters.
instance (t : Token) : Decidable t.Ascii := List.decidableBAll (fun c : Char => c.toNat < 0x80) t

variable {t : Token}

theorem Ascii.lowercase_eq (h : t.Ascii) : Text.lowercase t = t.map Char.toLower :=
  Text.lowercaseAfter_ascii h []

theorem Ascii.lowercase (h : t.Ascii) : Ascii (Text.lowercase t) := by
  rw [h.lowercase_eq, Ascii, List.forall_mem_map]
  intro c hc
  exact Text.toNat_toLower_ascii (h c hc)

/-- What is stripped does not depend on case, nor does what stands before it. -/
theorem stripAfter_map_toLower {cs : List Char} (h : ∀ c ∈ cs, c.toNat < 0x80)
    (previous : Option Char) :
    stripAfter previous (cs.map Char.toLower) = (stripAfter previous cs).map Char.toLower := by
  induction cs generalizing previous with
  | nil => rfl
  | cons c cs ih =>
    have hc := h c List.mem_cons_self
    have hcs : ∀ d ∈ cs, d.toNat < 0x80 := fun d hd => h d (List.mem_cons_of_mem c hd)
    have hquote : (c.toLower == apostrophe) = (c == apostrophe) :=
      Text.forall_ascii (P := fun c => (c.toLower == apostrophe) = (c == apostrophe))
        (by decide +kernel) hc
    have hnext : (cs.map Char.toLower).head?.any Text.isAlphabetic =
        cs.head?.any Text.isAlphabetic := by
      cases cs with
      | nil => rfl
      | cons d cs => exact Text.isAlphabetic_toLower (hcs d List.mem_cons_self)
    have hprevious : (some c.toLower).any Text.isAlphabetic = (some c).any Text.isAlphabetic :=
      Text.isAlphabetic_toLower hc
    rw [List.map_cons, stripAfter, stripAfter, Text.isAlphanumeric_toLower hc, hquote, hnext,
      stripAfter_congr hprevious, ih hcs]
    split
    · rfl
    · rfl

theorem Ascii.stripSpecial (h : t.Ascii) : Ascii (stripSpecial t) :=
  fun c hc => h c ((stripAfter_sublist none t).subset hc)

theorem Ascii.stripSpecial_lowercase (h : t.Ascii) :
    Token.stripSpecial (Text.lowercase t) = Text.lowercase (Token.stripSpecial t) := by
  rw [h.lowercase_eq, h.stripSpecial.lowercase_eq]
  exact stripAfter_map_toLower h none

/-- Not so beyond ASCII: the dot of a capital i is a character of its own in lowercase. -/
example :
    Token.stripSpecial (Text.lowercase "İ".toList) = "i".toList ∧
    Text.lowercase (Token.stripSpecial "İ".toList) ≠ "i".toList := by
  decide +kernel

/-- The letters with accents are not ASCII. -/
theorem Ascii.stripAccents_eq (h : t.Ascii) : stripAccents t = t := by
  induction t with
  | nil => rfl
  | cons c t ih =>
    have hplain : plainForm c = [c] := by
      unfold plainForm
      cases hfold : foldAccent? c with
      | none => rfl
      | some plain =>
        have haccent := (foldAccent?_eq_some hfold).1.2
        have hascii := h c List.mem_cons_self
        omega
    rw [stripAccents_cons, hplain, ih fun d hd => h d (List.mem_cons_of_mem c hd)]
    rfl

theorem ascii_of_contraction? {words : List Token} (h : contraction? t = some words) :
    ∀ word ∈ words, Ascii word := by
  have htable : ∀ entry ∈ contractions, ∀ word ∈ entry.2, Ascii word.toList := by decide +kernel
  obtain ⟨entry, hentry, rfl⟩ := exists_of_contraction? h
  rw [List.forall_mem_map]
  exact htable entry hentry

theorem isStopword_lowercase (t : Token) : isStopword (Text.lowercase t) = isStopword t := by
  rw [isStopword, isStopword, Text.lowercase_lowercase]

end Token

namespace Step

/-- The steps behind lowercasing. -/
def afterLowercase : List Step := .stripSpecial :: refinements

/-- Stripping drops the same tokens in every case, stopwords are found in every case, and there are
no accents to strip. -/
theorem run_map_lowercase (a : Abbreviations) {s : Step} (hs : s ∈ afterLowercase)
    (hstem : s ≠ .stem) {ts : List Token} (h : ∀ t ∈ ts, t.Ascii) :
    s.run a (ts.map Text.lowercase) = (s.run a ts).map Text.lowercase := by
  cases s with
  | stripSpecial =>
    have hstrip : (ts.map Text.lowercase).map Token.stripSpecial =
        (ts.map Token.stripSpecial).map Text.lowercase := by
      rw [List.map_map, List.map_map]
      exact List.map_congr_left fun t ht => (h t ht).stripSpecial_lowercase
    have hempty : ∀ t ∈ ts.map Token.stripSpecial,
        (!(Text.lowercase t).isEmpty) = !t.isEmpty := by
      rw [List.forall_mem_map]
      intro t ht
      rw [(h t ht).stripSpecial.lowercase_eq, List.isEmpty_map]
    rw [run, hstrip, List.filter_map]
    exact congrArg (List.map Text.lowercase) (List.filter_congr hempty)
  | removeStopwords =>
    have hsame : (!Token.isStopword ·) ∘ Text.lowercase = (!Token.isStopword ·) := by
      funext t
      simp [Token.isStopword_lowercase]
    rw [run, run, Token.removeStopwords, List.filter_map, hsame]
    rfl
  | stripAccents =>
    have hplain : ∀ t ∈ ts, Token.stripAccents (Text.lowercase t) =
        Text.lowercase (Token.stripAccents t) := by
      intro t ht
      rw [(h t ht).lowercase.stripAccents_eq, (h t ht).stripAccents_eq]
    rw [run, run, List.map_map, List.map_map]
    exact List.map_congr_left hplain
  | stem => exact absurd rfl hstem
  | expandContractions => exact absurd hs (by decide)
  | expandAbbreviations => exact absurd hs (by decide)
  | lowercase => exact absurd hs (by decide)

/-- ASCII tokens stay ASCII, in particular those that take the place of a short form. -/
theorem run_ascii {a : Abbreviations} (ha : ∀ entry ∈ a.entries, ∀ word ∈ entry.2, word.Ascii)
    {s : Step} (hstem : s ≠ .stem) {ts : List Token} (h : ∀ t ∈ ts, t.Ascii) :
    ∀ t ∈ s.run a ts, t.Ascii := by
  cases s with
  | expandContractions =>
    exact forall_mem_expand (fun _ _ hfind => Token.ascii_of_contraction? hfind)
      fun t ht _ => h t ht
  | expandAbbreviations =>
    exact forall_mem_expand (fun _ _ hget => ha _ (Abbreviations.mem_entries_of_get? hget))
      fun t ht _ => h t ht
  | lowercase =>
    rw [run, List.forall_mem_map]
    exact fun t ht => (h t ht).lowercase
  | stripSpecial =>
    intro u hu
    obtain ⟨t, ht, rfl⟩ := List.mem_map.mp (List.mem_filter.mp hu).1
    exact (h t ht).stripSpecial
  | removeStopwords => exact fun t ht => h t (List.mem_filter.mp ht).1
  | stem => exact absurd rfl hstem
  | stripAccents =>
    rw [run, List.forall_mem_map]
    intro t ht
    rw [(h t ht).stripAccents_eq]
    exact h t ht

end Step

namespace Pipeline

section Run

variable {p : Pipeline} (hstem : p.options.stem = false)
include hstem

theorem ne_stem_of_runs {s : Step} (hruns : p.options.runs s = true) : s ≠ .stem := by
  rintro rfl
  exact absurd (hstem.symm.trans hruns) Bool.false_ne_true

theorem advance_map_lowercase {s : Step} (hs : s ∈ Step.afterLowercase) {ts : List Token}
    (h : ∀ t ∈ ts, t.Ascii) :
    p.advance (ts.map Text.lowercase) s = (p.advance ts s).map Text.lowercase := by
  unfold advance
  split
  next hruns =>
    exact Step.run_map_lowercase p.abbreviations hs (ne_stem_of_runs hstem hruns) h
  next => rfl

variable (ha : ∀ entry ∈ p.abbreviations.entries, ∀ word ∈ entry.2, word.Ascii)
include ha

theorem advance_ascii (s : Step) {ts : List Token} (h : ∀ t ∈ ts, t.Ascii) :
    ∀ t ∈ p.advance ts s, t.Ascii := by
  unfold advance
  split
  next hruns => exact Step.run_ascii ha (ne_stem_of_runs hstem hruns) h
  next => exact h

theorem run_ascii (steps : List Step) {ts : List Token} (h : ∀ t ∈ ts, t.Ascii) :
    ∀ t ∈ steps.foldl p.advance ts, t.Ascii := by
  induction steps generalizing ts with
  | nil => exact h
  | cons s steps ih => exact ih (advance_ascii hstem ha s h)

/-- Lowercasing can be put off to the end. -/
theorem run_map_lowercase {steps : List Step} (hs : steps ⊆ Step.afterLowercase) {ts : List Token}
    (h : ∀ t ∈ ts, t.Ascii) :
    steps.foldl p.advance (ts.map Text.lowercase) =
      (steps.foldl p.advance ts).map Text.lowercase := by
  induction steps generalizing ts with
  | nil => rfl
  | cons s steps ih =>
    rw [List.cons_subset] at hs
    rw [List.foldl_cons, advance_map_lowercase hstem hs.1 h, List.foldl_cons]
    exact ih hs.2 (advance_ascii hstem ha s h)

end Run

/-- For ASCII tokens, a table with ASCII words, and any options that leave stemming out, the output
of a pipeline that lowercases is the lowercase form of the output of one that keeps case. -/
theorem keeping_case (o : Options) (a : Abbreviations) (hstem : o.stem = false)
    (ha : ∀ entry ∈ a.entries, ∀ word ∈ entry.2, ∀ c ∈ word, c.toNat < 0x80) (ts : List Token)
    (hts : ∀ t ∈ ts, ∀ c ∈ t, c.toNat < 0x80) :
    processTokens { options := { o with lowercase := true }, abbreviations := a } ts =
      (processTokens { options := { o with lowercase := false }, abbreviations := a } ts).map
        Text.lowercase := by
  let p : Pipeline := { options := { o with lowercase := false }, abbreviations := a }
  let expanded := Step.expansions.foldl p.advance ts
  -- The two pipelines differ in the step between the expansions and the rest.
  have hlower : processTokens { options := { o with lowercase := true }, abbreviations := a } ts =
      Step.afterLowercase.foldl p.advance (expanded.map Text.lowercase) := rfl
  have hkeep : p.processTokens ts = Step.afterLowercase.foldl p.advance expanded := rfl
  rw [hlower]
  change _ = (p.processTokens ts).map Text.lowercase
  rw [hkeep]
  exact run_map_lowercase hstem ha (List.Subset.refl _) (run_ascii hstem ha Step.expansions hts)

/-- A stopword and a contraction in capitals, a name with an apostrophe, a token without letters, and
a short form that stands for words with capitals. -/
theorem keeping_case_city :
    let o : Options := { stem := false }
    let a := Abbreviations.empty.insert "Nyc".toList (["New", "York"].map String.toList)
    let ts := ["THE", "Don'T", "O'Neil", "--", "NYC"].map String.toList
    o.stem = false ∧ (∀ entry ∈ a.entries, ∀ word ∈ entry.2, ∀ c ∈ word, c.toNat < 0x80) ∧
    (∀ t ∈ ts, ∀ c ∈ t, c.toNat < 0x80) ∧
    processTokens { options := { o with lowercase := true }, abbreviations := a } ts =
      (processTokens { options := { o with lowercase := false }, abbreviations := a } ts).map
        Text.lowercase := by
  intro o a ts
  have ha : ∀ entry ∈ a.entries, ∀ word ∈ entry.2, word.Ascii := by decide +kernel
  have hts : ∀ t ∈ ts, Token.Ascii t := by decide +kernel
  exact ⟨rfl, ha, hts, keeping_case o a rfl ha ts hts⟩

end Pipeline

end Stemming
