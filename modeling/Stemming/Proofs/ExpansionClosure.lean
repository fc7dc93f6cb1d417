import Stemming.Abbreviation

/-! The built-in tables expand in one go. No contraction and no abbreviation stands for a word
that is one of the two again, in whatever case, so nothing is left to expand in what they give. -/
namespace Stemming

section Expand

variable {find? : Token → Option (List Token)} {ts : List Token}

/-- An expansion gives words of the table, and the tokens that the table does not hold. -/
theorem forall_mem_expand {good : Token → Prop}
    (hwords : ∀ t words, find? t = some words → ∀ word ∈ words, good word)
    (hkept : ∀ t ∈ ts, find? t = none → good t) :
    ∀ u ∈ ts.flatMap fun t => (find? t).getD [t], good u := by
  intro u hu
  obtain ⟨t, ht, hu⟩ := List.mem_flatMap.mp hu
  cases hfind : find? t with
  | none =>
    rw [hfind] at hu
    rw [List.mem_singleton.mp hu]
    exact hkept t ht hfind
  | some words =>
    rw [hfind] at hu
    exact hwords t words hfind u hu

theorem expand_eq_self (h : ∀ t ∈ ts, find? t = none) :
    (ts.flatMap fun t => (find? t).getD [t]) = ts := by
  induction ts with
  | nil => rfl
  | cons t ts ih =>
    rw [List.flatMap_cons, h t List.mem_cons_self,
      ih fun u hu => h u (List.mem_cons_of_mem t hu)]
    rfl

end Expand

namespace Token

/-- Neither of the built-in tables holds the token. -/
def Expanded (t : Token) : Prop := contraction? t = none ∧ Abbreviations.builtIn.get? t = none

/-- Contractions are written with an apostrophe. -/
theorem contraction?_of_notMem {t : Token} (h : apostrophe ∉ Text.lowercase t) :
    contraction? t = none := by
  have htable : ∀ entry ∈ contractions, apostrophe ∈ entry.1.toList := by decide +kernel
  rw [contraction?, Option.map_eq_none_iff, List.find?_eq_none]
  intro entry hentry hkey
  exact h (eq_of_beq hkey ▸ htable entry hentry)

theorem exists_of_contraction? {t : Token} {words : List Token}
    (h : contraction? t = some words) :
    ∃ entry ∈ contractions, entry.2.map String.toList = words := by
  obtain ⟨entry, hfind, hwords⟩ := Option.map_eq_some_iff.mp h
  exact ⟨entry, List.mem_of_find?_eq_some hfind, hwords⟩

theorem expanded_of_contraction? {t : Token} {words : List Token}
    (h : contraction? t = some words) : ∀ word ∈ words, Expanded word := by
  have htable : ∀ entry ∈ contractions, ∀ word ∈ entry.2,
      apostrophe ∉ Text.lowercase word.toList ∧
        Abbreviations.builtIn.get? word.toList = none := by decide +kernel
  obtain ⟨entry, hentry, rfl⟩ := exists_of_contraction? h
  rw [List.forall_mem_map]
  intro word hword
  exact (htable entry hentry word hword).imp_left contraction?_of_notMem

theorem contraction?_of_mem_expandContractions {ts : List Token} :
    ∀ t ∈ expandContractions ts, contraction? t = none :=
  forall_mem_expand (fun _ _ h word hword => (expanded_of_contraction? h word hword).1)
    fun _ _ hkept => hkept

end Token

namespace Abbreviations

theorem mem_entries_of_get? {a : Abbreviations} {t : Token} {words : List Token}
    (h : a.get? t = some words) : (Text.lowercase t, words) ∈ a.entries := by
  obtain ⟨before, after, hentries, -⟩ := List.lookup_eq_some_iff.mp h
  rw [hentries]
  exact List.mem_append_right _ List.mem_cons_self

theorem expanded_of_get?_builtIn {t : Token} {words : List Token}
    (h : builtIn.get? t = some words) : ∀ word ∈ words, word.Expanded := by
  have htable : ∀ entry ∈ builtIn.entries, ∀ word ∈ entry.2,
      Token.apostrophe ∉ Text.lowercase word ∧ builtIn.get? word = none := by decide +kernel
  intro word hword
  exact (htable _ (mem_entries_of_get? h) word hword).imp_left Token.contraction?_of_notMem

end Abbreviations

/-- Both expansions, one after the other, by the built-in tables. -/
def expandAll (ts : List Token) : List Token :=
  Abbreviations.builtIn.expand (Token.expandContractions ts)

theorem expanded_of_mem_expandAll {ts : List Token} : ∀ t ∈ expandAll ts, t.Expanded :=
  forall_mem_expand (fun _ _ h => Abbreviations.expanded_of_get?_builtIn h)
    fun t ht hkept => ⟨Token.contraction?_of_mem_expandContractions t ht, hkept⟩

theorem expandAll_eq_self {ts : List Token} (h : ∀ t ∈ ts, t.Expanded) : expandAll ts = ts := by
  have hcontractions : Token.expandContractions ts = ts := expand_eq_self fun t ht => (h t ht).1
  rw [expandAll, hcontractions]
  exact expand_eq_self fun t ht => (h t ht).2

/-- Expanding contractions leaves no contraction. Expanding the built-in abbreviations after them
leaves neither a contraction nor a built-in abbreviation, so that doing both again changes
nothing. Any tokens may come in, and both tables are searched without regard to case. -/
theorem expansion_closes (ts : List Token) :
    (∀ t ∈ Token.expandContractions ts, Token.contraction? t = none) ∧
    (∀ t ∈ expandAll ts, Token.contraction? t = none ∧ Abbreviations.builtIn.get? t = none) ∧
    expandAll (expandAll ts) = expandAll ts :=
  ⟨Token.contraction?_of_mem_expandContractions, expanded_of_mem_expandAll,
    expandAll_eq_self expanded_of_mem_expandAll⟩

/-- The Kelvin sign is a capital k, and the `I` of a contraction keeps its case. -/
theorem expansion_closes_kelvin :
    let ts := ["\u212A".toList, "i'M".toList, "Smith".toList]
    "I".toList ∈ Token.expandContractions ts ∧ Token.contraction? "I".toList = none ∧
    "ok".toList ∈ expandAll ts ∧ Token.contraction? "ok".toList = none ∧
    Abbreviations.builtIn.get? "ok".toList = none ∧ expandAll (expandAll ts) = expandAll ts := by
  intro ts
  have hwords : Token.expandContractions ts =
      ["\u212A".toList, "I".toList, "am".toList, "Smith".toList] := by decide +kernel
  have hfirst : "I".toList ∈ Token.expandContractions ts := by simp [hwords]
  have hlast : "ok".toList ∈ expandAll ts := by
    rw [expandAll, hwords]
    decide +kernel
  obtain ⟨hcontraction, hexpanded, hagain⟩ := expansion_closes ts
  exact ⟨hfirst, hcontraction _ hfirst, hlast, (hexpanded _ hlast).1, (hexpanded _ hlast).2, hagain⟩

end Stemming
