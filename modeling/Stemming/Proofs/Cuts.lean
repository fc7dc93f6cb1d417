import Mathlib.Data.List.Induction
import Stemming.Proofs.Selection
import Stemming.Proofs.Utf8

/-! Cuts of encoded words. The bytes of a word are cut in two ways: the stem is what stands before
as many bytes as the suffix has, the remainder is what stands before a number of characters. Both
cuts fall between characters on every word, and what they leave encodes the stem and the remainder
that a rule cuts from the word itself. -/
namespace Stemming

namespace Utf8

/-- A character starts at the position, or the text ends there. -/
def isBoundary (bs : Bytes) (k : Nat) : Bool :=
  match bs[k]? with
  | some b => decide b.IsUTF8FirstByte
  | none => k == bs.length

/-- The bytes before a position, which must not be inside a character or behind the end. -/
def before? (bs : Bytes) (k : Nat) : Option Bytes :=
  if isBoundary bs k then some (bs.take k) else none

/-- The positions at which the characters start, in order. -/
def starts (bs : Bytes) : List Nat := bs.findIdxs fun b => decide b.IsUTF8FirstByte

/-- The bytes before the last `n` characters, cut where the `n`-th character from the end starts;
nothing is left when there are fewer. -/
def dropChars? (bs : Bytes) : Nat → Option Bytes
  | 0 => some bs
  | n + 1 =>
    match (starts bs).reverse[n]? with
    | some k => before? bs k
    | none => some []

/-- The bytes before as many bytes as `suffix` has, of which there must be enough. -/
def cutSuffix? (bs suffix : Bytes) : Option Bytes :=
  if suffix.length ≤ bs.length then before? bs (bs.length - suffix.length) else none

section Boundaries

variable {bs xs ys : Bytes} {c : Char} {k : Nat}

/-- Behind the first part, the boundaries are those of the second part. -/
theorem isBoundary_append (h : xs.length ≤ k) :
    isBoundary (xs ++ ys) k = isBoundary ys (k - xs.length) := by
  have hend : (k == (xs ++ ys).length) = (k - xs.length == ys.length) := by
    rw [Bool.eq_iff_iff, beq_iff_eq, beq_iff_eq, List.length_append]
    omega
  unfold isBoundary
  rw [List.getElem?_append_right h, hend]

/-- Within a character, only its start is a boundary. -/
theorem isBoundary_encodeChar_append (h : k < (String.utf8EncodeChar c).length) :
    isBoundary (String.utf8EncodeChar c ++ bs) k = (k == 0) := by
  unfold isBoundary
  rw [List.getElem?_append_left h, List.getElem?_eq_getElem h]
  simp only [UInt8.isUTF8FirstByte_getElem_utf8EncodeChar, Bool.beq_eq_decide_eq]

-- The second byte of a character is no place to cut.
example : before? (encode "né".toList) 2 = none := by decide

end Boundaries

/-- The position where an encoded text starts is a boundary, whatever stands before it. -/
theorem isBoundary_append_encode (bs : Bytes) (w : List Char) :
    isBoundary (bs ++ encode w) bs.length = true := by
  rw [isBoundary_append (Nat.le_refl _), Nat.sub_self]
  cases w with
  | nil => rfl
  | cons c w =>
    rw [encode_cons, isBoundary_encodeChar_append]
    · rfl
    · exact List.length_pos_iff.mpr String.utf8EncodeChar_ne_nil

/-- Every boundary of an encoded text divides its characters. -/
theorem exists_of_isBoundary {w : List Char} {k : Nat} (h : isBoundary (encode w) k = true) :
    ∃ p q, w = p ++ q ∧ (encode p).length = k := by
  induction w generalizing k with
  | nil => exact ⟨[], [], rfl, (beq_iff_eq.mp h).symm⟩
  | cons c w ih =>
    rw [encode_cons] at h
    by_cases hk : k < (String.utf8EncodeChar c).length
    · rw [isBoundary_encodeChar_append hk, beq_iff_eq] at h
      exact ⟨[], c :: w, rfl, h.symm⟩
    · rw [isBoundary_append (Nat.le_of_not_lt hk)] at h
      obtain ⟨p, q, rfl, hp⟩ := ih h
      refine ⟨c :: p, q, rfl, ?_⟩
      rw [encode_cons, List.length_append]
      omega

/-- Bytes that end with an encoded text end with its characters: an encoding is never found across
a boundary. -/
theorem encode_suffix_iff {s w : List Char} : encode s <:+ encode w ↔ s <:+ w := by
  constructor
  · rintro ⟨xs, hxs⟩
    have hb := isBoundary_append_encode xs s
    rw [hxs] at hb
    obtain ⟨p, q, rfl, hp⟩ := exists_of_isBoundary hb
    rw [encode_append] at hxs
    obtain ⟨-, hq⟩ := List.append_inj hxs hp.symm
    rw [encode_injective hq]
    exact List.suffix_append p q
  · rintro ⟨p, rfl⟩
    rw [encode_append]
    exact List.suffix_append (encode p) (encode s)

theorem isBoundary_of_suffix {s w : List Char} (h : encode s <:+ encode w) :
    isBoundary (encode w) ((encode w).length - (encode s).length) = true := by
  obtain ⟨xs, hxs⟩ := h
  rw [← hxs, List.length_append, Nat.add_sub_cancel]
  exact isBoundary_append_encode xs s

theorem before?_append_encode (bs : Bytes) (w : List Char) :
    before? (bs ++ encode w) bs.length = some bs := by
  rw [before?, if_pos (isBoundary_append_encode bs w), List.take_left]

theorem cutSuffix?_append_encode (bs : Bytes) (w : List Char) :
    cutSuffix? (bs ++ encode w) (encode w) = some bs := by
  have hlen : (bs ++ encode w).length - (encode w).length = bs.length := by
    rw [List.length_append, Nat.add_sub_cancel]
  rw [cutSuffix?, if_pos (by simp), hlen, before?_append_encode]

/-- A character has one first byte, where it starts. -/
theorem findIdxs_encodeChar (c : Char) (k : Nat) :
    (String.utf8EncodeChar c).findIdxs (fun b => decide b.IsUTF8FirstByte) k = [k] := by
  have hfirst (i : Nat) (hi : i < (String.utf8EncodeChar c).length) :=
    @UInt8.isUTF8FirstByte_getElem_utf8EncodeChar c i hi
  cases hc : String.utf8EncodeChar c with
  | nil => exact absurd hc String.utf8EncodeChar_ne_nil
  | cons b bs =>
    simp only [hc] at hfirst
    have hb : b.IsUTF8FirstByte := (hfirst 0 (by simp)).mpr rfl
    have hbs : ∀ x ∈ bs, decide x.IsUTF8FirstByte = false := by
      intro x hx
      obtain ⟨i, hi, rfl⟩ := List.getElem_of_mem hx
      have hnot := hfirst (i + 1) (by simpa using hi)
      simpa using hnot
    rw [List.findIdxs_cons, if_pos (decide_eq_true hb), List.findIdxs_eq_nil_iff.mpr hbs]

theorem starts_encode_concat (w : List Char) (c : Char) :
    starts (encode (w ++ [c])) = starts (encode w) ++ [(encode w).length] := by
  have hc : encode [c] = String.utf8EncodeChar c := List.flatMap_singleton _ c
  rw [encode_append, starts, List.findIdxs_append, hc, findIdxs_encodeChar, Nat.zero_add, starts]

/-- Counted from the end, a character starts where the encoding of what stands before it ends. -/
theorem getElem?_reverse_starts (w : Word) (n : Nat) :
    (starts (encode w)).reverse[n]? =
      if n < w.length then some (encode (w.dropEnd (n + 1))).length else none := by
  induction w using List.reverseRecOn generalizing n with
  | nil => rfl
  | append_singleton w c ih =>
    rw [starts_encode_concat, List.reverse_concat]
    cases n with
    | zero => simp
    | succ n =>
      have hdrop : Word.dropEnd (w ++ [c]) (n + 1 + 1) = Word.dropEnd w (n + 1) := by
        rw [Nat.add_comm (n + 1) 1, ← Word.dropEnd_dropEnd, Word.dropEnd_append_singleton]
      rw [List.getElem?_cons_succ, ih, hdrop]
      simp

theorem exists_encode_eq_append (w : Word) (n : Nat) :
    ∃ q, encode w = encode (w.dropEnd n) ++ encode q := by
  obtain ⟨q, hq⟩ := w.dropEnd_isPrefix n
  exact ⟨q, by rw [← encode_append, hq]⟩

/-- Cutting characters off the bytes is cutting them off the word. -/
theorem dropChars?_encode (w : Word) (n : Nat) :
    dropChars? (encode w) n = some (encode (w.dropEnd n)) := by
  cases n with
  | zero => rw [dropChars?, Word.dropEnd_zero]
  | succ n =>
    rw [dropChars?, getElem?_reverse_starts]
    by_cases hn : n < w.length
    · obtain ⟨q, hq⟩ := exists_encode_eq_append w (n + 1)
      simp only [if_pos hn]
      rw [hq, before?_append_encode]
    · rw [if_neg hn, Word.dropEnd_of_length_le (by omega)]
      rfl

end Utf8

open Utf8

namespace Rule

/-- The stem of an encoded word, cut by the bytes of the suffix. -/
def stemBytes? (r : Rule) (bs : Bytes) : Option Bytes := cutSuffix? bs (encode r.suffix)

/-- The remainder of an encoded word, cut by characters. -/
def remainderBytes? (r : Rule) (bs : Bytes) : Option Bytes := dropChars? bs r.remove

def applyBytes? (r : Rule) (bs : Bytes) : Option Bytes :=
  (r.remainderBytes? bs).map (· ++ encode r.append)

variable {r : Rule} {w : Word}

/-- A rule fits a word exactly when the bytes of the word end with those of the suffix. -/
theorem encode_suffix_iff_fits : encode r.suffix <:+ encode w ↔ r.fits w = true := by
  rw [Utf8.encode_suffix_iff, ← Word.endsWith_iff]
  rfl

theorem stemBytes?_encode (h : r.fits w = true) :
    r.stemBytes? (encode w) = some (encode (r.stemOf w)) := by
  obtain ⟨p, rfl⟩ := exists_of_fits h
  rw [stemOf_append, encode_append, stemBytes?, cutSuffix?_append_encode]

theorem remainderBytes?_encode (r : Rule) (w : Word) :
    r.remainderBytes? (encode w) = some (encode (r.remainderOf w)) :=
  dropChars?_encode w r.remove

/-- What a rule makes of an encoded word is an encoded word again, so that the next rule finds its
cuts between characters too. -/
theorem applyBytes?_encode (r : Rule) (w : Word) :
    r.applyBytes? (encode w) = some (encode (r.apply w)) := by
  rw [applyBytes?, remainderBytes?_encode, apply, encode_append]
  rfl

end Rule

/-- The rules that are to remove the suffix they match and nothing else: those of `derivational`,
`secondaryDerivational` and `terminalY`, and the two that lead to `verbalCleanup`. -/
def Table.suffixRules : List Rule :=
  derivationalRules ++ secondaryDerivationalRules ++ terminalYRules ++
    [.thenCleanup "ed", .thenCleanup "ing"]

theorem Rule.stemOf_eq_remainderOf {r : Rule} (hr : r ∈ Table.suffixRules) (w : Word) :
    r.stemOf w = r.remainderOf w := by
  have rules : ∀ r ∈ Table.suffixRules, r.suffix.length = r.remove := by decide
  rw [stemOf, rules r hr, remainderOf]

/-- A word has the characters that its rule removes; only the default of `plural` is selected for
a word that has none. -/
theorem Stage.length_lt_remove_iff {s : Stage} {w : Word} {r : Rule} (h : s.select w = some r) :
    w.length < r.remove ↔ s = .plural ∧ r = .of "" 1 "" .always ∧ w = [] := by
  have rules : ∀ s ∈ Stage.all, ∀ r ∈ s.table.rules,
      r.remove ≤ r.suffix.length ∨ (r.remove = 1 ∧ r.gate = .undouble) ∨
        (s = .plural ∧ r = .of "" 1 "" .always) := by decide
  obtain ⟨hr, hf, ha⟩ := select_some h
  constructor
  · intro hlt
    rcases rules s (mem_all s) r hr with hle | ⟨hn, hg⟩ | ⟨hs, hdefault⟩
    · have hlen := (Word.endsWith_iff.mp hf).length_le
      omega
    -- The gate of the other rule with an empty suffix asks for two characters.
    · simp only [Rule.admits, hg, Gate.holds, Bool.and_eq_true] at ha
      have hlen := Word.two_le_length_of_endsDoubled ha.1
      omega
    · have hone : r.remove = 1 := by rw [hdefault]; rfl
      exact ⟨hs, hdefault, List.length_eq_zero_iff.mp (by omega)⟩
  · rintro ⟨-, rfl, rfl⟩
    exact Nat.one_pos

/-- Every suffix is written with one byte for each character. -/
theorem Stage.length_encode_suffix {s : Stage} {r : Rule} (hr : r ∈ s.table.rules) :
    (encode r.suffix).length = r.suffix.length := by
  have rules : ∀ s ∈ Stage.all, ∀ r ∈ s.table.rules,
      (encode r.suffix).length = r.suffix.length := by decide
  exact rules s (mem_all s) r hr

/-- No rule cuts a word inside a character. If the bytes of a word end with those of a suffix, the
rule fits, the word has that many bytes, and the position before them is a boundary, where the stem
ends; what the rule makes of the bytes encodes what it makes of the word. Dropping characters leaves
the bytes that encode the others, and none if there are fewer. A selected rule finds all the
characters it removes, except the default of `plural` on the empty word, and for the rules that
take their suffix off, the stem and the remainder are the same bytes. -/
theorem cuts_fall_between_characters :
    (∀ s : Stage, ∀ r ∈ s.table.rules, (encode r.suffix).length = r.suffix.length ∧ ∀ w : Word,
      (encode r.suffix <:+ encode w ↔ r.fits w = true) ∧
      (encode r.suffix <:+ encode w →
        (encode r.suffix).length ≤ (encode w).length ∧
        isBoundary (encode w) ((encode w).length - (encode r.suffix).length) = true ∧
        r.stemBytes? (encode w) = some (encode (r.stemOf w)) ∧
        r.applyBytes? (encode w) = some (encode (r.apply w)))) ∧
    (∀ (w : Word) (n : Nat),
      dropChars? (encode w) n = some (encode (w.dropEnd n)) ∧
      encode (w.dropEnd n) <+: encode w ∧
      (w.length < n → dropChars? (encode w) n = some [])) ∧
    (∀ (s : Stage) (w : Word) (r : Rule), s.select w = some r →
      (w.length < r.remove ↔ s = .plural ∧ r = .of "" 1 "" .always ∧ w = [])) ∧
    ∀ r ∈ Table.suffixRules, ∀ w : Word, encode r.suffix <:+ encode w →
      r.stemBytes? (encode w) = r.remainderBytes? (encode w) ∧ r.stemOf w = r.remainderOf w := by
  refine ⟨?_, ?_, fun s w r h => Stage.length_lt_remove_iff h, ?_⟩
  · intro s r hr
    refine ⟨Stage.length_encode_suffix hr, fun w => ⟨Rule.encode_suffix_iff_fits, ?_⟩⟩
    intro hs
    have hf := Rule.encode_suffix_iff_fits.mp hs
    exact ⟨hs.length_le, isBoundary_of_suffix hs, Rule.stemBytes?_encode hf,
      Rule.applyBytes?_encode r w⟩
  · intro w n
    refine ⟨dropChars?_encode w n, ?_, ?_⟩
    · obtain ⟨q, hq⟩ := exists_encode_eq_append w n
      rw [hq]
      exact List.prefix_append _ _
    · intro hn
      rw [dropChars?_encode, Word.dropEnd_of_length_le hn.le]
      rfl
  · intro r hr w hs
    have heq := Rule.stemOf_eq_remainderOf hr w
    refine ⟨?_, heq⟩
    rw [Rule.stemBytes?_encode (Rule.encode_suffix_iff_fits.mp hs), heq,
      Rule.remainderBytes?_encode]

/-- A word of eleven characters and twelve bytes, a word shorter than the cut, and the empty word,
from which `plural` still takes one character. -/
theorem cuts_fall_between_characters_educational :
    (encode "ational".toList <:+ encode "éducational".toList ∧
      isBoundary (encode "éducational".toList) (12 - 7) = true ∧
      (Rule.replace "ational" "ate").stemBytes? (encode "éducational".toList) =
        some (encode "éduc".toList) ∧
      (Rule.replace "ational" "ate").remainderBytes? (encode "éducational".toList) =
        some (encode "éduc".toList)) ∧
    dropChars? (encode "né".toList) 3 = some [] ∧
    (Stage.derivational.select "éducational".toList = some (.replace "ational" "ate") ∧
      ¬"éducational".toList.length < 7) ∧
    Stage.plural.select [] = some (.of "" 1 "" .always) ∧ 0 < (Rule.of "" 1 "" .always).remove := by
  obtain ⟨hrule, hdrop, hselect, hsame⟩ := cuts_fall_between_characters
  have hmem : Rule.replace "ational" "ate" ∈ Stage.derivational.table.rules := by decide
  have hsuffix : encode "ational".toList <:+ encode "éducational".toList :=
    Rule.encode_suffix_iff_fits (r := .replace "ational" "ate").mpr (by decide)
  have hfires : Stage.derivational.select "éducational".toList =
      some (.replace "ational" "ate") := by decide
  have hempty : Stage.plural.select [] = some (.of "" 1 "" .always) := by decide
  obtain ⟨-, hcut⟩ := hrule .derivational _ hmem
  obtain ⟨-, hboundary, hstem, -⟩ := (hcut "éducational".toList).2 hsuffix
  have hrest := (hsame (.replace "ational" "ate") (by decide) _ hsuffix).1
  refine ⟨⟨hsuffix, hboundary, hstem, hrest.symm.trans hstem⟩, ?_, ⟨hfires, ?_⟩, hempty, ?_⟩
  · exact (hdrop "né".toList 3).2.2 (by decide)
  · intro hlt
    exact absurd ((hselect _ _ _ hfires).mp hlt).1 (by decide)
  · exact (hselect _ _ _ hempty).mpr ⟨rfl, rfl, rfl⟩

end Stemming
