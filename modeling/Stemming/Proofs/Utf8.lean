import Mathlib.Tactic.SplitIfs
import Stemming.Bytes

/-! Decoding accepts exactly what encoding produces. The decoder works with sums and bounds, so
the encoding of a character is first written as a list of numbers. -/
namespace Stemming

theorem toNat_ofNat {n : Nat} (h : n.isValidChar) : (Char.ofNat n).toNat = n := by
  rw [Char.ofNat, dif_pos h]
  rfl

namespace Utf8

/-- The bytes of a code point as numbers. -/
def units (v : Nat) : List Nat :=
  if v ≤ 0x7F then [v]
  else if v ≤ 0x7FF then [v / 64 + 0xC0, v % 64 + 0x80]
  else if v ≤ 0xFFFF then [v / 4096 + 0xE0, v / 64 % 64 + 0x80, v % 64 + 0x80]
  else [v / 262144 + 0xF0, v / 4096 % 64 + 0x80, v / 64 % 64 + 0x80, v % 64 + 0x80]

theorem map_toNat_encodeChar (c : Char) :
    (String.utf8EncodeChar c).map UInt8.toNat = units c.toNat := by
  have hlt : c.toNat < 0x110000 := by
    rcases c.valid with h | h
    · exact Nat.lt_trans h (by decide)
    · exact h.2
  have hval : c.val.toNat = c.toNat := rfl
  simp only [String.utf8EncodeChar, units, hval]
  generalize c.toNat = v at hlt ⊢
  split_ifs
  all_goals
    simp only [List.map_cons, List.map_nil, UInt8.toNat_ofNat', List.cons.injEq, and_true]
    omega

theorem eq_encodeChar {k : Nat} {bs : Bytes} (hk : k.isValidChar)
    (h : units k = bs.map UInt8.toNat) : bs = String.utf8EncodeChar (Char.ofNat k) := by
  rw [← List.map_inj_right fun a b => (UInt8.toNat_inj (a := a) (b := b)).mp,
    map_toNat_encodeChar, toNat_ofNat hk, h]

theorem units_two {a b k : Nat} (ha : 0xC2 ≤ a ∧ a < 0xE0) (hb : 0x80 ≤ b ∧ b ≤ 0xBF)
    (hk : k = (a - 0xC0) * 64 + (b - 0x80)) : units k = [a, b] := by
  unfold units
  rw [if_neg (by omega), if_pos (by omega)]
  simp only [List.cons.injEq, and_true]
  omega

theorem units_three {a b c k : Nat} (ha : 0xE0 ≤ a ∧ a < 0xF0) (hb : 0x80 ≤ b ∧ b ≤ 0xBF)
    (hc : 0x80 ≤ c ∧ c ≤ 0xBF) (hk : k = ((a - 0xE0) * 64 + (b - 0x80)) * 64 + (c - 0x80))
    (hlow : 0x800 ≤ k) : units k = [a, b, c] := by
  unfold units
  rw [if_neg (by omega), if_neg (by omega), if_pos (by omega)]
  simp only [List.cons.injEq, and_true]
  omega

theorem units_four {a b c d k : Nat} (ha : 0xF0 ≤ a) (hb : 0x80 ≤ b ∧ b ≤ 0xBF)
    (hc : 0x80 ≤ c ∧ c ≤ 0xBF) (hd : 0x80 ≤ d ∧ d ≤ 0xBF)
    (hk : k = (((a - 0xF0) * 64 + (b - 0x80)) * 64 + (c - 0x80)) * 64 + (d - 0x80))
    (hlow : 0x10000 ≤ k) : units k = [a, b, c, d] := by
  unfold units
  rw [if_neg (by omega), if_neg (by omega), if_neg (by omega)]
  simp only [List.cons.injEq, and_true]
  omega

theorem continuation_zero_eq_some {low high code k : Nat} {bs rest : Bytes} :
    continuation low high 0 code bs = (some k, rest) ↔ k = code ∧ bs = rest := by
  simp [continuation, eq_comm]

theorem continuation_succ_eq_some {low high n code k : Nat} {bs rest : Bytes} :
    continuation low high (n + 1) code bs = (some k, rest) ↔
      ∃ b bs', bs = b :: bs' ∧ (low ≤ b.toNat ∧ b.toNat ≤ high) ∧
        continuation 0x80 0xBF n (code * 64 + (b.toNat - 0x80)) bs' = (some k, rest) := by
  cases bs with
  | nil => simp [continuation]
  | cons b bs =>
    constructor
    · intro h
      unfold continuation at h
      split at h
      next hb =>
        rw [Bool.and_eq_true, decide_eq_true_eq, decide_eq_true_eq] at hb
        exact ⟨b, bs, rfl, hb, h⟩
      next => exact absurd (congrArg Prod.fst h) (by simp)
    · rintro ⟨b', bs', heq, hb, h⟩
      obtain ⟨rfl, rfl⟩ := List.cons.inj heq
      simpa [continuation, hb] using h

theorem lead?_two {n : Nat} (h : 0xC2 ≤ n ∧ n < 0xE0) :
    lead? n = some ⟨0x80, 0xBF, 1, n - 0xC0⟩ := by
  unfold lead?
  rw [if_neg (by omega), if_pos h.2]

/-- The bounds keep the code point from being overlong and from being a surrogate. -/
theorem lead?_three {n : Nat} (h : 0xE0 ≤ n ∧ n < 0xF0) :
    lead? n = some
      ⟨if n = 0xE0 then 0xA0 else 0x80, if n = 0xED then 0x9F else 0xBF, 2, n - 0xE0⟩ := by
  by_cases hlow : n = 0xE0
  · subst hlow
    rfl
  by_cases hhigh : n = 0xED
  · subst hhigh
    rfl
  unfold lead?
  rw [if_neg (by omega), if_neg (by omega), if_neg hlow, if_neg hhigh, if_pos h.2, if_neg hlow,
    if_neg hhigh]

/-- The bounds keep the code point from being overlong and from being too large. -/
theorem lead?_four {n : Nat} (h : 0xF0 ≤ n ∧ n < 0xF5) :
    lead? n = some
      ⟨if n = 0xF0 then 0x90 else 0x80, if n = 0xF4 then 0x8F else 0xBF, 3, n - 0xF0⟩ := by
  by_cases hlow : n = 0xF0
  · subst hlow
    rfl
  by_cases hhigh : n = 0xF4
  · subst hhigh
    rfl
  unfold lead?
  rw [if_neg (by omega), if_neg (by omega), if_neg (by omega), if_neg (by omega),
    if_neg (by omega), if_neg hlow, if_pos (by omega), if_neg hlow, if_neg hhigh]

theorem lead?_eq_none {n : Nat} (h : n < 0xC2 ∨ 0xF5 ≤ n) : lead? n = none := by
  unfold lead?
  rcases h with h | h
  · rw [if_pos h]
  · rw [if_neg (by omega), if_neg (by omega), if_neg (by omega), if_neg (by omega),
      if_neg (by omega), if_neg (by omega), if_neg (by omega), if_neg (by omega)]

theorem nextCode_of_lead {b : UInt8} {bs : Bytes} {low high count bits : Nat}
    (h : lead? b.toNat = some ⟨low, high, count, bits⟩) :
    nextCode b bs = continuation low high count bits bs := by
  have hb : ¬b.toNat < 0x80 := by
    intro hb
    rw [lead?_eq_none (Or.inl (by omega))] at h
    exact absurd h (by simp)
  unfold nextCode
  rw [if_neg hb, h]

/-- What is read as a code point is its encoding. -/
theorem nextCode_sound {b : UInt8} {bs rest : Bytes} {k : Nat}
    (h : nextCode b bs = (some k, rest)) :
    k.isValidChar ∧ b :: bs = String.utf8EncodeChar (Char.ofNat k) ++ rest := by
  have hread (cs : Bytes) (hk : k.isValidChar) (hu : units k = cs.map UInt8.toNat) :
      k.isValidChar ∧ cs ++ rest = String.utf8EncodeChar (Char.ofNat k) ++ rest :=
    ⟨hk, by rw [← eq_encodeChar hk hu]⟩
  -- The first byte says how many follow; the ranges of the second one rule out overlong forms,
  -- surrogates and numbers above the last code point.
  by_cases h1 : b.toNat < 0x80
  · unfold nextCode at h
    rw [if_pos h1, Prod.mk.injEq, Option.some.injEq] at h
    obtain ⟨rfl, rfl⟩ := h
    apply hread [b] (Or.inl (by omega))
    unfold units
    rw [if_pos (by omega)]
    rfl
  by_cases hnone : b.toNat < 0xC2 ∨ 0xF5 ≤ b.toNat
  · unfold nextCode at h
    rw [if_neg h1, lead?_eq_none hnone] at h
    exact absurd (congrArg Prod.fst h) (by simp)
  by_cases h2 : b.toNat < 0xE0
  · rw [nextCode_of_lead (lead?_two ⟨by omega, h2⟩), continuation_succ_eq_some] at h
    obtain ⟨b₁, bs, rfl, hb₁, h⟩ := h
    obtain ⟨hk, rfl⟩ := continuation_zero_eq_some.mp h
    apply hread [b, b₁] (Or.inl (by omega))
    exact units_two ⟨by omega, h2⟩ hb₁ hk
  by_cases h3 : b.toNat < 0xF0
  · rw [nextCode_of_lead (lead?_three ⟨by omega, h3⟩), continuation_succ_eq_some] at h
    obtain ⟨b₁, bs, rfl, hb₁, h⟩ := h
    obtain ⟨b₂, bs, rfl, hb₂, h⟩ := continuation_succ_eq_some.mp h
    obtain ⟨hk, rfl⟩ := continuation_zero_eq_some.mp h
    have hrange : 0x800 ≤ k ∧ (k < 0xD800 ∨ 0xDFFF < k) ∧ k < 0x10000 ∧
        0x80 ≤ b₁.toNat ∧ b₁.toNat ≤ 0xBF := by
      split_ifs at hb₁ <;> omega
    apply hread [b, b₁, b₂]
    · unfold Nat.isValidChar
      omega
    · exact units_three ⟨by omega, h3⟩ hrange.2.2.2 hb₂ hk hrange.1
  · rw [nextCode_of_lead (lead?_four ⟨by omega, by omega⟩), continuation_succ_eq_some] at h
    obtain ⟨b₁, bs, rfl, hb₁, h⟩ := h
    obtain ⟨b₂, bs, rfl, hb₂, h⟩ := continuation_succ_eq_some.mp h
    obtain ⟨b₃, bs, rfl, hb₃, h⟩ := continuation_succ_eq_some.mp h
    obtain ⟨hk, rfl⟩ := continuation_zero_eq_some.mp h
    have hrange : 0x10000 ≤ k ∧ k < 0x110000 ∧ 0x80 ≤ b₁.toNat ∧ b₁.toNat ≤ 0xBF := by
      split_ifs at hb₁ <;> omega
    apply hread [b, b₁, b₂, b₃]
    · unfold Nat.isValidChar
      omega
    · exact units_four (by omega) hrange.2.2 hb₂ hb₃ hk hrange.1

/-- The encoding of a character is read back, and nothing after it is touched. -/
theorem nextCode_encodeChar (c : Char) (rest : Bytes) :
    ∃ b bs, String.utf8EncodeChar c = b :: bs ∧
      nextCode b (bs ++ rest) = (some c.toNat, rest) := by
  have hvalid : c.toNat.isValidChar := c.valid
  have hunits := map_toNat_encodeChar c
  -- From here on the bytes are only known by their numbers.
  generalize String.utf8EncodeChar c = cs at hunits ⊢
  generalize c.toNat = k at hvalid hunits ⊢
  unfold Nat.isValidChar at hvalid
  unfold units at hunits
  split_ifs at hunits with h1 h2 h3
  · obtain ⟨b, cs, rfl, hb, hnil⟩ := List.map_eq_cons_iff.mp hunits
    obtain rfl := List.map_eq_nil_iff.mp hnil
    refine ⟨b, [], rfl, ?_⟩
    unfold nextCode
    rw [if_pos (by omega), hb]
    rfl
  · obtain ⟨b, cs, rfl, hb, hrest⟩ := List.map_eq_cons_iff.mp hunits
    obtain ⟨b₁, cs, rfl, hb₁, hnil⟩ := List.map_eq_cons_iff.mp hrest
    obtain rfl := List.map_eq_nil_iff.mp hnil
    refine ⟨b, [b₁], rfl, ?_⟩
    rw [nextCode_of_lead (lead?_two ⟨by omega, by omega⟩), continuation_succ_eq_some]
    refine ⟨b₁, rest, rfl, ⟨by omega, by omega⟩, continuation_zero_eq_some.mpr ⟨?_, rfl⟩⟩
    omega
  · obtain ⟨b, cs, rfl, hb, hrest⟩ := List.map_eq_cons_iff.mp hunits
    obtain ⟨b₁, cs, rfl, hb₁, hrest⟩ := List.map_eq_cons_iff.mp hrest
    obtain ⟨b₂, cs, rfl, hb₂, hnil⟩ := List.map_eq_cons_iff.mp hrest
    obtain rfl := List.map_eq_nil_iff.mp hnil
    refine ⟨b, [b₁, b₂], rfl, ?_⟩
    rw [nextCode_of_lead (lead?_three ⟨by omega, by omega⟩), continuation_succ_eq_some]
    refine ⟨b₁, b₂ :: rest, rfl, ?_, continuation_succ_eq_some.mpr
      ⟨b₂, rest, rfl, ⟨by omega, by omega⟩, continuation_zero_eq_some.mpr ⟨?_, rfl⟩⟩⟩
    · split_ifs <;> omega
    · omega
  · obtain ⟨b, cs, rfl, hb, hrest⟩ := List.map_eq_cons_iff.mp hunits
    obtain ⟨b₁, cs, rfl, hb₁, hrest⟩ := List.map_eq_cons_iff.mp hrest
    obtain ⟨b₂, cs, rfl, hb₂, hrest⟩ := List.map_eq_cons_iff.mp hrest
    obtain ⟨b₃, cs, rfl, hb₃, hnil⟩ := List.map_eq_cons_iff.mp hrest
    obtain rfl := List.map_eq_nil_iff.mp hnil
    refine ⟨b, [b₁, b₂, b₃], rfl, ?_⟩
    rw [nextCode_of_lead (lead?_four ⟨by omega, by omega⟩), continuation_succ_eq_some]
    refine ⟨b₁, b₂ :: b₃ :: rest, rfl, ?_, continuation_succ_eq_some.mpr
      ⟨b₂, b₃ :: rest, rfl, ⟨by omega, by omega⟩, continuation_succ_eq_some.mpr
        ⟨b₃, rest, rfl, ⟨by omega, by omega⟩, continuation_zero_eq_some.mpr ⟨?_, rfl⟩⟩⟩⟩
    · split_ifs <;> omega
    · omega

theorem encode_append (u v : List Char) : encode (u ++ v) = encode u ++ encode v :=
  List.flatMap_append

theorem encode_cons (c : Char) (w : List Char) :
    encode (c :: w) = String.utf8EncodeChar c ++ encode w := List.flatMap_cons

theorem encode_singleton (c : Char) : encode [c] = String.utf8EncodeChar c :=
  List.flatMap_singleton _ _

theorem decode?_encode (s : List Char) : decode? (encode s) = some s := by
  induction s with
  | nil => simp [encode, decode?]
  | cons c s ih =>
    obtain ⟨b, bs, hc, hnext⟩ := nextCode_encodeChar c (encode s)
    have hbytes : encode (c :: s) = b :: (bs ++ encode s) := by
      rw [encode_cons, hc]
      rfl
    rw [hbytes, decode?, hnext]
    simp [ih]

theorem encode_injective : Function.Injective encode := by
  intro u v h
  have hdecode := decode?_encode u
  rw [h, decode?_encode v] at hdecode
  exact (Option.some.inj hdecode).symm

theorem eq_encode_of_decode? {bs : Bytes} {s : List Char} (h : decode? bs = some s) :
    bs = encode s := by
  fun_induction decode? bs generalizing s with
  | case1 =>
    obtain rfl := Option.some.inj h
    rfl
  | case2 b bs code hcode ih =>
    obtain ⟨t, ht, rfl⟩ := Option.map_eq_some_iff.mp h
    have hread : nextCode b bs = (some code, encode t) := by rw [← hcode, ← ih ht]
    rw [(nextCode_sound hread).2]
    rfl
  | case3 => exact absurd h (by simp)

/-- Decoding accepts exactly the encoded texts. -/
theorem decode?_eq_some_iff {bs : Bytes} {s : List Char} :
    decode? bs = some s ↔ bs = encode s := by
  constructor
  · exact eq_encode_of_decode?
  · rintro rfl
    exact decode?_encode s

/-- A byte below 128 is a character of its own. -/
theorem encodeChar_of_mem {b : UInt8} (hb : b.toNat < 0x80) {c : Char}
    (h : b ∈ String.utf8EncodeChar c) : String.utf8EncodeChar c = [b] := by
  have hunits := map_toNat_encodeChar c
  have hmem : b.toNat ∈ units c.toNat := hunits ▸ List.mem_map_of_mem h
  unfold units at hunits hmem
  split_ifs at hunits hmem
  · obtain ⟨d, hd⟩ : ∃ d, String.utf8EncodeChar c = [d] :=
      List.length_eq_one_iff.mp (by simpa using congrArg List.length hunits)
    rw [hd] at h ⊢
    rw [List.mem_singleton.mp h]
  all_goals
    simp only [List.mem_cons, List.not_mem_nil, or_false] at hmem
    omega

theorem encodeChar_ascii {b : UInt8} (hb : b.toNat < 0x80) :
    String.utf8EncodeChar (Char.ofNat b.toNat) = [b] := by
  refine (eq_encodeChar (Or.inl (by omega)) ?_).symm
  unfold units
  rw [if_pos (by omega)]
  rfl

/-- So a character with such a byte is the one of that number. -/
theorem toNat_of_mem_encodeChar {b : UInt8} (hb : b.toNat < 0x80) {c : Char}
    (h : b ∈ String.utf8EncodeChar c) : c.toNat = b.toNat := by
  have hc : encode [c] = encode [Char.ofNat b.toNat] := by
    simp [encode, encodeChar_of_mem hb h, encodeChar_ascii hb]
  rw [List.singleton_inj.mp (encode_injective hc), toNat_ofNat (Or.inl (by omega))]

end Utf8

end Stemming
