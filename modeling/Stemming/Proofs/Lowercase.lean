import Stemming.Proofs.Utf8
import Stemming.Text.Lowercase

/-! Lowercase text stays as it is when it is lowercased again. Neither the spans of the case
mapping nor the two characters of the dotted capital i nor the two small sigmas lead back to a
character that the mapping changes. -/
namespace Stemming.Text

/-- The code points from `low` to `high` in steps of `step` are kept by the spans: each span
lies elsewhere, or takes every other code point and misses them. -/
def avoids (low high step : Nat) : List CaseSpan → Bool
  | [] => true
  | s :: spans =>
    bif Nat.blt high s.first then true
    else
      (Nat.blt s.last low || ((Nat.beq step 2 || Nat.beq low high) && Nat.beq s.step 2 &&
        Nat.beq ((low + s.first) % 2) 1)) && avoids low high step spans

theorem blt_eq_false_iff {m n : Nat} : Nat.blt m n = false ↔ n ≤ m := by
  rw [← Bool.not_eq_true, Nat.blt_eq, Nat.not_lt]

theorem lowerCode_of_avoids {low high step k : Nat} {spans : List CaseSpan}
    (h : avoids low high step spans = true) (hk : low + k ≤ high) (hstep : k % step = 0) :
    lowerCode (low + k) spans = low + k := by
  induction spans with
  | nil => rfl
  | cons s spans ih =>
    unfold lowerCode
    cases hbelow : Nat.blt (low + k) s.first with
    | true => rfl
    | false =>
      have hfirst := blt_eq_false_iff.mp hbelow
      have hhigh : Nat.blt high s.first = false := blt_eq_false_iff.mpr (Nat.le_trans hfirst hk)
      simp only [avoids, hhigh, cond_false, Bool.and_eq_true, Bool.or_eq_true] at h
      cases hwithin : Nat.ble (low + k) s.last with
      | false => exact ih h.2
      | true =>
        have hlast := Nat.le_of_ble_eq_true hwithin
        -- Inside a span that takes every other code point, the parity decides.
        have hodd : (low + k - s.first) % s.step ≠ 0 := by
          rcases h.1 with hout | ⟨⟨heven, htwo⟩, hparity⟩
          · have := Nat.blt_eq.mp hout
            omega
          · rw [Nat.eq_of_beq_eq_true htwo]
            have hparity := Nat.eq_of_beq_eq_true hparity
            rcases heven with heven | hpoint
            · rw [Nat.eq_of_beq_eq_true heven] at hstep
              omega
            · have hpoint := Nat.eq_of_beq_eq_true hpoint
              omega
        cases hmiss : Nat.beq ((low + k - s.first) % s.step) 0 with
        | false => rfl
        | true => exact absurd (Nat.eq_of_beq_eq_true hmiss) hodd

/-- Where a span leads, lowercasing has nothing left to do. -/
def CaseSpan.isClosed (s : CaseSpan) : Bool :=
  avoids s.lower (s.lower + (s.last - s.first)) s.step caseSpans &&
  (Nat.blt (s.lower + (s.last - s.first)) 0x130 || Nat.blt 0x130 s.lower) &&
  (Nat.blt (s.lower + (s.last - s.first)) 0x3A3 || Nat.blt 0x3A3 s.lower) &&
  (Nat.blt (s.lower + (s.last - s.first)) 0xD800 ||
    (Nat.blt 0xDFFF s.lower && Nat.blt (s.lower + (s.last - s.first)) 0x110000))

theorem caseSpans_isClosed : caseSpans.all CaseSpan.isClosed = true := by decide +kernel

/-- A code point is kept, or it lies in a span. -/
theorem lowerCode_cases (n : Nat) (spans : List CaseSpan) :
    lowerCode n spans = n ∨ ∃ s ∈ spans, ∃ k ≤ s.last - s.first, k % s.step = 0 ∧
      lowerCode n spans = s.lower + k := by
  induction spans with
  | nil => exact Or.inl rfl
  | cons s spans ih =>
    unfold lowerCode
    cases hbelow : Nat.blt n s.first with
    | true => exact Or.inl rfl
    | false =>
      cases hwithin : Nat.ble n s.last with
      | true =>
        cases hstep : Nat.beq ((n - s.first) % s.step) 0 with
        | true =>
          have hlast := Nat.le_of_ble_eq_true hwithin
          refine Or.inr ⟨s, List.mem_cons_self, n - s.first, by omega, ?_, rfl⟩
          exact Nat.eq_of_beq_eq_true hstep
        | false => exact Or.inl rfl
      | false =>
        rcases ih with hkeep | ⟨t, ht, hspan⟩
        · exact Or.inl hkeep
        · exact Or.inr ⟨t, List.mem_cons_of_mem s ht, hspan⟩

/-- Lowercasing keeps the character in every context. -/
def Lowered (c : Char) : Prop := c ≠ capitalSigma ∧ lowerChar c = [c]

instance (c : Char) : Decidable (Lowered c) := inferInstanceAs (Decidable (_ ∧ _))

theorem CaseSpan.lowered_of_isClosed {s : CaseSpan} (h : s.isClosed = true) {k : Nat}
    (hk : k ≤ s.last - s.first) (hstep : k % s.step = 0) : Lowered (Char.ofNat (s.lower + k)) := by
  simp only [isClosed, Bool.and_eq_true, Bool.or_eq_true, Nat.blt_eq] at h
  obtain ⟨⟨⟨havoids, hdot⟩, hsigma⟩, hrange⟩ := h
  have hvalid : (s.lower + k).isValidChar := by
    unfold Nat.isValidChar
    omega
  have hnat := toNat_ofNat hvalid
  constructor
  · intro heq
    rw [heq] at hnat
    have hcode : capitalSigma.toNat = 0x3A3 := rfl
    omega
  · unfold lowerChar
    rw [hnat, if_neg (by omega), lowerCode_of_avoids havoids (by omega) hstep]

theorem lowered_of_mem_lowerChar {c d : Char} (hc : c ≠ capitalSigma) (hd : d ∈ lowerChar c) :
    Lowered d := by
  unfold lowerChar at hd
  split at hd
  next =>
    have hboth : Lowered 'i' ∧ Lowered (Char.ofNat 0x307) := by decide +kernel
    rcases List.mem_cons.mp hd with rfl | hd
    · exact hboth.1
    · rw [List.mem_singleton.mp hd]
      exact hboth.2
  next hdot =>
    obtain rfl := List.mem_singleton.mp hd
    rcases lowerCode_cases c.toNat caseSpans with hkeep | ⟨s, hs, k, hk, hstep, hcode⟩
    · rw [hkeep, Char.ofNat_toNat]
      refine ⟨hc, ?_⟩
      unfold lowerChar
      rw [if_neg hdot, hkeep, Char.ofNat_toNat]
    · rw [hcode]
      exact s.lowered_of_isClosed (List.all_eq_true.mp caseSpans_isClosed s hs) hk hstep

theorem lowered_lowerSigma (before after : List Char) : Lowered (lowerSigma before after) := by
  have hboth : Lowered (Char.ofNat 0x3C2) ∧ Lowered (Char.ofNat 0x3C3) := by decide +kernel
  unfold lowerSigma
  split
  · exact hboth.1
  · exact hboth.2

theorem lowered_of_mem_lowercaseAfter {before s : List Char} {d : Char}
    (hd : d ∈ lowercaseAfter before s) : Lowered d := by
  induction s generalizing before with
  | nil => exact absurd hd List.not_mem_nil
  | cons c s ih =>
    unfold lowercaseAfter at hd
    rcases List.mem_append.mp hd with hd | hd
    · split at hd
      next =>
        obtain rfl := List.mem_singleton.mp hd
        exact lowered_lowerSigma before s
      next hc => exact lowered_of_mem_lowerChar hc hd
    · exact ih hd

theorem lowercaseAfter_of_lowered {s : List Char} (h : ∀ c ∈ s, Lowered c)
    (before : List Char) : lowercaseAfter before s = s := by
  induction s generalizing before with
  | nil => rfl
  | cons c s ih =>
    obtain ⟨hsigma, hchar⟩ := h c List.mem_cons_self
    unfold lowercaseAfter
    rw [if_neg hsigma, hchar, ih fun d hd => h d (List.mem_cons_of_mem c hd)]
    rfl

/-- Lowercasing twice is lowercasing once. -/
@[simp] theorem lowercase_lowercase (s : List Char) : lowercase (lowercase s) = lowercase s :=
  lowercaseAfter_of_lowered (fun _ hc => lowered_of_mem_lowercaseAfter hc) []

end Stemming.Text
