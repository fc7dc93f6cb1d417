import Mathlib.Algebra.Group.Nat.Defs
import Stemming.Config

/-! The numbers of the configuration. They are read digit by digit, and a value above the limit is
given up at the digit where it gets there. Since values only grow from digit to digit, this refuses
exactly the numbers above the limit, and zeros in front cost nothing. -/
namespace Stemming

/-- A text spells a number: no sign or one plus, then digits, at least one, of that value. -/
def Spells (s : List Char) (n : Nat) : Prop :=
  ∃ sign digits, s = sign ++ digits ∧ (sign = [] ∨ sign = ['+']) ∧ digits ≠ [] ∧
    (∀ c ∈ digits, '0' ≤ c ∧ c ≤ '9') ∧ Nat.ofDigitChars 10 digits 0 = n

theorem isDigit_iff {c : Char} : isDigit c = true ↔ '0' ≤ c ∧ c ≤ '9' := by
  simp [isDigit]

theorem toNat_of_isDigit {c : Char} (h : isDigit c = true) : 48 ≤ c.toNat ∧ c.toNat ≤ 57 :=
  isDigit_iff.mp h

/-- The value is never less than that of the digits read before. -/
theorem le_ofDigitChars (cs : List Char) (n : Nat) : n ≤ Nat.ofDigitChars 10 cs n := by
  rw [Nat.ofDigitChars_eq_ofDigitChars_zero]
  have hpos : 0 < 10 ^ cs.length := Nat.pow_pos (by decide)
  have hle := Nat.le_mul_of_pos_left n hpos
  omega

/-- Checking the value at each digit is checking it at the end. -/
theorem readDigits?_eq_some_iff {limit n v : Nat} {cs : List Char} (hn : n ≤ limit) :
    readDigits? limit n cs = some v ↔
      (∀ c ∈ cs, isDigit c = true) ∧ Nat.ofDigitChars 10 cs n = v ∧ v ≤ limit := by
  induction cs generalizing n with
  | nil =>
    simp only [readDigits?, Option.some.injEq, List.not_mem_nil, false_implies, implies_true,
      Nat.ofDigitChars_nil, true_and]
    exact ⟨fun h => ⟨h, h ▸ hn⟩, And.left⟩
  | cons c cs ih =>
    rw [readDigits?, Nat.ofDigitChars_cons, List.forall_mem_cons]
    by_cases hc : isDigit c = true ∧ 10 * n + (c.toNat - '0'.toNat) ≤ limit
    · rw [if_pos hc, ih hc.2]
      simp [hc.1]
    · rw [if_neg hc]
      constructor
      · intro h
        cases h
      · rintro ⟨⟨hdigit, -⟩, rfl, hv⟩
        -- The value would have to come down again to end within the limit.
        exact absurd ⟨hdigit, Nat.le_trans (le_ofDigitChars cs _) hv⟩ hc

/-- A digit is no plus sign, so the sign is taken off where there is one and nowhere else. -/
theorem readUnsigned?_append {limit : Nat} {sign digits : List Char}
    (hsign : sign = [] ∨ sign = ['+']) (hne : digits ≠ [])
    (hdigits : ∀ c ∈ digits, isDigit c = true) :
    readUnsigned? limit (sign ++ digits) = readDigits? limit 0 digits := by
  rcases hsign with rfl | rfl
  · have hhead : digits.head? ≠ some '+' := by
      intro h
      exact absurd (hdigits '+' (List.mem_of_mem_head? h)) (by decide)
    simp [readUnsigned?, hhead, hne]
  · simp [readUnsigned?, hne]

theorem readUnsigned?_eq_some_iff {limit v : Nat} {s : List Char} :
    readUnsigned? limit s = some v ↔ Spells s v ∧ v ≤ limit := by
  constructor
  · intro h
    simp only [readUnsigned?, Option.ite_none_left_eq_some] at h
    obtain ⟨hne, hread⟩ := h
    obtain ⟨hdigits, hvalue, hle⟩ := (readDigits?_eq_some_iff (Nat.zero_le limit)).mp hread
    refine ⟨⟨if s.head? = some '+' then ['+'] else [], _, ?_, ?_, hne,
      fun c hc => isDigit_iff.mp (hdigits c hc), hvalue⟩, hle⟩
    · split
      next hplus =>
        obtain ⟨rest, rfl⟩ := List.head?_eq_some_iff.mp hplus
        rfl
      next => rfl
    · split
      · exact Or.inr rfl
      · exact Or.inl rfl
  · rintro ⟨⟨sign, digits, rfl, hsign, hne, hdigits, hvalue⟩, hle⟩
    have hdigits : ∀ c ∈ digits, isDigit c = true := fun c hc => isDigit_iff.mpr (hdigits c hc)
    rw [readUnsigned?_append hsign hne hdigits]
    exact (readDigits?_eq_some_iff (Nat.zero_le limit)).mpr ⟨hdigits, hvalue, hle⟩

theorem toDigits_of_isDigit {c : Char} (h : isDigit c = true) :
    Nat.toDigits 10 (c.toNat - '0'.toNat) = [c] := by
  have hrange := toNat_of_isDigit h
  have hzero : '0'.toNat = 48 := rfl
  have hlt : c.toNat - '0'.toNat < 10 := by omega
  rw [Nat.toDigits_of_lt_base hlt, List.singleton_inj, ← Char.toNat_inj,
    Nat.toNat_digitChar_of_lt_ten hlt]
  omega

/-- Digits behind those of a number other than zero are the digits of a larger number. -/
theorem toDigits_append {cs : List Char} (hdigits : ∀ c ∈ cs, isDigit c = true) {n : Nat}
    (hn : 0 < n) : Nat.toDigits 10 n ++ cs = Nat.toDigits 10 (Nat.ofDigitChars 10 cs n) := by
  induction cs generalizing n with
  | nil => simp
  | cons c cs ih =>
    obtain ⟨hc, hcs⟩ := List.forall_mem_cons.mp hdigits
    have hrange := toNat_of_isDigit hc
    have hzero : '0'.toNat = 48 := rfl
    calc Nat.toDigits 10 n ++ c :: cs
        = (Nat.toDigits 10 n ++ Nat.toDigits 10 (c.toNat - '0'.toNat)) ++ cs := by
          rw [toDigits_of_isDigit hc, List.append_assoc, List.singleton_append]
      _ = Nat.toDigits 10 (10 * n + (c.toNat - '0'.toNat)) ++ cs := by
          rw [Nat.toDigits_append_toDigits (by decide) hn (by omega)]
      _ = Nat.toDigits 10 (Nat.ofDigitChars 10 (c :: cs) n) := by
          rw [ih hcs (by omega), Nat.ofDigitChars_cons]

/-- Zeros in front apart, digits are those of their value. -/
theorem exists_zeros {cs : List Char} (hdigits : ∀ c ∈ cs, isDigit c = true) (hne : cs ≠ []) :
    ∃ zeros, cs = List.replicate zeros '0' ++ Nat.toDigits 10 (Nat.ofDigitChars 10 cs 0) := by
  induction cs with
  | nil => exact absurd rfl hne
  | cons c cs ih =>
    obtain ⟨hc, hcs⟩ := List.forall_mem_cons.mp hdigits
    have hzero : '0'.toNat = 48 := rfl
    rw [Nat.ofDigitChars_cons, Nat.mul_zero, Nat.zero_add]
    by_cases hlead : c = '0'
    · subst hlead
      by_cases hrest : cs = []
      · exact ⟨0, by rw [hrest]; rfl⟩
      · obtain ⟨zeros, hzeros⟩ := ih hcs hrest
        refine ⟨zeros + 1, ?_⟩
        rw [List.replicate_succ, List.cons_append, Nat.sub_self, ← hzeros]
    · have hpos : 0 < c.toNat - '0'.toNat := by
        have hrange := toNat_of_isDigit hc
        have hcode : c.toNat ≠ '0'.toNat := fun h => hlead (Char.toNat_inj.mp h)
        omega
      refine ⟨0, ?_⟩
      rw [← toDigits_append hcs hpos, toDigits_of_isDigit hc]
      rfl

/-- The spellings of a number are its decimal digits behind any number of zeros and an optional plus
sign. -/
theorem spells_iff {s : List Char} {n : Nat} :
    Spells s n ↔ ∃ sign zeros, (sign = [] ∨ sign = ['+']) ∧
      s = sign ++ (List.replicate zeros '0' ++ Nat.toDigits 10 n) := by
  constructor
  · rintro ⟨sign, digits, rfl, hsign, hne, hdigits, rfl⟩
    obtain ⟨zeros, hzeros⟩ := exists_zeros (fun c hc => isDigit_iff.mpr (hdigits c hc)) hne
    exact ⟨sign, zeros, hsign, congrArg (sign ++ ·) hzeros⟩
  · rintro ⟨sign, zeros, hsign, rfl⟩
    refine ⟨sign, _, rfl, hsign, by simp [Nat.toDigits_ne_nil], ?_, ?_⟩
    · intro c hc
      rcases List.mem_append.mp hc with hc | hc
      · rw [List.eq_of_mem_replicate hc]
        decide
      · exact isDigit_iff.mp (Nat.isDigit_of_mem_toDigits (by decide) (by decide) hc)
    · rw [Nat.ofDigitChars_append, Nat.ofDigitChars_replicate_zero, Nat.mul_zero,
        Nat.ofDigitChars_ten_toDigits]

namespace Config

/-- What is read from a variable, by its spellings. -/
theorem bind_readUnsigned?_eq_some_iff (limit : Nat) (value : Option String) (v : Nat) :
    (value.bind fun s => readUnsigned? limit s.toList) = some v ↔
      ∃ s, value = some s ∧ Spells s.toList v ∧ v ≤ limit := by
  simp only [Option.bind_eq_some_iff, readUnsigned?_eq_some_iff]

theorem filter_readUnsigned?_eq_some_iff (limit : Nat) (value : Option String) (v : Nat) :
    (value.bind fun s => readUnsigned? limit s.toList).filter (0 < ·) = some v ↔
      ∃ s, value = some s ∧ Spells s.toList v ∧ 1 ≤ v ∧ v ≤ limit := by
  rw [Option.filter_eq_some_iff, bind_readUnsigned?_eq_some_iff]
  constructor
  · rintro ⟨⟨s, hs, hspells, hle⟩, hpos⟩
    exact ⟨s, hs, hspells, of_decide_eq_true hpos, hle⟩
  · rintro ⟨s, hs, hspells, hpos, hle⟩
    exact ⟨⟨s, hs, hspells, hle⟩, decide_eq_true hpos⟩

/-- A setting is the number that a text gives for it, and the default if no text gives one. -/
theorem getD_of_eq_some_iff {read : Option Nat} {gives : String → Nat → Prop}
    (h : ∀ v, read = some v ↔ ∃ s, gives s v) (default : Nat) :
    (∀ s v, gives s v → read.getD default = v) ∧
      ((¬∃ s v, gives s v) → read.getD default = default) := by
  constructor
  · intro s v hgives
    rw [(h v).mpr ⟨s, hgives⟩, Option.getD_some]
  · intro hother
    cases hread : read with
    | none => rfl
    | some v =>
      obtain ⟨s, hgives⟩ := (h v).mp hread
      exact absurd ⟨s, v, hgives⟩ hother

theorem one_le_readMaxTokens (value : Option String) : 1 ≤ readMaxTokens value := by
  unfold readMaxTokens
  cases h : (value.bind fun s => readUnsigned? greatestMaxTokens s.toList).filter (0 < ·) with
  | none => decide
  | some v =>
    obtain ⟨-, -, -, hpos, -⟩ := (filter_readUnsigned?_eq_some_iff _ _ v).mp h
    exact hpos

/-- For all flags and every environment, the port and the cap of a configuration are the numbers that
their variables spell, if these are within the limits, and the defaults in every other case. So the
cap is never zero. The spellings of a number are its decimal digits behind any number of zeros and
an optional plus sign. -/
theorem numbers_by_spelling (flags : Flags) (env : Environment) :
    (∀ s v, env "PORT" = some s → Spells s.toList v → v ≤ 65535 →
      (load flags env).port = v) ∧
    ((¬∃ s v, env "PORT" = some s ∧ Spells s.toList v ∧ v ≤ 65535) →
      (load flags env).port = 8080) ∧
    (∀ s v, env "ARIVU_MAX_TOKENS" = some s → Spells s.toList v → 1 ≤ v → v ≤ 2 ^ 64 - 1 →
      (load flags env).maxTokens = v) ∧
    ((¬∃ s v, env "ARIVU_MAX_TOKENS" = some s ∧ Spells s.toList v ∧ 1 ≤ v ∧ v ≤ 2 ^ 64 - 1) →
      (load flags env).maxTokens = 10000) ∧
    1 ≤ (load flags env).maxTokens ∧
    ∀ (s : List Char) (v : Nat), Spells s v ↔ ∃ sign zeros, (sign = [] ∨ sign = ['+']) ∧
      s = sign ++ (List.replicate zeros '0' ++ Nat.toDigits 10 v) := by
  obtain ⟨hport, hotherPort⟩ := getD_of_eq_some_iff
    (bind_readUnsigned?_eq_some_iff greatestPort (env "PORT")) defaultPort
  obtain ⟨hcap, hotherCap⟩ := getD_of_eq_some_iff
    (filter_readUnsigned?_eq_some_iff greatestMaxTokens (env "ARIVU_MAX_TOKENS")) defaultMaxTokens
  refine ⟨?_, hotherPort, ?_, hotherCap, one_le_readMaxTokens _, fun _ _ => spells_iff⟩
  · intro s v henv hs hv
    exact hport s v ⟨henv, hs, hv⟩
  · intro s v henv hs hpos hv
    exact hcap s v ⟨henv, hs, hpos, hv⟩

/-- The greatest numbers, with zeros in front, and the least ones beyond them. -/
theorem numbers_by_spelling_limits :
    let within : Environment := fun name =>
      if name = "PORT" then some "+00065535" else some "018446744073709551615"
    let beyond : Environment := fun name =>
      if name = "PORT" then some "65536" else some "18446744073709551616"
    Spells "+00065535".toList 65535 ∧ (load {} within).port = 65535 ∧
    Spells "018446744073709551615".toList (2 ^ 64 - 1) ∧
    (load {} within).maxTokens = 2 ^ 64 - 1 ∧
    (¬∃ s v, beyond "PORT" = some s ∧ Spells s.toList v ∧ v ≤ 65535) ∧
    (load {} beyond).port = 8080 ∧
    (¬∃ s v, beyond "ARIVU_MAX_TOKENS" = some s ∧ Spells s.toList v ∧ 1 ≤ v ∧ v ≤ 2 ^ 64 - 1) ∧
    (load {} beyond).maxTokens = 10000 := by
  intro within beyond
  have hport : Spells "+00065535".toList 65535 :=
    (readUnsigned?_eq_some_iff.mp (by decide +kernel : readUnsigned? 65535 _ = some 65535)).1
  have hcap : Spells "018446744073709551615".toList (2 ^ 64 - 1) :=
    (readUnsigned?_eq_some_iff.mp
      (by decide +kernel : readUnsigned? (2 ^ 64 - 1) _ = some (2 ^ 64 - 1))).1
  have hbeyondPort : ¬∃ s v, beyond "PORT" = some s ∧ Spells s.toList v ∧ v ≤ 65535 := by
    rintro ⟨s, v, hs, hspells, hle⟩
    obtain rfl : "65536" = s := Option.some.inj hs
    have hnone : readUnsigned? 65535 "65536".toList = none := by decide +kernel
    cases hnone.symm.trans (readUnsigned?_eq_some_iff.mpr ⟨hspells, hle⟩)
  have hbeyondCap : ¬∃ s v, beyond "ARIVU_MAX_TOKENS" = some s ∧ Spells s.toList v ∧ 1 ≤ v ∧
      v ≤ 2 ^ 64 - 1 := by
    rintro ⟨s, v, hs, hspells, -, hle⟩
    obtain rfl : "18446744073709551616" = s := Option.some.inj hs
    have hnone : readUnsigned? (2 ^ 64 - 1) "18446744073709551616".toList = none := by
      decide +kernel
    cases hnone.symm.trans (readUnsigned?_eq_some_iff.mpr ⟨hspells, hle⟩)
  obtain ⟨hreadPort, -, hreadCap, -⟩ := numbers_by_spelling {} within
  obtain ⟨-, hdefaultPort, -, hdefaultCap, -⟩ := numbers_by_spelling {} beyond
  exact ⟨hport, hreadPort _ _ rfl hport (by decide), hcap,
    hreadCap _ _ rfl hcap (by decide) (by decide), hbeyondPort, hdefaultPort hbeyondPort,
    hbeyondCap, hdefaultCap hbeyondCap⟩

end Config

end Stemming
