/-! Bytes: hexadecimal digits, lines, and UTF-8 with strict decoding and with decoding that replaces
what is ill-formed. -/
namespace Stemming

abbrev Bytes := List UInt8

/-- The value of a hexadecimal digit of either case. -/
def hexValue? (b : UInt8) : Option Nat :=
  if 48 ≤ b && b ≤ 57 then some (b.toNat - 48)
  else if 65 ≤ b && b ≤ 70 then some (b.toNat - 55)
  else if 97 ≤ b && b ≤ 102 then some (b.toNat - 87)
  else none

/-- The lines of a byte sequence. A line feed ends a line, together with one carriage return
before it; what follows the last line feed is a line of its own unless it is empty. -/
def lines : Bytes → List Bytes
  | [] => []
  | 13 :: 10 :: bs => [] :: lines bs
  | 10 :: bs => [] :: lines bs
  | b :: bs =>
    match lines bs with
    | [] => [[b]]
    | line :: rest => (b :: line) :: rest

namespace Utf8

def encode (s : List Char) : Bytes := s.flatMap String.utf8EncodeChar

/-- Reads `n` continuation bytes, the first of them between `low` and `high`. Stops in front of
the first byte that does not fit. -/
def continuation (low high : Nat) : Nat → Nat → Bytes → Option Nat × Bytes
  | 0, code, bs => (some code, bs)
  | _ + 1, _, [] => (none, [])
  | n + 1, code, b :: bs =>
    if low ≤ b.toNat && b.toNat ≤ high then
      continuation 0x80 0xBF n (code * 64 + (b.toNat - 0x80)) bs
    else (none, b :: bs)

/-- What a leading byte announces: the bounds of the next byte, the number of continuation bytes
and the leading bits of the code point. The bounds exclude overlong forms and surrogates. -/
structure Lead where
  low : Nat
  high : Nat
  count : Nat
  bits : Nat

def lead? (n : Nat) : Option Lead :=
  if n < 0xC2 then none
  else if n < 0xE0 then some ⟨0x80, 0xBF, 1, n - 0xC0⟩
  else if n = 0xE0 then some ⟨0xA0, 0xBF, 2, 0⟩
  else if n = 0xED then some ⟨0x80, 0x9F, 2, 0xD⟩
  else if n < 0xF0 then some ⟨0x80, 0xBF, 2, n - 0xE0⟩
  else if n = 0xF0 then some ⟨0x90, 0xBF, 3, 0⟩
  else if n < 0xF4 then some ⟨0x80, 0xBF, 3, n - 0xF0⟩
  else if n = 0xF4 then some ⟨0x80, 0x8F, 3, 4⟩
  else none

/-- Reads the code point that starts with byte `b`. On failure the result is `none` and the
rest behind the longest piece that could have begun a character. -/
def nextCode (b : UInt8) (bs : Bytes) : Option Nat × Bytes :=
  if b.toNat < 0x80 then (some b.toNat, bs)
  else
    match lead? b.toNat with
    | some l => continuation l.low l.high l.count l.bits bs
    | none => (none, bs)

theorem continuation_length_le (low high n code : Nat) (bs : Bytes) :
    (continuation low high n code bs).2.length ≤ bs.length := by
  fun_induction continuation low high n code bs with
  | case1 => simp
  | case2 => simp
  | case3 low high n code b bs _ ih => simp only [List.length_cons]; omega
  | case4 => simp

theorem nextCode_length_le (b : UInt8) (bs : Bytes) : (nextCode b bs).2.length ≤ bs.length := by
  rw [nextCode]
  split
  · exact Nat.le_refl _
  · split
    · exact continuation_length_le _ _ _ _ _
    · exact Nat.le_refl _

/-- The text encoded by the bytes, if they are well-formed. -/
def decode? : Bytes → Option (List Char)
  | [] => some []
  | b :: bs =>
    match (nextCode b bs).1 with
    | some code => (decode? (nextCode b bs).2).map (Char.ofNat code :: ·)
    | none => none
termination_by bs => bs.length
decreasing_by exact Nat.lt_succ_of_le (nextCode_length_le b bs)

def replacement : Char := Char.ofNat 0xFFFD

/-- The text encoded by the bytes, with a replacement character for each ill-formed piece. -/
def decodeLossy : Bytes → List Char
  | [] => []
  | b :: bs =>
    ((nextCode b bs).1.map Char.ofNat).getD replacement :: decodeLossy (nextCode b bs).2
termination_by bs => bs.length
decreasing_by exact Nat.lt_succ_of_le (nextCode_length_le b bs)

end Utf8

end Stemming
