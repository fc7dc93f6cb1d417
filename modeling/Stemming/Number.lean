import Stemming.Bytes

/-! Numbers and their decimal texts: unsigned whole numbers, the numerals of JSON and the numbers
they are read as, and the shortest text of a double. -/
namespace Stemming

def isDigit (c : Char) : Bool := '0' ≤ c && c ≤ '9'

/-- Reads on behind digits of value `n`. A digit that takes the value above the limit is refused. -/
def readDigits? (limit n : Nat) : List Char → Option Nat
  | [] => some n
  | c :: cs =>
    let value := 10 * n + (c.toNat - '0'.toNat)
    if isDigit c ∧ value ≤ limit then readDigits? limit value cs else none

/-- Reads one or more digits, with any number of leading zeros and one plus sign allowed in
front. Values above the limit are refused. -/
def readUnsigned? (limit : Nat) (s : List Char) : Option Nat :=
  let digits := if s.head? = some '+' then s.tail else s
  if digits = [] then none else readDigits? limit 0 digits

inductive Number where
  | integer (n : Int)
  | double (x : Float)

/-- A numeral by its digits. -/
structure Numeral where
  negative : Bool
  whole : List Nat
  fraction : List Nat
  /-- The sign and digits of the exponent. -/
  exponent : Option (Bool × List Nat)

namespace Numeral

def isDigitByte (b : UInt8) : Bool := 48 ≤ b && b ≤ 57

def takeDigits (bs : Bytes) : List Nat × Bytes :=
  ((bs.takeWhile isDigitByte).map fun b => b.toNat - 48, bs.dropWhile isDigitByte)

/-- The digits behind a point, if there is a point. -/
def scanFraction (bs : Bytes) : Option (List Nat) × Bytes :=
  match bs with
  | 46 :: rest =>
    match takeDigits rest with
    | ([], rest) => (none, rest)
    | (digits, rest) => (some digits, rest)
  | _ => (some [], bs)

def scanSign (bs : Bytes) : Bool × Bytes :=
  match bs with
  | 43 :: rest => (false, rest)
  | 45 :: rest => (true, rest)
  | _ => (false, bs)

/-- The exponent, if there is one. -/
def scanExponent (bs : Bytes) : Option (Option (Bool × List Nat)) × Bytes :=
  match bs with
  | b :: rest =>
    if b = 69 || b = 101 then
      let (negative, rest) := scanSign rest
      match takeDigits rest with
      | ([], rest) => (none, rest)
      | (digits, rest) => (some (some (negative, digits)), rest)
    else (some none, bs)
  | [] => (some none, [])

/-- Reads the digits of a numeral behind its sign. A zero in front of other digits is refused. -/
def scan (negative : Bool) (bs : Bytes) : Option Numeral × Bytes :=
  let (whole, rest) := takeDigits bs
  if whole = [] || (whole.head? = some 0 && 1 < whole.length) then (none, rest)
  else
    let (fraction, rest) := scanFraction rest
    let (exponent, rest) := scanExponent rest
    match fraction, exponent with
    | some fraction, some exponent => (some { negative, whole, fraction, exponent }, rest)
    | _, _ => (none, rest)

theorem takeDigits_length_le (bs : Bytes) : (takeDigits bs).2.length ≤ bs.length :=
  (List.dropWhile_suffix isDigitByte).length_le

theorem scanFraction_length_le (bs : Bytes) : (scanFraction bs).2.length ≤ bs.length := by
  rw [scanFraction.eq_def]
  split
  · next rest =>
    have := takeDigits_length_le rest
    split <;> next h => rw [h] at this; exact Nat.le_succ_of_le this
  · exact Nat.le_refl _

theorem scanSign_length_le (bs : Bytes) : (scanSign bs).2.length ≤ bs.length := by
  rw [scanSign.eq_def]
  split <;> simp

theorem scanExponent_length_le (bs : Bytes) : (scanExponent bs).2.length ≤ bs.length := by
  rw [scanExponent.eq_def]
  split
  · next b rest =>
    have sign := scanSign_length_le rest
    have digits := takeDigits_length_le (scanSign rest).2
    split
    · simp only []
      split <;> next h =>
        rw [h] at digits
        exact Nat.le_succ_of_le (Nat.le_trans digits sign)
    · exact Nat.le_refl _
  · exact Nat.le_refl _

theorem takeDigits_cons_length_le {b : UInt8} (h : isDigitByte b = true) (bs : Bytes) :
    (takeDigits (b :: bs)).2.length ≤ bs.length := by
  rw [takeDigits, List.dropWhile_cons_of_pos h]
  exact takeDigits_length_le bs

theorem scan_length_le (negative : Bool) (bs : Bytes) :
    (scan negative bs).2.length ≤ (takeDigits bs).2.length := by
  have fraction := scanFraction_length_le (takeDigits bs).2
  have exponent := scanExponent_length_le (scanFraction (takeDigits bs).2).2
  rw [scan]
  simp only []
  split
  · exact Nat.le_refl _
  · split <;> exact Nat.le_trans exponent fraction

/-- The greatest significand that is kept exactly. -/
def greatestSignificand : Nat := 0xFFFFFFFFFFFFFFFF

/-- Whole digits enter the significand while it stays in bounds; from the first that does not,
all are only counted. -/
def wholeSignificand (digits : List Nat) : Nat × Nat :=
  digits.foldl (fun (n, dropped) d =>
    if dropped = 0 && 10 * n + d ≤ greatestSignificand then (10 * n + d, 0) else (n, dropped + 1))
    (0, 0)

/-- Fraction digits enter the significand up to the first that would leave the bounds. The
second result counts them. -/
def addFraction (n : Nat) : List Nat → Nat × Nat
  | [] => (n, 0)
  | d :: digits =>
    if 10 * n + d ≤ greatestSignificand then
      let (m, count) := addFraction (10 * n + d) digits
      (m, count + 1)
    else (n, 0)

def tenTo (k : Nat) : Float := Float.ofScientific 1 false k

/-- The greatest power of ten that is a double. -/
def greatestPower : Nat := 308

/-- `x * 10 ^ e` by one multiplication or by divisions; `none` when it leaves the range. -/
def scaleByTen (x : Float) (e : Int) : Option Float :=
  if e.natAbs ≤ greatestPower then
    if 0 ≤ e then
      let y := x * tenTo e.natAbs
      if y.isInf then none else some y
    else some (x / tenTo e.natAbs)
  else if x == 0 then some x
  else if 0 ≤ e then none
  else scaleByTen (x / tenTo greatestPower) (e + greatestPower)
termination_by e.natAbs
decreasing_by simp only [greatestPower] at *; omega

/-- Exponents beyond this are taken as infinite. -/
def greatestExponent : Nat := 0x7FFFFFFF

def digitsNumber (digits : List Nat) : Nat := digits.foldl (fun n d => 10 * n + d) 0

/-- The double of a significand and a power of ten, with the numeral's own exponent added. -/
def toDouble (significand : Nat) (e : Int) (exponent : Option (Bool × List Nat)) :
    Option Float :=
  let x := (UInt64.ofNat significand).toFloat
  match exponent with
  | none => scaleByTen x e
  | some (negative, digits) =>
    let n := digitsNumber digits
    if greatestExponent < n then if significand ≠ 0 && !negative then none else some 0
    else scaleByTen x (if negative then e - n else e + n)

/-- Whole numerals in the range of 64 bits are integers, all others doubles. A negative zero is
a double. The result is `none` when the number is out of range. -/
def value (n : Numeral) : Option Number :=
  let (significand, dropped) := wholeSignificand n.whole
  let signed (x : Float) : Number := .double (if n.negative then -x else x)
  if n.fraction = [] && n.exponent.isNone && dropped = 0 then
    if !n.negative then some (.integer significand)
    else if 0 < significand && significand ≤ 0x8000000000000000 then some (.integer (-significand))
    else some (signed (UInt64.ofNat significand).toFloat)
  else
    let (significand, count) := addFraction significand n.fraction
    (toDouble significand (dropped - count) n.exponent).map signed

end Numeral

/-- A finite double without its sign: `mantissa * 2 ^ exponent`. -/
structure Binary where
  mantissa : Nat
  exponent : Int
  /-- The neighbour below is only half as far away as the one above. -/
  closeBelow : Bool

namespace Binary

/-- The bit above the stored fraction. -/
def hiddenBit : Nat := 0x10000000000000

def ofFloat (x : Float) : Binary :=
  let bits := x.toBits.toNat
  let fraction := bits % hiddenBit
  let biased := bits / hiddenBit % 0x800
  { mantissa := if biased = 0 then fraction else hiddenBit + fraction
    exponent := (max biased 1 : Nat) - (1075 : Int)
    closeBelow := fraction = 0 && 1 < biased }

/-- Numerator and denominator of an integer power. -/
def power (base : Nat) (e : Int) : Nat × Nat := (Nat.pow base e.toNat, Nat.pow base (-e).toNat)

/-- The number lies below `10 ^ k`. -/
def below (b : Binary) (k : Int) : Bool :=
  let (up, down) := power 2 b.exponent
  let (tens, tenths) := power 10 k
  b.mantissa * up * tenths < tens * down

/-- The least `k` with the number below `10 ^ k`. -/
def magnitude (b : Binary) : Int :=
  (((List.range 650).map fun i : Nat => (i : Int) - 330).find? b.below).getD 310

/-- The multiple of `10 ^ k` next to the number that reads back as it, if there is one. Of two
the nearer is taken, at equal distance the even one. -/
def onGrid? (b : Binary) (k : Int) : Option Nat :=
  let (up, down) := power 2 (b.exponent - 2)
  let (tens, tenths) := power 10 k
  let scale := up * tenths
  let unit := down * tens
  let value := 4 * b.mantissa * scale
  let low := (4 * b.mantissa - if b.closeBelow then 1 else 2) * scale
  let high := (4 * b.mantissa + 2) * scale
  let readsBack (n : Nat) : Bool :=
    if b.mantissa % 2 = 0 then low ≤ n * unit && n * unit ≤ high
    else low < n * unit && n * unit < high
  let under := value / unit
  match readsBack under, readsBack (under + 1) with
  | true, true =>
    let middle := (2 * under + 1) * unit
    if 2 * value < middle || (2 * value = middle && under % 2 = 0) then some under
    else some (under + 1)
  | true, false => some under
  | false, true => some (under + 1)
  | false, false => none

/-- The fewest decimal digits that read back, as a whole number and a power of ten. -/
def shortest (b : Binary) : Nat × Int :=
  let magnitude := b.magnitude
  ((List.range 17).findSome? fun n =>
    let k := magnitude - (n + 1 : Nat)
    (b.onGrid? k).map fun digits => (digits, k)).getD (b.mantissa, b.exponent)

end Binary

def dropTrailingZeros (digits : List Char) : List Char :=
  (digits.reverse.dropWhile (· == '0')).reverse

/-- A whole number with its sign, also when it is not negative. -/
def signedDigits (n : Int) : List Char :=
  (if n < 0 then '-' else '+') :: Nat.toDigits 10 n.natAbs

/-- Numbers from a hundred-thousandth up to `10 ^ 16` are written positionally with at least
one digit behind the point, all others with a signed exponent. -/
def layOut (digits : List Char) (k : Int) : List Char :=
  let point := digits.length + k
  if 0 ≤ k && point ≤ 16 then digits ++ List.replicate k.toNat '0' ++ ['.', '0']
  else if 0 < point && point ≤ 16 then
    digits.take point.toNat ++ ['.'] ++ digits.drop point.toNat
  else if -5 < point && point ≤ 0 then
    ['0', '.'] ++ List.replicate (-point).toNat '0' ++ digits
  else
    let exponent := 'e' :: signedDigits (point - 1)
    match digits with
    | first :: second :: rest => first :: '.' :: second :: rest ++ exponent
    | _ => digits ++ exponent

/-- The text of a finite double; zero keeps its sign. -/
def doubleText (x : Float) : List Char :=
  let sign := if x.toBits.toNat < 0x8000000000000000 then [] else ['-']
  let b := Binary.ofFloat x
  if b.mantissa = 0 then sign ++ ['0', '.', '0']
  else
    let (n, k) := b.shortest
    let all := Nat.toDigits 10 n
    let digits := dropTrailingZeros all
    sign ++ layOut digits (k + (all.length - digits.length : Nat))

end Stemming
