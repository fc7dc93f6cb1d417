import Stemming.Number
import Stemming.Text.Split

/-! Socket addresses: an IPv4 address, or an IPv6 address in brackets, and a port. The readers
return what follows the part they read. -/
namespace Stemming.SocketAddress

def digitValue? (radix : Nat) (c : Char) : Option Nat :=
  let value :=
    if isDigit c then c.toNat - '0'.toNat
    else if 'a' ≤ c && c ≤ 'f' then c.toNat - 'a'.toNat + 10
    else if 'A' ≤ c && c ≤ 'F' then c.toNat - 'A'.toNat + 10
    else radix
  if value < radix then some value else none

/-- What a number may look like. -/
structure NumberForm where
  radix : Nat
  limit : Nat
  maxDigits : Option Nat
  leadingZero : Bool

def readNumber (form : NumberForm) (s : List Char) : Option (List Char) :=
  let digits := s.takeWhile fun c => (digitValue? form.radix c).isSome
  let value := digits.foldl (fun n c => form.radix * n + (digitValue? form.radix c).getD 0) 0
  if digits ≠ [] ∧ value ≤ form.limit ∧ form.maxDigits.all (digits.length ≤ ·) ∧
      (form.leadingZero ∨ digits.length = 1 ∨ digits.head? ≠ some '0') then
    some (s.drop digits.length)
  else none

def octet : NumberForm := { radix := 10, limit := 255, maxDigits := some 3, leadingZero := false }

def group : NumberForm := { radix := 16, limit := 65535, maxDigits := some 4, leadingZero := true }

def portForm : NumberForm :=
  { radix := 10, limit := 65535, maxDigits := none, leadingZero := true }

def scopeForm : NumberForm :=
  { radix := 10, limit := 0xFFFFFFFF, maxDigits := none, leadingZero := true }

def readChar (c : Char) (s : List Char) : Option (List Char) :=
  match s with
  | d :: rest => if d = c then some rest else none
  | [] => none

def readIPv4 (s : List Char) : Option (List Char) := do
  let s ← readNumber octet s
  let s ← readNumber octet (← readChar '.' s)
  let s ← readNumber octet (← readChar '.' s)
  readNumber octet (← readChar '.' s)

/-- How many groups were read, whether they end in an IPv4 address, and what follows. -/
structure Groups where
  count : Nat
  endsIPv4 : Bool
  rest : List Char

/-- Reads up to `left` groups after `count` groups. Two groups may be written as an IPv4
address, which is then the last. -/
def readGroups (count : Nat) (s : List Char) : Nat → Groups
  | 0 => { count, endsIPv4 := false, rest := s }
  | left + 1 =>
    let here := if count = 0 then some s else readChar ':' s
    match if 0 < left then here.bind readIPv4 else none with
    | some rest => { count := count + 2, endsIPv4 := true, rest }
    | none =>
      match here.bind (readNumber group) with
      | some rest => readGroups (count + 1) rest left
      | none => { count, endsIPv4 := false, rest := s }

/-- Eight groups, or fewer with one double colon that stands for at least one group. -/
def readIPv6 (s : List Char) : Option (List Char) :=
  let head := readGroups 0 s 8
  if head.count = 8 then some head.rest
  else if head.endsIPv4 then none
  else do
    let s ← readChar ':' (← readChar ':' head.rest)
    some (readGroups 0 s (7 - head.count)).rest

/-- The scope behind an IPv6 address may be missing. -/
def readScope (s : List Char) : List Char :=
  ((readChar '%' s).bind (readNumber scopeForm)).getD s

def readPort (s : List Char) : Option (List Char) := readChar ':' s >>= readNumber portForm

def isV4 (s : List Char) : Bool := (readIPv4 s >>= readPort) == some []

def isV6 (s : List Char) : Bool :=
  (do readPort (← readChar ']' (readScope (← readIPv6 (← readChar '[' s))))) == some []

def isValid (s : List Char) : Bool := isV4 s || isV6 s

end Stemming.SocketAddress
