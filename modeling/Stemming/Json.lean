import Stemming.Number

/-! JSON values with their compact text, and the lexemes of JSON text that is read. Reading stops at
the first lexeme that is ill-formed. -/
namespace Stemming

inductive Json where
  | null
  | str (text : List Char)
  | arr (items : List Json)
  | obj (fields : List (String × Json))

namespace Json

/-- Control characters are escaped, all others but the quote and the backslash stand as they
are. -/
def escapeChar (c : Char) : List Char :=
  if c = '"' then ['\\', '"']
  else if c = '\\' then ['\\', '\\']
  else if 0x20 ≤ c.toNat then [c]
  else if c.toNat = 0x8 then ['\\', 'b']
  else if c.toNat = 0x9 then ['\\', 't']
  else if c.toNat = 0xA then ['\\', 'n']
  else if c.toNat = 0xC then ['\\', 'f']
  else if c.toNat = 0xD then ['\\', 'r']
  else ['\\', 'u', '0', '0', Nat.digitChar (c.toNat / 16), Nat.digitChar (c.toNat % 16)]

def renderString (s : List Char) : List Char := ['"'] ++ s.flatMap escapeChar ++ ['"']

mutual

def render : Json → List Char
  | null => "null".toList
  | str s => renderString s
  | arr items => ['['] ++ [','].intercalate (renderItems items) ++ [']']
  | obj fields => ['{'] ++ [','].intercalate (renderFields fields) ++ ['}']

def renderItems : List Json → List (List Char)
  | [] => []
  | item :: items => render item :: renderItems items

def renderFields : List (String × Json) → List (List Char)
  | [] => []
  | (name, value) :: fields =>
    (renderString name.toList ++ [':'] ++ render value) :: renderFields fields

end

def strings (ss : List (List Char)) : Json := arr (ss.map str)

/-- A unit of a string: a byte as it stands, or the code unit of a numbered escape. -/
inductive Piece where
  | byte (b : UInt8)
  | unit (n : Nat)

inductive Lexeme where
  | openArray | closeArray | openObject | closeObject | comma | colon
  | null
  | bool (b : Bool)
  /-- `none` for a numeral that is out of range. -/
  | number (value : Option Number)
  /-- `none` for a string that holds no valid text. -/
  | string (text : Option (List Char))
  | bad

def hexUnit? (a b c d : UInt8) : Option Nat := do
  pure ((((← hexValue? a) * 16 + (← hexValue? b)) * 16 + (← hexValue? c)) * 16 + (← hexValue? d))

/-- The byte that a one-letter escape stands for. -/
def simpleEscape? (b : UInt8) : Option UInt8 :=
  [(34, 34), (92, 92), (47, 47), (98, 8), (102, 12), (110, 10), (114, 13), (116, 9)].lookup b

def consPiece (p : Option Piece) (tail : Option (List Piece) × Bytes) :
    Option (List Piece) × Bytes :=
  (p.bind fun p => tail.1.map (p :: ·), tail.2)

/-- Reads a string behind its opening quote. Control characters and unknown escapes are
refused. -/
def scanString : Bytes → Option (List Piece) × Bytes
  | [] => (none, [])
  | 34 :: rest => (some [], rest)
  | 92 :: 117 :: a :: b :: c :: d :: rest =>
    consPiece ((hexUnit? a b c d).map Piece.unit) (scanString rest)
  | 92 :: e :: rest => consPiece ((simpleEscape? e).map Piece.byte) (scanString rest)
  | b :: rest => consPiece (if b = 92 || b < 32 then none else some (.byte b)) (scanString rest)

theorem scanString_length_le (bs : Bytes) : (scanString bs).2.length ≤ bs.length := by
  fun_induction scanString bs with
  | case1 => simp
  | case2 => simp
  | case3 a b c d rest ih => simp only [consPiece, List.length_cons]; omega
  | case4 e rest _ ih => simp only [consPiece, List.length_cons]; omega
  | case5 b rest _ _ _ ih => simp only [consPiece, List.length_cons]; omega

def isHighSurrogate (n : Nat) : Bool := 0xD800 ≤ n && n < 0xDC00

def isLowSurrogate (n : Nat) : Bool := 0xDC00 ≤ n && n < 0xE000

/-- The bytes of a string. Surrogates have to come in pairs. -/
def pieceBytes? : List Piece → Option Bytes
  | [] => some []
  | .byte b :: pieces => (pieceBytes? pieces).map (b :: ·)
  | .unit high :: .unit low :: pieces =>
    if isHighSurrogate high then
      if isLowSurrogate low then
        let code := 0x10000 + (high - 0xD800) * 0x400 + (low - 0xDC00)
        (pieceBytes? pieces).map (String.utf8EncodeChar (Char.ofNat code) ++ ·)
      else none
    else if isLowSurrogate high then none
    else (pieceBytes? (.unit low :: pieces)).map (String.utf8EncodeChar (Char.ofNat high) ++ ·)
  | .unit n :: pieces =>
    if isHighSurrogate n || isLowSurrogate n then none
    else (pieceBytes? pieces).map (String.utf8EncodeChar (Char.ofNat n) ++ ·)

def stringLexeme (pieces : List Piece) : Lexeme := .string ((pieceBytes? pieces).bind Utf8.decode?)

/-- Reads the rest of a literal name. -/
def scanName (rest : String) (l : Lexeme) (bs : Bytes) : Option Lexeme × Bytes :=
  let name := Utf8.encode rest.toList
  (if name.isPrefixOf bs then some l else none, bs.drop name.length)

def punctuation? (b : UInt8) : Option Lexeme :=
  if b = 91 then some .openArray
  else if b = 93 then some .closeArray
  else if b = 123 then some .openObject
  else if b = 125 then some .closeObject
  else if b = 44 then some .comma
  else if b = 58 then some .colon
  else none

def scanNumber (negative : Bool) (bs : Bytes) : Option Lexeme × Bytes :=
  let (numeral, rest) := Numeral.scan negative bs
  (numeral.map fun n => .number n.value, rest)

/-- Reads the lexeme that starts with byte `b`. -/
def scan (b : UInt8) (bs : Bytes) : Option Lexeme × Bytes :=
  match punctuation? b with
  | some l => (some l, bs)
  | none =>
    if b = 34 then
      let (pieces, rest) := scanString bs
      (pieces.map stringLexeme, rest)
    else if b = 45 then scanNumber true bs
    else if Numeral.isDigitByte b then scanNumber false (b :: bs)
    else if b = 110 then scanName "ull" .null bs
    else if b = 116 then scanName "rue" (.bool true) bs
    else if b = 102 then scanName "alse" (.bool false) bs
    else (none, bs)

theorem scan_length_le (b : UInt8) (bs : Bytes) : (scan b bs).2.length ≤ bs.length := by
  rw [scan]
  split
  · exact Nat.le_refl _
  · split
    · exact scanString_length_le bs
    split
    · exact Nat.le_trans (Numeral.scan_length_le true bs) (Numeral.takeDigits_length_le bs)
    split
    · next digit =>
      exact Nat.le_trans (Numeral.scan_length_le false (b :: bs))
        (Numeral.takeDigits_cons_length_le digit bs)
    split
    · exact (List.drop_suffix _ _).length_le
    split
    · exact (List.drop_suffix _ _).length_le
    split
    · exact (List.drop_suffix _ _).length_le
    · exact Nat.le_refl _

def isSpaceByte (b : UInt8) : Bool := b = 32 || b = 9 || b = 10 || b = 13

/-- The lexemes of a text, with `bad` in the place of the first ill-formed one. -/
def lex : Bytes → List Lexeme
  | [] => []
  | b :: bs =>
    if isSpaceByte b then lex bs
    else
      match (scan b bs).1 with
      | some l => l :: lex (scan b bs).2
      | none => [.bad]
termination_by bs => bs.length
decreasing_by
  · simp
  · exact Nat.lt_succ_of_le (scan_length_le b bs)

end Json

end Stemming
