import Mathlib.Data.List.Forall2
import Stemming.Http.Batch
import Stemming.Proofs.Utf8

/-! JSON text read back. What the service writes is read by any client as the value that was
written, and a batch that a client writes is read by the service. Both are shown through the lexemes
of a value: the text has these lexemes, and a reader of lexemes finds the value in them. -/
namespace Stemming

namespace Json

/-- What stands around the value that is being read. -/
inductive Open where
  | array (before : List Json)
  /-- The fields before the one whose value is being read, and its name. -/
  | object (before : List (String × Json)) (name : String)

mutual

/-- Reads a value from its first lexeme on. -/
def readValue (outer : List Open) : List Lexeme → Option Json
  | .null :: ls => readAfter null outer ls
  | .string (some s) :: ls => readAfter (str s) outer ls
  | .openArray :: .closeArray :: ls => readAfter (arr []) outer ls
  | .openArray :: ls => readValue (.array [] :: outer) ls
  | .openObject :: .closeObject :: ls => readAfter (obj []) outer ls
  | .openObject :: .string (some name) :: .colon :: ls =>
    readValue (.object [] (String.ofList name) :: outer) ls
  | _ => none

/-- Reads on behind a value, to the end of what is open around it. -/
def readAfter (value : Json) : List Open → List Lexeme → Option Json
  | [], [] => some value
  | .array before :: outer, .comma :: ls => readValue (.array (before ++ [value]) :: outer) ls
  | .array before :: outer, .closeArray :: ls => readAfter (arr (before ++ [value])) outer ls
  | .object before name :: outer, .comma :: .string (some next) :: .colon :: ls =>
    readValue (.object (before ++ [(name, value)]) (String.ofList next) :: outer) ls
  | .object before name :: outer, .closeObject :: ls =>
    readAfter (obj (before ++ [(name, value)])) outer ls
  | _, _ => none

end

/-- The value that a text holds, if it is built of texts, arrays, objects and nulls. -/
def read? (text : Bytes) : Option Json := readValue [] (lex text)

theorem consPiece_some (p : Piece) (tail : Option (List Piece) × Bytes) :
    consPiece (some p) tail = (tail.1.map (p :: ·), tail.2) := rfl

/-- Bytes that need no escape are pieces of their own. -/
theorem scanString_plain {bs : Bytes} (h : ∀ b ∈ bs, b ≠ 34 ∧ b ≠ 92 ∧ ¬b < 32) (rest : Bytes) :
    scanString (bs ++ rest) =
      ((scanString rest).1.map (bs.map Piece.byte ++ ·), (scanString rest).2) := by
  induction bs with
  | nil => simp
  | cons b bs ih =>
    obtain ⟨⟨hquote, hbackslash, hcontrol⟩, hbs⟩ := List.forall_mem_cons.mp h
    have hb : scanString (b :: (bs ++ rest)) =
        consPiece (some (.byte b)) (scanString (bs ++ rest)) := by
      simp [scanString, hbackslash, hcontrol]
    rw [List.cons_append, hb, ih hbs, consPiece_some]
    simp [Function.comp_def]

theorem pieceBytes?_bytes (bs : Bytes) (pieces : List Piece) :
    pieceBytes? (bs.map Piece.byte ++ pieces) = (pieceBytes? pieces).map (bs ++ ·) := by
  induction bs with
  | nil => simp
  | cons b bs ih => simp [pieceBytes?, ih, Function.comp_def]

/-- A code unit that is no surrogate is a character, whatever follows it. -/
theorem pieceBytes?_unit {n : Nat} (h : n < 0xD800) (pieces : List Piece) :
    pieceBytes? (.unit n :: pieces) =
      (pieceBytes? pieces).map (String.utf8EncodeChar (Char.ofNat n) ++ ·) := by
  have hhigh : isHighSurrogate n = false := by
    simp only [isHighSurrogate, Bool.and_eq_false_imp, decide_eq_true_eq, decide_eq_false_iff_not]
    omega
  have hlow : isLowSurrogate n = false := by
    simp only [isLowSurrogate, Bool.and_eq_false_imp, decide_eq_true_eq, decide_eq_false_iff_not]
    omega
  rcases pieces with _ | ⟨_ | low, pieces⟩ <;> simp [pieceBytes?, hhigh, hlow]

/-- Between quotes the bytes stand for the character: they are read as pieces that make up its
encoding, whatever follows. -/
def Escapes (bs : Bytes) (c : Char) : Prop :=
  ∃ pieces : List Piece,
    (∀ rest, scanString (bs ++ rest) =
      ((scanString rest).1.map (pieces ++ ·), (scanString rest).2)) ∧
    ∀ others, pieceBytes? (pieces ++ others) =
      (pieceBytes? others).map (String.utf8EncodeChar c ++ ·)

/-- A character that needs no escape. -/
theorem escapes_plain {c : Char} (hquote : c ≠ '"') (hbackslash : c ≠ '\\')
    (hprintable : 0x20 ≤ c.toNat) : Escapes (String.utf8EncodeChar c) c := by
  refine ⟨_, scanString_plain fun b hb => ?_, pieceBytes?_bytes _⟩
  -- A byte below 128 is the whole character, so it is not one that has to be escaped.
  have hne (d : Char) (hd : c ≠ d) (hsmall : b.toNat < 0x80) : b.toNat ≠ d.toNat := by
    intro h
    apply hd
    rw [← Char.ofNat_toNat c, ← Char.ofNat_toNat d, ← h,
      Utf8.toNat_of_mem_encodeChar hsmall hb]
  refine ⟨?_, ?_, ?_⟩
  · rintro rfl
    exact hne '"' hquote (by decide) rfl
  · rintro rfl
    exact hne '\\' hbackslash (by decide) rfl
  · intro hlt
    have hlt : b.toNat < 0x20 := UInt8.lt_iff_toNat_lt.mp hlt
    have := Utf8.toNat_of_mem_encodeChar (by omega) hb
    omega

/-- A character that is named by a letter behind a backslash. -/
theorem escapes_simple {e b : UInt8} {c : Char} (he : simpleEscape? e = some b) (hu : e ≠ 117)
    (hb : b.toNat < 0x80) (hc : c.toNat = b.toNat) : Escapes [92, e] c := by
  refine ⟨[.byte b], fun rest => ?_, fun others => ?_⟩
  · have hscan : scanString (92 :: e :: rest) =
        consPiece ((simpleEscape? e).map Piece.byte) (scanString rest) := by
      rw [scanString]
      intro _ _ _ _ _ h
      exact absurd h hu
    simp [hscan, he, consPiece_some]
  · have hbyte := Utf8.encodeChar_ascii hb
    rw [← hc, Char.ofNat_toNat] at hbyte
    simp [pieceBytes?, hbyte]

theorem map_hexValue?_digitChar : ∀ d < 16,
    (String.utf8EncodeChar (Nat.digitChar d)).map hexValue? = [some d] := by decide

/-- A character that is named by its number. -/
theorem escapes_numbered {c : Char} (h : c.toNat < 0x20) :
    Escapes (Utf8.encode ['\\', 'u', '0', '0', Nat.digitChar (c.toNat / 16),
      Nat.digitChar (c.toNat % 16)]) c := by
  have hdigit (d : Nat) (hd : d < 16) :=
    List.map_eq_singleton_iff.mp (map_hexValue?_digitChar d hd)
  obtain ⟨x, hx, hhigh⟩ := hdigit (c.toNat / 16) (by omega)
  obtain ⟨y, hy, hlow⟩ := hdigit (c.toNat % 16) (by omega)
  have hunit : hexUnit? 48 48 x y = some c.toNat := by
    have hzero : hexValue? 48 = some 0 := by decide
    simp only [hexUnit?, hzero, hhigh, hlow, Option.bind_eq_bind, Option.bind_some, Option.pure_def,
      Option.some.injEq]
    omega
  have hbytes (rest : Bytes) : Utf8.encode ['\\', 'u', '0', '0', Nat.digitChar (c.toNat / 16),
      Nat.digitChar (c.toNat % 16)] ++ rest = 92 :: 117 :: 48 :: 48 :: x :: y :: rest := by
    simp only [Utf8.encode, List.flatMap_cons, hx, hy]
    rfl
  refine ⟨[.unit c.toNat], fun rest => ?_, fun others => ?_⟩
  · rw [hbytes, scanString, hunit, Option.map_some, consPiece_some]
    rfl
  · rw [List.singleton_append, pieceBytes?_unit (by omega), Char.ofNat_toNat]

theorem escapes_escapeChar (c : Char) : Escapes (Utf8.encode (escapeChar c)) c := by
  unfold escapeChar
  split_ifs with hquote hbackslash hprintable hb ht hn hf hr
  · exact escapes_simple (e := 34) rfl (by decide) (by decide) (congrArg Char.toNat hquote)
  · exact escapes_simple (e := 92) rfl (by decide) (by decide) (congrArg Char.toNat hbackslash)
  · rw [Utf8.encode_singleton]
    exact escapes_plain hquote hbackslash hprintable
  · exact escapes_simple (e := 98) rfl (by decide) (by decide) hb
  · exact escapes_simple (e := 116) rfl (by decide) (by decide) ht
  · exact escapes_simple (e := 110) rfl (by decide) (by decide) hn
  · exact escapes_simple (e := 102) rfl (by decide) (by decide) hf
  · exact escapes_simple (e := 114) rfl (by decide) (by decide) hr
  · exact escapes_numbered (by omega)

/-- A whole text between quotes. -/
theorem scanString_escaped (s : List Char) :
    ∃ pieces : List Piece, pieceBytes? pieces = some (Utf8.encode s) ∧ ∀ rest,
      scanString (Utf8.encode (s.flatMap escapeChar) ++ 34 :: rest) = (some pieces, rest) := by
  induction s with
  | nil => exact ⟨[], rfl, fun rest => by simp [Utf8.encode, scanString]⟩
  | cons c s ih =>
    obtain ⟨others, hothers, hs⟩ := ih
    obtain ⟨pieces, hscan, hbytes⟩ := escapes_escapeChar c
    refine ⟨pieces ++ others, ?_, fun rest => ?_⟩
    · rw [hbytes, hothers, Option.map_some, Utf8.encode_cons]
    · rw [List.flatMap_cons, Utf8.encode_append, List.append_assoc, hscan, hs, Option.map_some]

/-- The text is read as the lexemes, whatever follows it. -/
def Lexes (text : List Char) (ls : List Lexeme) : Prop :=
  ∀ rest, lex (Utf8.encode text ++ rest) = ls ++ lex rest

theorem lex_cons {b : UInt8} {bs rest : Bytes} {l : Lexeme} (hspace : isSpaceByte b = false)
    (h : scan b bs = (some l, rest)) : lex (b :: bs) = l :: lex rest := by
  rw [lex]
  simp [hspace, h]

theorem lexes_null : Lexes "null".toList [.null] := fun _ => lex_cons rfl rfl

theorem lexes_renderString (s : List Char) : Lexes (renderString s) [.string (some s)] := by
  intro rest
  obtain ⟨pieces, hbytes, hscan⟩ := scanString_escaped s
  have htext : Utf8.encode (renderString s) ++ rest =
      34 :: (Utf8.encode (s.flatMap escapeChar) ++ 34 :: rest) := by
    simp only [renderString, Utf8.encode_append, List.append_assoc]
    rfl
  have hlexeme : stringLexeme pieces = .string (some s) := by
    simp [stringLexeme, hbytes, Utf8.decode?_encode]
  rw [htext]
  apply lex_cons rfl
  simp [scan, punctuation?, hscan, hlexeme]

theorem Lexes.append {text more : List Char} {ls others : List Lexeme} (h : Lexes text ls)
    (hmore : Lexes more others) : Lexes (text ++ more) (ls ++ others) := by
  intro rest
  rw [Utf8.encode_append, List.append_assoc, h, hmore, List.append_assoc]

theorem Lexes.intercalate {texts : List (List Char)} {parts : List (List Lexeme)}
    (h : List.Forall₂ Lexes texts parts) :
    Lexes ([','].intercalate texts) ([.comma].intercalate parts) := by
  have hcomma : Lexes [','] [.comma] := fun _ => lex_cons rfl rfl
  induction h with
  | nil => exact fun _ => rfl
  | @cons text part texts parts hhead htail ih =>
    cases htail with
    | nil => simpa using hhead
    | cons hnext hrest =>
      rw [List.intercalate_cons_cons, List.intercalate_cons_cons]
      exact (hhead.append hcomma).append ih

mutual

/-- The lexemes of a value's text. -/
def lexemes : Json → List Lexeme
  | null => [.null]
  | str s => [.string (some s)]
  | arr items => [.openArray] ++ [.comma].intercalate (itemLexemes items) ++ [.closeArray]
  | obj fields => [.openObject] ++ [.comma].intercalate (fieldLexemes fields) ++ [.closeObject]

def itemLexemes : List Json → List (List Lexeme)
  | [] => []
  | item :: items => lexemes item :: itemLexemes items

def fieldLexemes : List (String × Json) → List (List Lexeme)
  | [] => []
  | (name, value) :: fields =>
    ([.string (some name.toList)] ++ [.colon] ++ lexemes value) :: fieldLexemes fields

end

-- By the shape of the value, as rendering recurs.
mutual

theorem lexes_render : (value : Json) → Lexes value.render value.lexemes
  | null => by
    rw [render, lexemes]
    exact lexes_null
  | str s => by
    rw [render, lexemes]
    exact lexes_renderString s
  | arr items => by
    have hopen : Lexes ['['] [.openArray] := fun _ => lex_cons rfl rfl
    have hclose : Lexes [']'] [.closeArray] := fun _ => lex_cons rfl rfl
    rw [render, lexemes]
    exact (hopen.append (.intercalate (lexes_renderItems items))).append hclose
  | obj fields => by
    have hopen : Lexes ['{'] [.openObject] := fun _ => lex_cons rfl rfl
    have hclose : Lexes ['}'] [.closeObject] := fun _ => lex_cons rfl rfl
    rw [render, lexemes]
    exact (hopen.append (.intercalate (lexes_renderFields fields))).append hclose

theorem lexes_renderItems : (items : List Json) →
    List.Forall₂ Lexes (renderItems items) (itemLexemes items)
  | [] => by
    rw [renderItems, itemLexemes]
    exact .nil
  | item :: items => by
    rw [renderItems, itemLexemes]
    exact .cons (lexes_render item) (lexes_renderItems items)

theorem lexes_renderFields : (fields : List (String × Json)) →
    List.Forall₂ Lexes (renderFields fields) (fieldLexemes fields)
  | [] => by
    rw [renderFields, fieldLexemes]
    exact .nil
  | (name, value) :: fields => by
    have hcolon : Lexes [':'] [.colon] := fun _ => lex_cons rfl rfl
    rw [renderFields, fieldLexemes]
    exact .cons (((lexes_renderString _).append hcolon).append (lexes_render value))
      (lexes_renderFields fields)

end

/-- Behind the first of several parts, a comma stands before each. -/
theorem intercalate_cons {α : Type} (comma : α) (part : List α) (parts : List (List α)) :
    [comma].intercalate (part :: parts) = part ++ parts.flatMap (comma :: ·) := by
  induction parts generalizing part with
  | nil => simp
  | cons next parts ih => simp [List.intercalate_cons_cons, ih]

theorem readValue_openArray {ls : List Lexeme} (h : ls.head? ≠ some .closeArray)
    (outer : List Open) :
    readValue outer (.openArray :: ls) = readValue (.array [] :: outer) ls := by
  rw [readValue]
  rintro rest rfl
  exact h rfl

theorem head?_lexemes_append (value : Json) (ls : List Lexeme) :
    (value.lexemes ++ ls).head? ≠ some .closeArray := by
  cases value <;> simp [lexemes]

-- The reader is followed from a value to what is open around it, so the rest and the open values
-- stay general; an array or object is closed where its own items or fields end.
mutual

theorem readValue_lexemes (outer : List Open) (ls : List Lexeme) : (value : Json) →
    readValue outer (value.lexemes ++ ls) = readAfter value outer ls
  | null => by simp [lexemes, readValue]
  | str s => by simp [lexemes, readValue]
  | arr [] => by simp [lexemes, itemLexemes, readValue]
  | arr (item :: items) => by
    simp only [lexemes, itemLexemes, intercalate_cons, List.append_assoc, List.nil_append,
      List.cons_append]
    rw [readValue_openArray (head?_lexemes_append item _), readValue_lexemes _ _ item,
      readAfter_items _ _ _ _ items]
    rfl
  | obj [] => by simp [lexemes, fieldLexemes, readValue]
  | obj ((name, value) :: fields) => by
    simp only [lexemes, fieldLexemes, intercalate_cons, List.append_assoc, List.nil_append,
      List.cons_append]
    rw [readValue, String.ofList_toList, readValue_lexemes _ _ value,
      readAfter_fields _ _ _ _ _ fields]
    rfl

theorem readAfter_items (outer : List Open) (before : List Json) (value : Json) (ls : List Lexeme) :
    (items : List Json) → readAfter value (.array before :: outer)
      ((itemLexemes items).flatMap (.comma :: ·) ++ .closeArray :: ls) =
        readAfter (arr (before ++ value :: items)) outer ls
  | [] => by simp [itemLexemes, readAfter]
  | item :: items => by
    simp only [itemLexemes, List.flatMap_cons, List.cons_append, List.append_assoc]
    rw [readAfter, readValue_lexemes _ _ item, readAfter_items _ _ _ _ items]
    simp

theorem readAfter_fields (outer : List Open) (before : List (String × Json)) (name : String)
    (value : Json) (ls : List Lexeme) : (fields : List (String × Json)) →
    readAfter value (.object before name :: outer)
      ((fieldLexemes fields).flatMap (.comma :: ·) ++ .closeObject :: ls) =
        readAfter (obj (before ++ (name, value) :: fields)) outer ls
  | [] => by simp [fieldLexemes, readAfter]
  | (next, value) :: fields => by
    simp only [fieldLexemes, List.flatMap_cons, List.cons_append, List.append_assoc, List.nil_append]
    rw [readAfter, String.ofList_toList, readValue_lexemes _ _ value,
      readAfter_fields _ _ _ _ _ fields]
    simp

end

/-- A rendered value is read back. -/
theorem read?_render (value : Json) : read? (Utf8.encode value.render) = some value := by
  have hlex : lex (Utf8.encode value.render) = value.lexemes ++ [] := by
    simpa [lex] using value.lexes_render []
  rw [read?, hlex, readValue_lexemes, readAfter]

/-- So different values have different texts. -/
theorem render_injective : Function.Injective render := by
  intro value other h
  have hread := value.read?_render
  rw [h, other.read?_render] at hread
  exact (Option.some.inj hread).symm

end Json

namespace Http

open Json (Lexeme)

theorem readItems_strings (path : String) (i : Nat) (word : Token) (words : List Token)
    (ls : List Lexeme) :
    readItems path i (.string (some word) ::
      ((Json.itemLexemes (words.map .str)).flatMap (.comma :: ·) ++ .closeArray :: ls)) =
        .ok (word :: words, ls) := by
  induction words generalizing i word with
  | nil => rfl
  | cons next words ih =>
    have hread := ih (i + 1) next
    simp only [List.map_cons, Json.itemLexemes, Json.lexemes, List.flatMap_cons, List.cons_append,
      List.nil_append] at hread ⊢
    rw [readItems, hread]
    rfl

theorem readTokens_strings (path : String) (words : List Token) (ls : List Lexeme) :
    readTokens path ((Json.strings words).lexemes ++ ls) = .ok (words, ls) := by
  cases words with
  | nil => rfl
  | cons word words =>
    have hread := readItems_strings path 0 word words ls
    simp only [Json.strings, List.map_cons, Json.lexemes, Json.itemLexemes, Json.intercalate_cons,
      List.append_assoc, List.cons_append, List.nil_append]
    rw [readTokens, hread]
    simp

theorem readFields_last {tokens found : Option (List Token)} {name : List Char}
    {ls rest : List Lexeme} (h : readField tokens name ls = .ok (found, .closeObject :: rest)) :
    readFields tokens (.string (some name) :: ls) = finishObject found rest := by
  rw [readFields]
  -- The definition keeps the equation of its match, so the field cannot be rewritten under it.
  split
  next heq => cases h.symm.trans heq
  next heq => cases h.symm.trans heq
  next heq =>
    cases h.symm.trans heq
    rfl
  next hclose heq =>
    cases h.symm.trans heq
    exact absurd rfl (hclose _ _)

/-- A batch in its usual form, an object with the tokens alone, is read as it was written. -/
theorem readBatch_tokens (words : List Token) :
    readBatch (Utf8.encode (Json.obj [("tokens", .strings words)]).render) = .ok words := by
  have hlex : Json.lex (Utf8.encode (Json.obj [("tokens", .strings words)]).render) =
      .openObject :: .string (some "tokens".toList) :: .colon ::
        ((Json.strings words).lexemes ++ [.closeObject]) := by
    simpa [Json.lex, Json.lexemes, Json.fieldLexemes] using
      (Json.obj [("tokens", .strings words)]).lexes_render []
  have hfield : readField none "tokens".toList
      (.colon :: ((Json.strings words).lexemes ++ [.closeObject])) =
        .ok (some words, [.closeObject]) := by
    rw [readField, if_pos rfl, readTokens_strings]
    rfl
  rw [readBatch, hlex, readBody, readFields_last hfield]
  · rfl
  · simp

end Http

end Stemming
