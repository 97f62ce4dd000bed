import Mathlib.Tactic.Lemma
import PageSearch.Json.Reader

/-!
# How strings are written in JSON

A string is written mark by mark. A character stands for itself, unless it is a quote, a backslash
or a control character; eight characters have a short escape; and four hexadecimal digits in either
letter case write a unit of UTF-16. A character up to U+FFFF is one unit, any other a pair of them.
Reading a string gives what its marks spell, and refuses marks that spell nothing because half of a
pair stands alone.
-/

namespace PageSearch.Json

/-- A hexadecimal digit; letters may be capital. -/
structure HexDigit where
  value : Fin 16
  capital : Bool

namespace HexDigit

def char (d : HexDigit) : Char :=
  (if d.capital then "0123456789ABCDEF" else "0123456789abcdef").toList.getD d.value.val '0'

/-- A hexadecimal digit is read as its value. -/
lemma hexDigit?_char (d : HexDigit) : hexDigit? d.char = some d.value.val := by
  have all : ∀ v : Fin 16, ∀ capital, hexDigit? (char ⟨v, capital⟩) = some v.val := by decide
  exact all d.value d.capital

end HexDigit

/-- A unit of UTF-16, written with four digits. -/
structure CodeUnit where
  first : HexDigit
  second : HexDigit
  third : HexDigit
  fourth : HexDigit

namespace CodeUnit

def number (u : CodeUnit) : Nat :=
  ((u.first.value.val * 16 + u.second.value.val) * 16 + u.third.value.val) * 16 + u.fourth.value.val

def text (u : CodeUnit) : List Char :=
  [u.first.char, u.second.char, u.third.char, u.fourth.char]

/-- Four of them are read as a code unit. -/
lemma hexUnit?_char (u : CodeUnit) :
    hexUnit? u.first.char u.second.char u.third.char u.fourth.char = some u.number := by
  simp only [hexUnit?, HexDigit.hexDigit?_char]
  rfl

/-- A code unit has sixteen bits. -/
lemma number_lt (u : CodeUnit) : u.number < 0x10000 := by
  have first := u.first.value.isLt
  have second := u.second.value.isLt
  have third := u.third.value.isLt
  have fourth := u.fourth.value.isLt
  unfold number
  omega

end CodeUnit

/-- The characters with a short escape, after the letters that stand for them. -/
def shortEscapes : List (Char × Char) :=
  [('"', '"'), ('\\', '\\'), ('/', '/'), ('b', '\x08'), ('f', '\x0c'), ('n', '\n'), ('r', '\r'),
    ('t', '\t')]

/-- A short escape is read as its character. -/
lemma escaped?_of_mem {e : Char × Char} (mem : e ∈ shortEscapes) : escaped? e.1 = some e.2 := by
  have all : ∀ e ∈ shortEscapes, escaped? e.1 = some e.2 := by decide
  exact all e mem

/-- No short escape looks like the beginning of a code unit. -/
lemma ne_of_mem_shortEscapes {e : Char × Char} (mem : e ∈ shortEscapes) : e.1 ≠ 'u' := by
  have all : ∀ e ∈ shortEscapes, e.1 ≠ 'u' := by decide
  exact all e mem

/-- A character that stands for itself. -/
def isOrdinary (c : Char) : Bool :=
  c != '"' && c != '\\' && !isControl c

/-- A mark in a string. -/
inductive Mark where
  | plain (c : Char) (ordinary : isOrdinary c = true)
  | short (e : Char × Char) (mem : e ∈ shortEscapes)
  | unit (u : CodeUnit)

namespace Mark

def text : Mark → List Char
  | plain c _ => [c]
  | short e _ => ['\\', e.1]
  | unit u => '\\' :: 'u' :: u.text

def piece : Mark → Piece
  | plain c _ => .char c
  | short e _ => .char e.2
  | unit u => .unit u.number

/-- A mark is read as one piece. -/
lemma pieces?_text_append (m : Mark) (rest : List Char) :
    pieces? (m.text ++ rest) = (pieces? rest).map fun (ps, rest) => (m.piece :: ps, rest) := by
  cases m with
  | plain c ordinary =>
    simp only [isOrdinary, Bool.and_eq_true, bne_iff_ne, Bool.not_eq_true'] at ordinary
    obtain ⟨⟨noQuote, noBackslash⟩, noControl⟩ := ordinary
    rw [text, List.singleton_append, pieces?.eq_def]
    simp only [noQuote, noBackslash, noControl, if_false, Bool.false_eq_true]
    cases pieces? rest <;> rfl
  | short e mem =>
    rw [text, List.cons_append, List.singleton_append, pieces?.eq_def]
    simp only [ne_of_mem_shortEscapes mem, escaped?_of_mem mem, if_false]
    cases pieces? rest <;> rfl
  | unit u =>
    rw [text, CodeUnit.text, pieces?.eq_def]
    simp only [List.cons_append, List.nil_append, u.hexUnit?_char]
    cases pieces? rest <;> rfl

end Mark

/-- A string as it is written. -/
structure Spelling where
  marks : List Mark

/-- Some marks spell some characters. -/
inductive SpellsChars : List Mark → List Char → Prop where
  | nil : SpellsChars [] []
  | plain {c ordinary marks cs} :
    SpellsChars marks cs → SpellsChars (.plain c ordinary :: marks) (c :: cs)
  | short {e mem marks cs} :
    SpellsChars marks cs → SpellsChars (.short e mem :: marks) (e.2 :: cs)
  | unit {u : CodeUnit} {c : Char} {marks cs} :
    u.number = c.toNat → SpellsChars marks cs → SpellsChars (.unit u :: marks) (c :: cs)
  | pair {high low : CodeUnit} {c : Char} {marks cs} :
    0x10000 ≤ c.toNat → high.number = 0xd800 + (c.toNat - 0x10000) / 0x400 →
    low.number = 0xdc00 + (c.toNat - 0x10000) % 0x400 → SpellsChars marks cs →
    SpellsChars (.unit high :: .unit low :: marks) (c :: cs)

/-- A character is no half of a pair. -/
lemma isValidChar_toNat (c : Char) :
    c.toNat < 0xd800 ∨ 0xdfff < c.toNat ∧ c.toNat < 0x110000 :=
  c.valid

/-- A valid code point is that of its character. -/
lemma toNat_ofNat {n : Nat} (valid : n.isValidChar) : (Char.ofNat n).toNat = n := by
  rw [Char.ofNat, dif_pos valid]
  rfl

/-- The number of the character that two halves of a pair stand for. -/
def paired (n m : Nat) : Nat :=
  0x10000 + (n - 0xd800) * 0x400 + (m - 0xdc00)

/-- A code unit that is no half of a pair is a character. -/
lemma joinPieces?_unit {n : Nat} (lone : n < 0xd800 ∨ 0xdfff < n) (rest : List Piece) :
    joinPieces? (.unit n :: rest) = (joinPieces? rest).map (Char.ofNat n :: ·) := by
  rw [joinPieces?.eq_def]
  simp only [lone, if_true]

/-- A half needs its other half after it. -/
lemma joinPieces?_half {n : Nat} (half : ¬ (n < 0xd800 ∨ 0xdfff < n)) {rest : List Piece} {cs}
    (h : joinPieces? (.unit n :: rest) = some cs) :
    ∃ m rest', rest = .unit m :: rest' ∧ (n < 0xdc00 ∧ 0xdc00 ≤ m ∧ m ≤ 0xdfff) ∧
      (joinPieces? rest').map (Char.ofNat (paired n m) :: ·) = some cs := by
  rw [joinPieces?.eq_def] at h
  simp only [half, if_false] at h
  split at h
  case h_1 m rest' =>
    split at h
    case isTrue pair => exact ⟨m, rest', rfl, pair, h⟩
    case isFalse => cases h
  case h_2 => cases h

/-- Two halves make one character. -/
lemma joinPieces?_pair {n m : Nat} (high : 0xd800 ≤ n ∧ n < 0xdc00) (low : 0xdc00 ≤ m ∧ m ≤ 0xdfff)
    (rest : List Piece) :
    joinPieces? (.unit n :: .unit m :: rest) =
      (joinPieces? rest).map (Char.ofNat (paired n m) :: ·) := by
  have half : ¬ (n < 0xd800 ∨ 0xdfff < n) := by omega
  rw [joinPieces?.eq_def]
  simp only [half, high.2, low, and_self, if_true, if_false]
  rfl

/-- Marks that spell characters are read as these. -/
lemma SpellsChars.joinPieces? {marks : List Mark} {cs : List Char} (h : SpellsChars marks cs) :
    joinPieces? (marks.map Mark.piece) = some cs := by
  induction h with
  | nil => rfl
  | plain _ ih => simp [Mark.piece, Json.joinPieces?, ih]
  | short _ ih => simp [Mark.piece, Json.joinPieces?, ih]
  | @unit u c marks cs eq _ ih =>
    have lone : u.number < 0xd800 ∨ 0xdfff < u.number := by
      have valid := isValidChar_toNat c
      omega
    rw [List.map_cons, Mark.piece, joinPieces?_unit lone, ih, eq, Char.ofNat_toNat]
    rfl
  | @pair u v c marks cs above high low _ ih =>
    have valid := isValidChar_toNat c
    -- The two halves have ten bits each of what is above 0x10000.
    have number : paired u.number v.number = c.toNat := by
      unfold paired
      omega
    rw [List.map_cons, List.map_cons, Mark.piece, Mark.piece,
      joinPieces?_pair (by omega) (by omega), ih, number, Char.ofNat_toNat]
    rfl

/-- Marks that are read as characters spell them. The recursion takes two marks at a pair. -/
lemma spellsChars_of_joinPieces? : ∀ {marks : List Mark} {cs : List Char},
    joinPieces? (marks.map Mark.piece) = some cs → SpellsChars marks cs
  | [], cs, h => by
    cases h
    exact .nil
  | .plain c ordinary :: marks, cs, h => by
    obtain ⟨cs', read, rfl⟩ := Option.map_eq_some_iff.mp h
    exact .plain (spellsChars_of_joinPieces? read)
  | .short e mem :: marks, cs, h => by
    obtain ⟨cs', read, rfl⟩ := Option.map_eq_some_iff.mp h
    exact .short (spellsChars_of_joinPieces? read)
  | .unit u :: marks, cs, h => by
    rw [List.map_cons, Mark.piece] at h
    have bound := u.number_lt
    by_cases lone : u.number < 0xd800 ∨ 0xdfff < u.number
    · rw [joinPieces?_unit lone] at h
      obtain ⟨cs', read, rfl⟩ := Option.map_eq_some_iff.mp h
      have valid : u.number.isValidChar := by
        unfold Nat.isValidChar
        omega
      exact .unit (toNat_ofNat valid).symm (spellsChars_of_joinPieces? read)
    · -- A half is read only together with the other half after it.
      obtain ⟨m, rest, eq, pair, joined⟩ := joinPieces?_half lone h
      match marks with
      | .unit v :: marks =>
        rw [List.map_cons, Mark.piece] at eq
        cases eq
        obtain ⟨cs', read, rfl⟩ := Option.map_eq_some_iff.mp joined
        have valid : (paired u.number v.number).isValidChar := by
          unfold Nat.isValidChar paired
          omega
        have number := toNat_ofNat valid
        unfold paired at number ⊢
        refine .pair ?_ ?_ ?_ (spellsChars_of_joinPieces? read)
        all_goals omega

namespace Spelling

def text (s : Spelling) : List Char :=
  s.marks.flatMap Mark.text

/-- The marks of a string spell its characters. -/
def Spells (s : Spelling) (string : String) : Prop :=
  SpellsChars s.marks string.toList

/-- The string that some marks spell, if they spell one. -/
def string? (s : Spelling) : Option String :=
  (joinPieces? (s.marks.map Mark.piece)).map String.ofList

/-- What is read is what is spelled, and nothing else is read. -/
lemma string?_eq_some_iff {s : Spelling} {string : String} :
    s.string? = some string ↔ s.Spells string := by
  constructor
  · intro h
    obtain ⟨cs, read, rfl⟩ := Option.map_eq_some_iff.mp h
    rw [Spells, String.toList_ofList]
    exact spellsChars_of_joinPieces? read
  · intro h
    rw [string?, h.joinPieces?, Option.map_some, String.ofList_toList]

/-- A spelling spells one string. -/
lemma Spells.eq {s : Spelling} {string string' : String} (h : s.Spells string)
    (h' : s.Spells string') : string = string' := by
  have same := (string?_eq_some_iff.mpr h).symm.trans (string?_eq_some_iff.mpr h')
  exact Option.some.inj same

/-- A text that needs no escapes, as it stands. -/
def plain (string : String) (ordinary : string.toList.all isOrdinary = true) : Spelling :=
  ⟨string.toList.pmap Mark.plain (List.all_eq_true.mp ordinary)⟩

/-- Ordinary characters spell themselves. -/
lemma spellsChars_plain : ∀ {cs : List Char} (ordinary : ∀ c ∈ cs, isOrdinary c = true),
    SpellsChars (cs.pmap Mark.plain ordinary) cs
  | [], _ => .nil
  | c :: _, ordinary =>
    .plain (spellsChars_plain fun d mem => ordinary d (List.mem_cons_of_mem c mem))

/-- A string of ordinary characters can be written as it is. -/
lemma plain_spells {string : String} (ordinary : string.toList.all isOrdinary = true) :
    (plain string ordinary).Spells string :=
  spellsChars_plain _

/-- Every string can be written. -/
lemma exists_spells (string : String) : ∃ s : Spelling, s.Spells string := by
  suffices all : ∀ cs, ∃ marks, SpellsChars marks cs by
    obtain ⟨marks, spells⟩ := all string.toList
    exact ⟨⟨marks⟩, spells⟩
  intro cs
  induction cs with
  | nil => exact ⟨[], .nil⟩
  | cons c cs ih =>
    obtain ⟨marks, spells⟩ := ih
    -- A quote and a backslash have short escapes, and an ordinary character needs none.
    by_cases quote : c = '"'
    · subst quote
      exact ⟨.short ('"', '"') (by decide) :: marks, .short spells⟩
    by_cases backslash : c = '\\'
    · subst backslash
      exact ⟨.short ('\\', '\\') (by decide) :: marks, .short spells⟩
    cases control : isControl c with
    | false =>
      have ordinary : isOrdinary c = true := by simp [isOrdinary, quote, backslash, control]
      exact ⟨.plain c ordinary :: marks, .plain spells⟩
    | true =>
      -- A control character is below 32, so that two digits are enough.
      have low : c.toNat < 0x20 := by simpa [isControl] using control
      let u : CodeUnit := ⟨⟨0, false⟩, ⟨0, false⟩, ⟨⟨c.toNat / 16, by omega⟩, false⟩,
        ⟨⟨c.toNat % 16, by omega⟩, false⟩⟩
      have number : u.number = c.toNat := by
        show ((0 * 16 + 0) * 16 + c.toNat / 16) * 16 + c.toNat % 16 = c.toNat
        omega
      exact ⟨.unit u :: marks, .unit number spells⟩

/-- A spelling is read up to the closing quote. -/
lemma stringBody?_text (s : Spelling) (rest : List Char) :
    stringBody? (s.text ++ '"' :: rest) = s.string?.map (·, rest) := by
  have pieces : pieces? (s.text ++ '"' :: rest) = some (s.marks.map Mark.piece, rest) := by
    unfold text
    induction s.marks with
    | nil =>
      rw [List.flatMap_nil, List.nil_append, pieces?.eq_def]
      rfl
    | cons m marks ih =>
      rw [List.flatMap_cons, List.append_assoc, m.pieces?_text_append, ih]
      rfl
  rw [stringBody?, pieces, string?]
  show (joinPieces? _ >>= fun chars => some (String.ofList chars, rest)) = _
  cases joinPieces? (s.marks.map Mark.piece) <;> rfl

end Spelling
end PageSearch.Json
