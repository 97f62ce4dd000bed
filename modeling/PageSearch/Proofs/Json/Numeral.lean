import Mathlib.Tactic.Lemma
import PageSearch.Json.Reader

/-!
# How numbers are written in JSON

A number is written with digits, of which the first is no needless zero, and may have a minus
before them and a fraction and a power of ten after them. Reading takes the whole of it wherever
what follows could not go on with it.
-/

namespace PageSearch.Json

/-- One or more digits. -/
structure Digits where
  chars : List Char
  digit : chars.all Char.isDigit = true
  ne_nil : chars ≠ []

/-- A power of ten as it is written. -/
structure Power where
  capital : Bool
  /-- A minus, a plus or neither. -/
  minus : Option Bool
  digits : Digits

/-- A number as it is written. -/
structure Numeral where
  minus : Bool
  whole : Digits
  noNeedlessZero : whole.chars.head? = some '0' → whole.chars = ['0']
  fraction : Option Digits
  power : Option Power

/-- A text does not start with a digit. -/
def NoDigit (s : List Char) : Prop :=
  ∀ c ∈ s.head?, c.isDigit = false

/-- A text does not start with anything that would go on with a number. -/
def EndsNumber (s : List Char) : Prop :=
  ∀ c ∈ s.head?, c.isDigit = false ∧ c ≠ '.' ∧ c ≠ 'e' ∧ c ≠ 'E'

/-- A character that cannot continue a number ends it. -/
lemma endsNumber_cons {c : Char} (ends : c.isDigit = false ∧ c ≠ '.' ∧ c ≠ 'e' ∧ c ≠ 'E')
    (s : List Char) : EndsNumber (c :: s) := by
  intro d head
  cases head
  exact ends

/-- After a number there is no digit. -/
lemma EndsNumber.noDigit {s : List Char} (h : EndsNumber s) : NoDigit s :=
  fun c mem => (h c mem).1

/-- All digits are read, and none is left. -/
lemma Digits.digits_append (ds : Digits) {rest : List Char} (ends : NoDigit rest) :
    digits (ds.chars ++ rest) = (ds.chars, rest) := by
  have stop : rest.takeWhile Char.isDigit = [] ∧ rest.dropWhile Char.isDigit = rest := by
    cases rest with
    | nil => exact ⟨rfl, rfl⟩
    | cons c rest =>
      have noDigit : c.isDigit = false := ends c rfl
      simp [noDigit]
  have all := List.all_eq_true.mp ds.digit
  rw [digits, List.takeWhile_append_of_pos all, List.dropWhile_append_of_pos all, stop.1, stop.2,
    List.append_nil]

/-- Digits start with no character that is none. -/
lemma Digits.append_ne_cons (ds : Digits) {c : Char} (noDigit : c.isDigit = false)
    (rest rest' : List Char) : ds.chars ++ rest ≠ c :: rest' := by
  intro eq
  cases h : ds.chars with
  | nil => exact ds.ne_nil h
  | cons d chars =>
    rw [h, List.cons_append] at eq
    have digit := List.all_eq_true.mp ds.digit d (by simp [h])
    rw [(List.cons.inj eq).1, noDigit] at digit
    cases digit

namespace Power

def signText (p : Power) : List Char :=
  match p.minus with
  | none => []
  | some true => ['-']
  | some false => ['+']

def text (p : Power) : List Char :=
  (if p.capital then 'E' else 'e') :: (p.signText ++ p.digits.chars)

/-- A power that is written is read. -/
lemma exponent?_text_append (p : Power) {rest : List Char} (ends : NoDigit rest) :
    exponent? (p.text ++ rest) = some (p.minus == some true, p.digits.chars, rest) := by
  have letter (b : Bool) : (if b then 'E' else 'e') = 'e' ∨ (if b then 'E' else 'e') = 'E' := by
    cases b <;> simp
  have filled : p.digits.chars.isEmpty = false := by simp [p.digits.ne_nil]
  have read := p.digits.digits_append ends
  rw [text, List.cons_append, List.append_assoc, exponent?.eq_def]
  simp only [letter, if_true]
  match h : p.minus with
  | none =>
    rw [signText, h, List.nil_append]
    split
    case h_1 rest' eq => exact absurd eq (p.digits.append_ne_cons rfl rest rest')
    case h_2 rest' eq => exact absurd eq (p.digits.append_ne_cons rfl rest rest')
    case h_3 => simp [read, filled]
  | some true => simp [signText, h, read, filled]
  | some false => simp [signText, h, read, filled]

end Power

namespace Numeral

def fractionText (n : Numeral) : List Char :=
  match n.fraction with
  | none => []
  | some ds => '.' :: ds.chars

def powerText (n : Numeral) : List Char :=
  match n.power with
  | none => []
  | some p => p.text

def text (n : Numeral) : List Char :=
  (if n.minus then ['-'] else []) ++ (n.whole.chars ++ (n.fractionText ++ n.powerText))

/-- The parts that reading takes from the number. -/
def literal (n : Numeral) : Literal where
  negative := n.minus
  whole := n.whole.chars
  fraction := (n.fraction.map Digits.chars).getD []
  exponentNegative := n.power.any (·.minus == some true)
  exponent := (n.power.map (·.digits.chars)).getD []

/-- A number starts with a minus or a digit, and with nothing else. -/
lemma text_eq_cons (n : Numeral) :
    ∃ c s, n.text = c :: s ∧ ∀ d, d ≠ '-' → d.isDigit = false → c ≠ d := by
  cases h : n.minus with
  | true => exact ⟨'-', _, by rw [text, h]; rfl, fun d noMinus _ => noMinus.symm⟩
  | false =>
    obtain ⟨c, digits, eq⟩ := List.exists_cons_of_ne_nil n.whole.ne_nil
    refine ⟨c, _, by rw [text, h, eq]; rfl, ?_⟩
    rintro d - noDigit rfl
    have digit := List.all_eq_true.mp n.whole.digit c (by simp [eq])
    rw [noDigit] at digit
    cases digit

/-- The whole part is read up to its last digit. -/
lemma whole?_append (n : Numeral) {rest : List Char} (ends : NoDigit rest) :
    whole? (n.whole.chars ++ rest) = some (n.whole.chars, rest) := by
  unfold whole?
  simp only [n.whole.digits_append ends]
  split
  case h_1 eq => exact absurd eq n.whole.ne_nil
  case h_2 => rfl
  case h_3 ds more other eq =>
    have alone := n.noNeedlessZero (by simp [eq])
    rw [eq] at alone
    exact absurd (List.cons.inj alone).2 other
  case h_4 => rfl

/-- The fraction is read if there is one, and otherwise nothing. -/
lemma fraction?_append (n : Numeral) {rest : List Char} (ends : NoDigit rest)
    (noPoint : ∀ rest', rest ≠ '.' :: rest') :
    fraction? (n.fractionText ++ rest) =
      some ((n.fraction.map Digits.chars).getD [], rest) := by
  match h : n.fraction with
  | none =>
    rw [fractionText, h, List.nil_append, fraction?.eq_def]
    split
    case h_1 rest' => exact absurd rfl (noPoint rest')
    case h_2 => rfl
  | some ds =>
    have filled : ds.chars.isEmpty = false := by simp [ds.ne_nil]
    simp [fractionText, h, fraction?, ds.digits_append ends, filled]

/-- So is the power. -/
lemma exponent?_append (n : Numeral) {rest : List Char} (ends : EndsNumber rest) :
    exponent? (n.powerText ++ rest) =
      some (n.power.any (·.minus == some true), (n.power.map (·.digits.chars)).getD [], rest) := by
  match h : n.power with
  | none =>
    rw [powerText, h, List.nil_append, exponent?.eq_def]
    match rest, ends with
    | [], _ => rfl
    | c :: rest, ends =>
      obtain ⟨-, -, noSmall, noCapital⟩ := ends c rfl
      simp [noSmall, noCapital]
  | some p =>
    rw [powerText, h, p.exponent?_text_append ends.noDigit]
    rfl

/-- What follows the fraction of a number goes on with no digit and no point. -/
lemma powerText_append (n : Numeral) {rest : List Char} (ends : EndsNumber rest) :
    NoDigit (n.powerText ++ rest) ∧ ∀ rest', n.powerText ++ rest ≠ '.' :: rest' := by
  match h : n.power with
  | none =>
    rw [powerText, h, List.nil_append]
    refine ⟨ends.noDigit, ?_⟩
    rintro rest' rfl
    exact (ends '.' rfl).2.1 rfl
  | some p =>
    simp only [powerText, h, Power.text, List.cons_append]
    cases p.capital <;> simp [NoDigit]

/-- A fraction begins with a point, which is no digit. -/
lemma noDigit_fractionText_append (n : Numeral) {rest : List Char} (ends : NoDigit rest) :
    NoDigit (n.fractionText ++ rest) := by
  match h : n.fraction with
  | none =>
    rw [fractionText, h, List.nil_append]
    exact ends
  | some ds => simp [fractionText, h, NoDigit]

/-- A numeral is read in its parts. -/
lemma literal?_text_append (n : Numeral) {rest : List Char} (ends : EndsNumber rest) :
    literal? (n.text ++ rest) = some (n.literal, rest) := by
  obtain ⟨noDigit, noPoint⟩ := n.powerText_append ends
  have whole := n.whole?_append (n.noDigit_fractionText_append noDigit)
  have fraction := n.fraction?_append noDigit noPoint
  have power := n.exponent?_append ends
  have parts : n.text ++ rest = (if n.minus then ['-'] else []) ++
      (n.whole.chars ++ (n.fractionText ++ (n.powerText ++ rest))) := by
    simp only [text, List.append_assoc]
  rw [parts, literal?.eq_def]
  cases h : n.minus
  case false =>
    simp only [Bool.false_eq_true, if_false, List.nil_append]
    split
    case h_1 rest' eq => exact absurd eq (n.whole.append_ne_cons rfl _ rest')
    case h_2 =>
      simp [h, whole, fraction, power, literal]
  case true =>
    simp [h, whole, fraction, power, literal]

/-- A number is read as it is written if it is in range. -/
lemma number?_text_append (n : Numeral) {rest : List Char} (ends : EndsNumber rest) :
    number? (n.text ++ rest) =
      (if n.literal.inRange then some (.number n.text) else none).map (·, rest) := by
  have own : (n.text ++ rest).take ((n.text ++ rest).length - rest.length) = n.text := by simp
  rw [number?, n.literal?_text_append ends]
  simp only [Option.bind_eq_bind, Option.bind_some, own]
  split <;> rfl

end Numeral
end PageSearch.Json
