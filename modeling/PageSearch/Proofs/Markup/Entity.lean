import Mathlib.Data.List.Basic
import PageSearch.Markup.Entity
import PageSearch.Proofs.Markup.Pattern

/-!
# Decoding entities

What an entity is and what it stands for, said without the functions that read it: a name from a
table, or a numeral with the code point of a character. Decoding goes once through a text. Where an
entity starts it is replaced, and decoding goes on after it, so that what has been decoded is never
looked at again; any other character stays, also an `&`.
-/

namespace PageSearch.Markup

/-- The digits up to sixteen, each at the place of its value. -/
def digitSigns : List Char :=
  ['0', '1', '2', '3', '4', '5', '6', '7', '8', '9', 'a', 'b', 'c', 'd', 'e', 'f']

/-- A numeral of a base and its value. Letters are digits in either case. -/
inductive Numeral (base : Nat) : List Char → Nat → Prop where
  | nil :
    Numeral base [] 0
  | snoc {digits value d v} :
    Numeral base digits value →
    v < base →
    digitSigns[v]? = some d.toLower →
    Numeral base (digits ++ [d]) (value * base + v)

/-- The names that characters have. -/
def characterNames : List (String × Char) :=
  [("amp", '&'), ("lt", '<'), ("gt", '>'), ("quot", '"'), ("apos", '\''), ("nbsp", ' ')]

/-- What may be between `&` and `;`, and the character that it stands for: a name, a decimal numeral
of up to seven digits or a hexadecimal one of up to six, with the code point of the character. -/
inductive StandsFor : List Char → Char → Prop where
  | named {name c} :
    (name, c) ∈ characterNames →
    StandsFor name.toList c
  | decimal {digits c} :
    Numeral 10 digits c.toNat →
    digits ≠ [] →
    digits.length ≤ 7 →
    StandsFor ('#' :: digits) c
  | hexadecimal {x digits c} :
    x = 'x' ∨ x = 'X' →
    Numeral 16 digits c.toNat →
    digits ≠ [] →
    digits.length ≤ 6 →
    StandsFor ('#' :: x :: digits) c

/-- A text and what decoding makes of it, from left to right. -/
inductive Decoded : List Char → List Char → Prop where
  | nil :
    Decoded [] []
  | entity {inside c rest out} :
    StandsFor inside c →
    Decoded rest out →
    Decoded ('&' :: (inside ++ ';' :: rest)) (c :: out)
  | other {c rest out} :
    (∀ inside d after, StandsFor inside d → c :: rest ≠ '&' :: (inside ++ ';' :: after)) →
    Decoded rest out →
    Decoded (c :: rest) (c :: out)

section digits

variable {base most value v n : Nat} {d c : Char} {digits rest : List Char}

/-- What is so for every code point below 128 is so for every ASCII character. -/
lemma of_forall_ascii {P : Char → Prop} (all : ∀ n < 128, P (Char.ofNat n))
    (ascii : c.toNat < 128) : P c := by
  have own := all c.toNat ascii
  rwa [Char.ofNat_toNat] at own

/-- Digits are ASCII characters, and so are the characters whose small form is a digit. -/
lemma lt_of_digitValue? (h : digitValue? 16 d = some v) : d.toNat < 128 := by
  have digit : d.isDigit = true → d.toNat ≤ 57 := by
    intro h
    simp only [Char.isDigit, Bool.and_eq_true, decide_eq_true_eq] at h
    exact UInt32.le_iff_toNat_le.mp h.2
  have small : d ≤ 'f' → d.toNat ≤ 102 := fun h => UInt32.le_iff_toNat_le.mp h
  have capital : d ≤ 'F' → d.toNat ≤ 70 := fun h => UInt32.le_iff_toNat_le.mp h
  grind [digitValue?]

/-- Only letters and figures of the first hundred and twenty-eight are digits. -/
lemma lt_of_getElem?_digitSigns (h : digitSigns[v]? = some d.toLower) : d.toNat < 128 := by
  have ascii : digitSigns.all (·.toNat < 128) = true := by decide
  have lt : d.toLower.toNat < 128 := by
    simpa using List.all_eq_true.mp ascii _ (List.mem_of_getElem? h)
  unfold Char.toLower at lt
  split at lt
  · rename_i capital
    exact Nat.lt_of_le_of_lt (UInt32.le_iff_toNat_le.mp capital.2) (by decide)
  · exact lt

/-- Among these a digit has the value of its place in the list. -/
lemma digitValue?_ascii (ascii : d.toNat < 128) :
    ∀ v < 16, digitValue? 16 d = some v ↔ digitSigns[v]? = some d.toLower :=
  of_forall_ascii (P := fun d => ∀ v < 16, digitValue? 16 d = some v ↔
    digitSigns[v]? = some d.toLower) (by decide +kernel) ascii

/-- The digits to a smaller base are those to base sixteen with smaller values. -/
lemma digitValue?_iff_sixteen (le : base ≤ 16) :
    digitValue? base d = some v ↔ v < base ∧ digitValue? 16 d = some v := by
  simp only [digitValue?]
  grind

/-- The value of a digit is its place among the digits. -/
lemma digitValue?_eq_some_iff (le : base ≤ 16) :
    digitValue? base d = some v ↔ v < base ∧ digitSigns[v]? = some d.toLower := by
  rw [digitValue?_iff_sixteen le]
  apply and_congr_right
  intro lt
  have read (ascii : d.toNat < 128) := digitValue?_ascii ascii v (by omega)
  exact ⟨fun h => (read (lt_of_digitValue? h)).mp h,
    fun h => (read (lt_of_getElem?_digitSigns h)).mpr h⟩

/-- After the digits of a numeral, reading goes on with its value. -/
lemma Numeral.numeralFrom?_append (le : base ≤ 16) (h : Numeral base digits value)
    (rest : List Char) :
    numeralFrom? base 0 (digits ++ rest) = numeralFrom? base value rest := by
  induction h generalizing rest with
  | nil => rfl
  | @snoc digits value d v _ lt sign ih =>
    have read := (digitValue?_eq_some_iff le).mpr ⟨lt, sign⟩
    rw [List.append_assoc, ih, List.singleton_append, numeralFrom?, read]
    rfl

/-- What is read after a numeral makes a numeral together with it. -/
lemma Numeral.append (le : base ≤ 16) (h : Numeral base digits value)
    (read : numeralFrom? base value rest = some n) : Numeral base (digits ++ rest) n := by
  induction rest generalizing digits value with
  | nil =>
    cases read
    rwa [List.append_nil]
  | cons d rest ih =>
    simp only [numeralFrom?, Option.bind_eq_bind, Option.bind_eq_some_iff] at read
    obtain ⟨v, digit, read⟩ := read
    obtain ⟨lt, sign⟩ := (digitValue?_eq_some_iff le).mp digit
    have longer := ih (h.snoc lt sign) read
    rwa [List.append_assoc] at longer

/-- A numeral is read if it has digits, and not too many. -/
lemma numeral?_eq_some_iff (le : base ≤ 16) :
    numeral? base most digits = some n ↔
      Numeral base digits n ∧ digits ≠ [] ∧ digits.length ≤ most := by
  have read : numeralFrom? base 0 digits = some n ↔ Numeral base digits n := by
    constructor
    · exact fun h => Numeral.nil.append le h
    · intro h
      have := h.numeralFrom?_append le []
      rwa [List.append_nil] at this
  rw [← read, numeral?]
  by_cases none : digits = []
  · simp [none]
  · by_cases long : most < digits.length
    · simp [none, long, Nat.not_le.mpr long]
    · simp [none, long, Nat.not_lt.mp long]

/-- A number is read as the character that has it. -/
lemma scalar?_eq_some_iff : scalar? n = some c ↔ c.toNat = n := by
  unfold scalar?
  constructor
  · intro h
    split at h
    · rename_i valid
      cases h
      rw [Char.ofNat, dif_pos valid]
      rfl
    · cases h
  · intro eq
    subst eq
    have valid : c.toNat.isValidChar := c.valid
    rw [if_pos valid, Char.ofNat_toNat]

/-- A numeral within its length is read as the character with its value as code point. -/
lemma numeral?_bind_scalar? (le : base ≤ 16) :
    (numeral? base most digits).bind scalar? = some c ↔
      Numeral base digits c.toNat ∧ digits ≠ [] ∧ digits.length ≤ most := by
  simp only [Option.bind_eq_some_iff, scalar?_eq_some_iff]
  constructor
  · intro h
    obtain ⟨n, read, rfl⟩ := h
    exact (numeral?_eq_some_iff le).mp read
  · intro h
    exact ⟨c.toNat, (numeral?_eq_some_iff le).mpr h, rfl⟩

/-- Every character of a numeral is a digit of the base. -/
lemma Numeral.exists_of_mem (h : Numeral base digits value) (mem : d ∈ digits) :
    ∃ v < base, digitSigns[v]? = some d.toLower := by
  induction h with
  | nil => cases mem
  | snoc _ lt sign ih =>
    cases List.mem_append.mp mem with
    | inl earlier => exact ih earlier
    | inr last =>
      rw [List.mem_singleton] at last
      subst last
      exact ⟨_, lt, sign⟩

/-- A digit is a letter or a figure. -/
lemma isAlphanum_of_digit (ascii : d.toNat < 128) :
    d.toLower ∈ digitSigns → d.isAlphanum = true :=
  of_forall_ascii (P := fun d => d.toLower ∈ digitSigns → d.isAlphanum = true)
    (by decide +kernel) ascii

/-- So is every character of a numeral. -/
lemma Numeral.isAlphanum_of_mem (h : Numeral base digits value) (mem : d ∈ digits) :
    d.isAlphanum = true := by
  obtain ⟨v, -, sign⟩ := h.exists_of_mem mem
  exact isAlphanum_of_digit (lt_of_getElem?_digitSigns sign) (List.mem_of_getElem? sign)

end digits

section reading

variable {c d : Char} {inside s rest after replacement out : List Char}

/-- A character that is read by its name is in the list under it. -/
lemma exists_name_of_namedCharacter? (h : namedCharacter? inside = some c) :
    ∃ name, (name, c) ∈ characterNames ∧ name.toList = inside := by
  unfold namedCharacter? at h
  repeat' split at h
  all_goals cases h
  all_goals
    rename_i eq
    refine ⟨_, ?_, eq.symm⟩
    decide

/-- The names of characters are read as these. -/
lemma entityCharacter?_name :
    ∀ e ∈ characterNames, entityCharacter? e.1.toList = some e.2 := by
  decide

/-- A decimal numeral does not start with the letter of the hexadecimal ones. -/
lemma not_numeral_x {x : Char} {digits : List Char} {n : Nat} (letter : x = 'x' ∨ x = 'X') :
    ¬ Numeral 10 (x :: digits) n := by
  intro h
  obtain ⟨v, lt, sign⟩ := h.exists_of_mem List.mem_cons_self
  have none : ∀ v < 10, digitSigns[v]? ≠ some 'x' := by decide
  rcases letter with rfl | rfl
  · exact none v lt sign
  · exact none v lt sign

/-- What is read as an entity is one. -/
lemma entityCharacter?_eq_some_iff : entityCharacter? inside = some c ↔ StandsFor inside c := by
  constructor
  · intro h
    unfold entityCharacter? at h
    split at h
    · obtain ⟨numeral, ne, le⟩ := (numeral?_bind_scalar? (by decide)).mp h
      exact .hexadecimal (.inl rfl) numeral ne le
    · obtain ⟨numeral, ne, le⟩ := (numeral?_bind_scalar? (by decide)).mp h
      exact .hexadecimal (.inr rfl) numeral ne le
    · obtain ⟨numeral, ne, le⟩ := (numeral?_bind_scalar? (by decide)).mp h
      exact .decimal numeral ne le
    · obtain ⟨name, mem, rfl⟩ := exists_name_of_namedCharacter? h
      exact .named mem
  · intro h
    cases h with
    | @named name c mem => exact entityCharacter?_name (name, c) mem
    | @decimal digits c numeral ne le =>
      -- The hexadecimal patterns come first, but no decimal numeral begins with their letter.
      unfold entityCharacter?
      split
      · rename_i eq
        cases eq
        exact absurd numeral (not_numeral_x (.inl rfl))
      · rename_i eq
        cases eq
        exact absurd numeral (not_numeral_x (.inr rfl))
      · rename_i eq
        cases eq
        exact (numeral?_bind_scalar? (by decide)).mpr ⟨numeral, ne, le⟩
      · rename_i none
        exact absurd rfl (none digits)
    | @hexadecimal x digits c letter numeral ne le =>
      rcases letter with rfl | rfl
      · exact (numeral?_bind_scalar? (by decide)).mpr ⟨numeral, ne, le⟩
      · exact (numeral?_bind_scalar? (by decide)).mpr ⟨numeral, ne, le⟩

/-- What is between `&` and `;` has no character but letters, digits and `#`. -/
lemma StandsFor.isAlphanum_of_mem (h : StandsFor inside c) (mem : d ∈ inside) :
    d = '#' ∨ d.isAlphanum = true := by
  cases h with
  | @named name _ named =>
    have letters : ∀ e ∈ characterNames, e.1.toList.all Char.isAlphanum = true := by decide
    exact .inr (List.all_eq_true.mp (letters _ named) d mem)
  | decimal numeral =>
    cases mem with
    | head => exact .inl rfl
    | tail _ mem => exact .inr (numeral.isAlphanum_of_mem mem)
  | @hexadecimal x _ _ letter numeral =>
    cases mem with
    | head => exact .inl rfl
    | tail _ mem =>
      cases mem with
      | head =>
        rcases letter with rfl | rfl
        · exact .inr (by decide)
        · exact .inr (by decide)
      | tail _ mem => exact .inr (numeral.isAlphanum_of_mem mem)

/-- Between the ampersand and the semicolon there are letters, figures and the number sign only. -/
lemma StandsFor.not_mem (h : StandsFor inside c) (other : d ≠ '#' ∧ d.isAlphanum = false) :
    d ∉ inside := by
  intro mem
  cases h.isAlphanum_of_mem mem with
  | inl sharp => exact other.1 sharp
  | inr alphanum =>
    rw [other.2] at alphanum
    cases alphanum

/-- The pattern of entities matches where an entity starts, and takes it. -/
lemma entity_eq_some_iff :
    entity s = some (replacement, after) ↔
      ∃ inside c, s = '&' :: (inside ++ ';' :: after) ∧ StandsFor inside c ∧
        replacement = [c] := by
  simp only [entity, Option.bind_eq_bind, Option.bind_eq_some_iff, dropLead_eq_some_iff,
    dropThrough_eq_some_iff, entityCharacter?_eq_some_iff, Option.pure_def, Option.some.injEq,
    Prod.mk.injEq]
  constructor
  · intro h
    obtain ⟨_, rfl, _, ⟨inside, rfl, absent⟩, c, stands, rfl, rfl⟩ := h
    rw [takeWhile_ne_append absent] at stands
    exact ⟨inside, c, rfl, stands, rfl⟩
  · intro h
    obtain ⟨inside, c, rfl, stands, rfl⟩ := h
    have absent : ';' ∉ inside := stands.not_mem ⟨by decide, by decide⟩
    refine ⟨inside ++ ';' :: after, rfl, after, ⟨inside, rfl, absent⟩, c, ?_, rfl, rfl⟩
    rwa [takeWhile_ne_append absent]

/-- Every escape starts with an ampersand. -/
lemma entity_startsWith : entity.StartsWith '&' := by
  intro d rest other
  simp [entity, dropLead, other]

end reading

section decoding

variable {s t o p out : List Char}

/-- What the replacement gives is decoded text. -/
lemma decoded_replaceAll (s : List Char) : Decoded s (entity.replaceAll s) := by
  cases s with
  | nil =>
    rw [Pattern.replaceAll_nil]
    exact .nil
  | cons c rest =>
    cases found : entity (c :: rest) with
    | none =>
      rw [Pattern.replaceAll_of_none found]
      refine .other ?_ (decoded_replaceAll rest)
      intro inside d after stands eq
      have some := entity_eq_some_iff.mpr ⟨inside, d, eq, stands, rfl⟩
      rw [found] at some
      cases some
    | some taken =>
      obtain ⟨replacement, after⟩ := taken
      obtain ⟨inside, d, eq, stands, rfl⟩ := entity_eq_some_iff.mp found
      cases eq
      rw [Pattern.replaceAll_of_some found (by simp; omega)]
      exact .entity stands (decoded_replaceAll after)
termination_by s.length
decreasing_by all_goals grind

/-- Replacing the entities of a text decodes it. -/
theorem decoded_iff : Decoded s out ↔ entity.replaceAll s = out := by
  constructor
  · intro h
    induction h with
    | nil => exact Pattern.replaceAll_nil
    | @entity inside c rest out stands _ ih =>
      have found : entity ('&' :: (inside ++ ';' :: rest)) = some ([c], rest) :=
        entity_eq_some_iff.mpr ⟨inside, c, rfl, stands, rfl⟩
      rw [Pattern.replaceAll_of_some found (by simp; omega), ih, List.singleton_append]
    | @other c rest out plain _ ih =>
      have fails : entity (c :: rest) = none := by
        rw [Option.eq_none_iff_forall_not_mem]
        intro found mem
        obtain ⟨inside, d, eq, stands, -⟩ := entity_eq_some_iff.mp mem
        exact plain inside d _ stands eq
      rw [Pattern.replaceAll_of_none fails, ih]
  · intro eq
    exact eq ▸ decoded_replaceAll s

/-- No entity goes over a space, so that the two sides of it are decoded each for itself. -/
lemma Decoded.append_space (first : Decoded s o) (second : Decoded t p) :
    Decoded (s ++ ' ' :: t) (o ++ ' ' :: p) := by
  induction first with
  | nil => exact .other (by simp) second
  | @entity inside c rest out stands _ ih =>
    rw [List.cons_append, List.append_assoc]
    exact .entity stands ih
  | @other c rest out plain _ ih =>
    refine .other ?_ ih
    intro inside d after stands eq
    obtain ⟨rfl, tails⟩ := List.cons_eq_cons.mp eq
    -- An entity that goes over the space would have a space inside.
    have noSpace : ' ' ∉ inside ++ [';'] := by
      simpa using stands.not_mem ⟨by decide, by decide⟩
    have start : inside ++ [';'] <+: rest ++ ' ' :: t := ⟨after, by simpa using tails.symm⟩
    obtain ⟨more, rfl⟩ := isPrefix_of_isPrefix_append_cons noSpace start
    exact plain inside d more stands (by simp)

/-- Texts are decoded apart if spaces stand between them. -/
lemma Decoded.intercalate {texts outs : List (List Char)} (h : List.Forall₂ Decoded texts outs) :
    Decoded ([' '].intercalate texts) ([' '].intercalate outs) := by
  induction h with
  | nil => exact .nil
  | cons first others ih =>
    cases others with
    | nil => simpa using first
    | cons second others =>
      simp only [List.intercalate_cons_cons, List.append_assoc, List.singleton_append] at ih ⊢
      exact first.append_space ih

end decoding

end PageSearch.Markup
