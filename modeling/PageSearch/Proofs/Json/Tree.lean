import PageSearch.Proofs.Json.Numeral
import PageSearch.Proofs.Json.Sequence
import PageSearch.Proofs.Json.Spelling

/-!
# Texts of JSON

A tree says how a text of JSON is written: which blanks stand where, how the numbers and strings are
spelled, in which order an object has its members. Every tree has a text and, if its strings spell
something, its numbers are in range and it is not nested too deep, a value. Reading the text gives
the value, and nothing is read where there is none.
-/

namespace PageSearch.Json

/-- Something with blanks around it. -/
structure Padded (α : Type) where
  before : Blanks
  content : α
  after : Blanks

/-- What stands in a text, where the content stands for this. -/
def Padded.wrap {α : Type} (p : Padded α) (text : List Char) : List Char :=
  p.before.chars ++ (text ++ p.after.chars)

/-- A text of JSON as it is written, without blanks around it. -/
inductive Tree where
  | null
  | bool (b : Bool)
  | number (n : Numeral)
  | string (s : Spelling)
  /-- The blanks inside count where there is no item. -/
  | array (inside : Blanks) (items : List (Padded Tree))
  | object (inside : Blanks) (members : List (Padded Spelling × Padded Tree))

/-- A member of an object as it is written: its name and its value. -/
abbrev Member := Padded Spelling × Padded Tree

def Spelling.quoted (s : Spelling) : List Char :=
  '"' :: (s.text ++ ['"'])

namespace Tree

/-- An item is smaller than the array that has it. -/
lemma sizeOf_lt_array {p : Padded Tree} {items : List (Padded Tree)} (mem : p ∈ items)
    (inside : Blanks) : sizeOf p.content < sizeOf (array inside items) := by
  have lt := List.sizeOf_lt_of_mem mem
  obtain ⟨before, t, after⟩ := p
  simp only [Padded.mk.sizeOf_spec, array.sizeOf_spec] at *
  omega

/-- The value of a member is smaller than the object that has it. -/
lemma sizeOf_lt_object {m : Member} {members : List Member} (mem : m ∈ members)
    (inside : Blanks) : sizeOf m.2.content < sizeOf (object inside members) := by
  have lt := List.sizeOf_lt_of_mem mem
  obtain ⟨name, before, t, after⟩ := m
  simp only [Padded.mk.sizeOf_spec, object.sizeOf_spec, Prod.mk.sizeOf_spec] at *
  omega

/-- What holds of scalars, and of arrays and objects whose parts have it, holds of all trees. -/
@[elab_as_elim, induction_eliminator]
theorem induction {motive : Tree → Prop} (null : motive null) (bool : ∀ b, motive (bool b))
    (number : ∀ n, motive (number n)) (string : ∀ s, motive (string s))
    (array : ∀ inside items, (∀ p ∈ items, motive p.content) → motive (array inside items))
    (object : ∀ inside members, (∀ m ∈ members, motive m.2.content) →
      motive (object inside members)) : ∀ t, motive t
  | .null => null
  | .bool b => bool b
  | .number n => number n
  | .string s => string s
  | .array inside items => array inside items fun p _ =>
      induction null bool number string array object p.content
  | .object inside members => object inside members fun m _ =>
      induction null bool number string array object m.2.content
termination_by t => t
decreasing_by
  · exact sizeOf_lt_array ‹_› inside
  · exact sizeOf_lt_object ‹_› inside

def text : Tree → List Char
  | null => "null".toList
  | bool true => "true".toList
  | bool false => "false".toList
  | number n => n.text
  | string s => s.quoted
  | array inside items =>
    '[' :: (between inside (items.map fun p => p.wrap p.content.text) ++ [']'])
  | object inside members =>
    '{' :: (between inside (members.map fun m =>
      m.1.wrap m.1.content.quoted ++ ':' :: m.2.wrap m.2.content.text) ++ ['}'])
termination_by t => t
decreasing_by
  · exact sizeOf_lt_array ‹_› inside
  · exact sizeOf_lt_object ‹_› inside

/-- The value that is written, if there is one that is nested at most so deep. -/
def value? (depth : Nat) : Tree → Option Value
  | null => some .null
  | bool b => some (.bool b)
  | number n => if n.literal.inRange then some (.number n.text) else none
  | string s => s.string?.map .string
  | array _ items =>
    match depth with
    | 0 => none
    | depth + 1 => (items.mapM fun (p : Padded Tree) => p.content.value? depth).map Value.array
  | object _ members =>
    match depth with
    | 0 => none
    | depth + 1 =>
      (members.mapM fun (m : Member) => do
        let name ← m.1.content.string?
        let v ← m.2.content.value? depth
        return (name, v)).map Value.object
termination_by t => t
decreasing_by
  · exact sizeOf_lt_array ‹_› _
  · exact sizeOf_lt_object ‹_› _

/-- A tree is nested at most so deep. -/
inductive Nested : Nat → Tree → Prop where
  | null {depth} : Nested depth null
  | bool {depth b} : Nested depth (bool b)
  | number {depth n} : Nested depth (number n)
  | string {depth s} : Nested depth (string s)
  | array {depth inside items} :
    (∀ p ∈ items, Nested depth p.content) → Nested (depth + 1) (array inside items)
  | object {depth inside members} :
    (∀ m ∈ members, Nested depth m.2.content) → Nested (depth + 1) (object inside members)

end Tree

def Padded.text (p : Padded Tree) : List Char :=
  p.wrap p.content.text

def Padded.value? (depth : Nat) (p : Padded Tree) : Option Value :=
  p.content.value? depth

namespace Tree

/-- How a member of an object is written. -/
def memberText (m : Member) : List Char :=
  m.1.wrap m.1.content.quoted ++ ':' :: m.2.wrap m.2.content.text

/-- The member that is written, if its name spells something and its value is one. -/
def memberValue? (depth : Nat) (m : Member) : Option (String × Value) := do
  let name ← m.1.content.string?
  let v ← m.2.content.value? depth
  return (name, v)

/-- An array is written as its padded items in brackets. -/
lemma text_array (inside : Blanks) (items : List (Padded Tree)) :
    (array inside items).text = '[' :: (between inside (items.map Padded.text) ++ [']']) := by
  rw [text]
  rfl

/-- An object is written as its members in braces. -/
lemma text_object (inside : Blanks) (members : List Member) :
    (object inside members).text = '{' :: (between inside (members.map memberText) ++ ['}']) := by
  rw [text]
  rfl

/-- An array that may be nested has the values of its items, one level deeper. -/
lemma value?_array (depth : Nat) (inside : Blanks) (items : List (Padded Tree)) :
    (array inside items).value? (depth + 1) = (items.mapM (Padded.value? depth)).map .array := by
  rw [value?]
  rfl

/-- If an array has a value, that is an array. -/
lemma exists_of_value?_array {depth : Nat} {inside : Blanks} {items : List (Padded Tree)}
    {v : Value} (h : (array inside items).value? depth = some v) : ∃ vs, v = .array vs := by
  rw [value?.eq_def] at h
  cases depth with
  | zero => cases h
  | succ depth =>
    obtain ⟨vs, -, rfl⟩ := Option.map_eq_some_iff.mp h
    exact ⟨vs, rfl⟩

/-- An object that may be nested has the names and values of its members. -/
lemma value?_object (depth : Nat) (inside : Blanks) (members : List Member) :
    (object inside members).value? (depth + 1) =
      (members.mapM (memberValue? depth)).map .object := by
  rw [value?]
  rfl

/-- Two readers that agree on every item agree on a list. -/
lemma mapM_congr {α β : Type} {f g : α → Option β} {xs : List α} (h : ∀ x ∈ xs, f x = g x) :
    xs.mapM f = xs.mapM g := by
  induction xs with
  | nil => rfl
  | cons x xs ih =>
    rw [List.mapM_cons, List.mapM_cons, h x (by simp), ih fun y mem => h y (by simp [mem])]

/-- Where a tree is not nested too deep, its value is the same wherever one looks for it. -/
lemma Nested.value?_eq {t : Tree} {least depth : Nat} (h : t.Nested least) (le : least ≤ depth) :
    t.value? depth = t.value? least := by
  -- Parts are looked at one level deeper, so the depth varies.
  induction h generalizing depth with
  | null => simp only [value?]
  | bool => simp only [value?]
  | number => simp only [value?]
  | string => simp only [value?]
  | array _ ih =>
    obtain ⟨depth, rfl⟩ := Nat.exists_eq_add_one_of_ne_zero (by omega : depth ≠ 0)
    rw [value?_array, value?_array]
    congr 1
    exact mapM_congr fun p mem => ih p mem (by omega)
  | object _ ih =>
    obtain ⟨depth, rfl⟩ := Nat.exists_eq_add_one_of_ne_zero (by omega : depth ≠ 0)
    rw [value?_object, value?_object]
    congr 1
    refine mapM_congr fun m mem => ?_
    rw [memberValue?, memberValue?, ih m mem (by omega)]

end Tree

/-- Blanks go on with no number. -/
lemma Blanks.endsNumber_append (b : Blanks) {s : List Char} (ends : EndsNumber s) :
    EndsNumber (b.chars ++ s) := by
  cases h : b.chars with
  | nil => exact ends
  | cons c chars =>
    have blank := List.all_eq_true.mp b.blank c (by simp [h])
    simp only [isSpace, Bool.or_eq_true, beq_iff_eq] at blank
    intro d head
    cases head
    rcases blank with ((rfl | rfl) | rfl) | rfl <;> decide

/-- A value is found behind blanks. -/
lemma Blanks.value?_append (b : Blanks) (depth : Nat) (s : List Char) :
    Json.value? depth (b.chars ++ s) = Json.value? depth s := by
  rw [Json.value?.eq_1, Json.value?.eq_1, b.skipSpace_append]

namespace Tree

/-- A tree starts with a character that is no blank and no closing sign. -/
lemma text_eq_cons (t : Tree) :
    ∃ c s, t.text = c :: s ∧ isSpace c = false ∧ c ≠ ']' := by
  cases t with
  | null => exact ⟨'n', _, by rw [text]; rfl, by decide, by decide⟩
  | bool b =>
    cases b with
    | true => exact ⟨'t', _, by rw [text]; rfl, by decide, by decide⟩
    | false => exact ⟨'f', _, by rw [text]; rfl, by decide, by decide⟩
  | number n =>
    obtain ⟨c, s, eq, ne⟩ := n.text_eq_cons
    refine ⟨c, s, by rw [text, eq], ?_, ne ']' (by decide) rfl⟩
    simp [isSpace, ne ' ' (by decide) rfl, ne '\n' (by decide) rfl, ne '\t' (by decide) rfl,
      ne '\r' (by decide) rfl]
  | string s => exact ⟨'"', _, by rw [text]; rfl, by decide, by decide⟩
  | array inside items => exact ⟨'[', _, text_array inside items, by decide, by decide⟩
  | object inside members => exact ⟨'{', _, text_object inside members, by decide, by decide⟩

/-- A tree is read as it is written where no number goes on after it. -/
def Reads (depth : Nat) (t : Tree) : Prop :=
  ∀ rest, EndsNumber rest →
    Json.value? depth (t.text ++ rest) = (t.value? depth).map (·, rest)

/-- A tree that is read can be an item of an array. -/
lemma Reads.item {depth : Nat} {p : Padded Tree} (h : Reads depth p.content) :
    ReadsItem ']' (Json.value? depth) Padded.text (Padded.value? depth) Padded.after p where
  noClose := by
    intro rest
    obtain ⟨c, s, eq, noBlank, ne⟩ := p.content.text_eq_cons
    rw [Padded.text, Padded.wrap, List.append_assoc, p.before.sign?_append, eq]
    exact (sign?_cons noBlank _).trans (if_neg ne)
  reads := by
    intro c sign rest
    have ends : EndsNumber (c :: rest) := by
      rcases sign with rfl | rfl <;> exact endsNumber_cons (by decide) rest
    rw [Padded.text, Padded.wrap, List.append_assoc, p.before.value?_append, List.append_assoc,
      h _ (p.after.endsNumber_append ends)]
    rfl

/-- It can be the value of a member. -/
lemma Reads.member {depth : Nat} {m : Member} (h : Reads depth m.2.content) :
    ReadsItem '}' (member? (Json.value? depth)) memberText (memberValue? depth)
      (fun m => m.2.after) m where
  noClose := by
    intro rest
    simp only [memberText, Padded.wrap, Spelling.quoted, List.append_assoc, List.cons_append,
      m.1.before.sign?_append]
    exact sign?_cons rfl _
  reads := by
    intro c sign rest
    have ends : EndsNumber (c :: rest) := by
      rcases sign with rfl | rfl <;> exact endsNumber_cons (by decide) rest
    have value := h _ (m.2.after.endsNumber_append ends)
    have quote : isSpace '"' = false := rfl
    have colon : isSpace ':' = false := rfl
    simp only [memberText, Padded.wrap, Spelling.quoted, List.append_assoc, List.cons_append,
      List.nil_append, member?, m.1.before.sign?_append, sign?_cons quote, if_true,
      Option.bind_eq_bind, Option.bind_some, m.1.content.stringBody?_text]
    cases name : m.1.content.string? with
    | none => simp [memberValue?, name]
    | some name' =>
      simp only [Option.map_some, Option.bind_some, m.1.after.sign?_append, sign?_cons colon,
        if_true, m.2.before.value?_append, value]
      cases v : m.2.content.value? depth <;> simp [memberValue?, name, v]

/-- Reading the text of a tree gives its value, and nothing where there is none. -/
lemma reads (t : Tree) (depth : Nat) : Reads depth t := by
  -- On the tree: parts are read as items of their sequence, one level deeper.
  induction t generalizing depth with
  | null =>
    intro rest ends
    rw [text, value?]
    show Json.value? depth ('n' :: 'u' :: 'l' :: 'l' :: rest) = _
    rw [Json.value?.eq_1, skipSpace_cons rfl]
    rfl
  | bool b =>
    intro rest ends
    cases b with
    | true =>
      rw [text, value?]
      show Json.value? depth ('t' :: 'r' :: 'u' :: 'e' :: rest) = _
      rw [Json.value?.eq_1, skipSpace_cons rfl]
      rfl
    | false =>
      rw [text, value?]
      show Json.value? depth ('f' :: 'a' :: 'l' :: 's' :: 'e' :: rest) = _
      rw [Json.value?.eq_1, skipSpace_cons rfl]
      rfl
  | number n =>
    intro rest ends
    obtain ⟨c, s, eq, noBlank, -⟩ := (number n).text_eq_cons
    obtain ⟨c', s', eq', ne⟩ := n.text_eq_cons
    have own := n.number?_text_append ends
    rw [text] at eq
    cases eq'.symm.trans eq
    rw [text, value?, ← own, eq, List.cons_append, Json.value?.eq_1, skipSpace_cons noBlank]
    -- A numeral begins with none of the characters that other values begin with.
    simp only [ne '"' (by decide) rfl, ne '[' (by decide) rfl, ne '{' (by decide) rfl,
      ne 't' (by decide) rfl, ne 'f' (by decide) rfl, ne 'n' (by decide) rfl, if_false]
  | string s =>
    intro rest ends
    rw [text, value?, Spelling.quoted, List.cons_append, List.append_assoc, Json.value?.eq_1,
      skipSpace_cons rfl]
    simp only [if_true, List.singleton_append, s.stringBody?_text, Option.map_map]
    rfl
  | array inside items ih =>
    intro rest ends
    rw [text_array, List.cons_append, List.append_assoc, Json.value?.eq_1, skipSpace_cons rfl]
    cases depth with
    | zero =>
      rw [value?]
      rfl
    | succ depth =>
      have sequence := items?_between (rfl : isSpace ']' = false) (by decide) inside
        (fun p mem => (ih p mem depth).item) rest
      rw [value?_array]
      show (items? ']' (Json.value? depth) _).map _ = _
      rw [List.singleton_append, sequence, Option.map_map, Option.map_map]
      rfl
  | object inside members ih =>
    intro rest ends
    rw [text_object, List.cons_append, List.append_assoc, Json.value?.eq_1, skipSpace_cons rfl]
    cases depth with
    | zero =>
      rw [value?]
      rfl
    | succ depth =>
      have sequence := items?_between (rfl : isSpace '}' = false) (by decide) inside
        (fun m mem => (ih m mem depth).member) rest
      rw [value?_object]
      show (items? '}' (member? (Json.value? depth)) _).map _ = _
      rw [List.singleton_append, sequence, Option.map_map, Option.map_map]
      rfl

end Tree

/-- Of a whole text, the blanks at its end are left. -/
lemma Padded.value?_text (p : Padded Tree) (depth : Nat) :
    Json.value? depth p.text = (p.value? depth).map (·, p.after.chars) := by
  have ends : EndsNumber p.after.chars := by
    simpa using p.after.endsNumber_append (nofun : EndsNumber [])
  rw [text, wrap, p.before.value?_append]
  exact p.content.reads depth _ ends

end PageSearch.Json
