import Mathlib.Tactic.Lemma
import PageSearch.Json.Reader

/-!
# Sequences in JSON

Between its opening and its closing sign a sequence has items with commas between them, and blanks
alone if there is no item. If every item is read as it is written wherever a comma or the closing
sign follows, up to blanks that it leaves unread, then the sequence is read item by item.
-/

namespace PageSearch.Json

/-- Blanks between the parts of a text. -/
structure Blanks where
  chars : List Char
  blank : chars.all isSpace = true

namespace Blanks

def none : Blanks :=
  ⟨[], rfl⟩

/-- Blanks in front of a text are skipped. -/
lemma skipSpace_append (b : Blanks) (s : List Char) : skipSpace (b.chars ++ s) = skipSpace s :=
  List.dropWhile_append_of_pos (List.all_eq_true.mp b.blank)

/-- A sign is found behind blanks. -/
lemma sign?_append (b : Blanks) (c : Char) (s : List Char) :
    sign? c (b.chars ++ s) = sign? c s := by
  rw [sign?, sign?, b.skipSpace_append]

end Blanks

/-- Nothing is skipped where no blank stands. -/
lemma skipSpace_cons {c : Char} (noBlank : isSpace c = false) (s : List Char) :
    skipSpace (c :: s) = c :: s := by
  simp [skipSpace, noBlank]

/-- Without blanks the sign comes first. -/
lemma sign?_cons {c d : Char} (noBlank : isSpace d = false) (s : List Char) :
    sign? c (d :: s) = if d = c then some s else none := by
  rw [sign?, skipSpace_cons noBlank]

/-- What stands between the signs of a sequence whose items are written like this. -/
def between (inside : Blanks) (items : List (List Char)) : List Char :=
  match items with
  | [] => inside.chars
  | items => List.intercalate [','] items

section sequence

variable {α β : Type} {close : Char} {item : Reader α} {text : β → List Char} {read : β → Option α}
  {after : β → Blanks}

/-- An item is read as it is written wherever a comma or the closing sign follows. -/
structure ReadsItem (close : Char) (item : Reader α) (text : β → List Char) (read : β → Option α)
    (after : β → Blanks) (x : β) : Prop where
  noClose : ∀ rest, sign? close (text x ++ rest) = none
  reads : ∀ c, c = ',' ∨ c = close → ∀ rest,
    item (text x ++ c :: rest) = (read x).map (·, (after x).chars ++ c :: rest)

/-- Two items have a comma between them. -/
lemma intercalate_cons_cons (x y : β) (xs : List β) :
    List.intercalate [','] ((x :: y :: xs).map text) =
      text x ++ ',' :: List.intercalate [','] ((y :: xs).map text) := by
  simp only [List.map_cons, List.intercalate_cons_cons, List.append_assoc, List.singleton_append]

/-- A list begins with its first item. -/
lemma intercalate_eq_append (text : β → List Char) (x : β) (xs : List β) :
    ∃ s, List.intercalate [','] ((x :: xs).map text) = text x ++ s := by
  cases xs with
  | nil => exact ⟨[], by simp⟩
  | cons y xs => exact ⟨_, intercalate_cons_cons x y xs⟩

/-- There are no more items than commas and the closing sign. -/
lemma length_le_length_intercalate (text : β → List Char) (x : β) (xs : List β) :
    xs.length ≤ (List.intercalate [','] ((x :: xs).map text)).length := by
  induction xs generalizing x with
  | nil => exact Nat.zero_le _
  | cons y xs ih =>
    have rest := ih y
    rw [intercalate_cons_cons, List.length_append, List.length_cons, List.length_cons]
    omega

/-- The items that are left are read with the commas between them, up to the closing sign. -/
lemma itemsThen?_intercalate (sign : isSpace close = false) (other : ',' ≠ close) {x : β}
    {xs : List β} (reads : ∀ y ∈ x :: xs, ReadsItem close item text read after y) {fuel : Nat}
    (enough : xs.length < fuel) (rest : List Char) :
    itemsThen? close item fuel (List.intercalate [','] ((x :: xs).map text) ++ close :: rest) =
      ((x :: xs).mapM read).map (·, rest) := by
  -- By the items after the first one, each of which takes one unit of the fuel.
  induction xs generalizing x fuel with
  | nil =>
    obtain ⟨fuel, rfl⟩ := Nat.exists_eq_add_one_of_ne_zero (Nat.ne_zero_of_lt enough)
    have first := (reads x (by simp)).reads close (.inr rfl) rest
    rw [itemsThen?, List.map_singleton, List.intercalate_singleton, first]
    cases h : read x with
    | none => simp [h]
    | some v => simp [h, (after x).sign?_append, sign?_cons sign]
  | cons y xs ih =>
    obtain ⟨fuel, rfl⟩ := Nat.exists_eq_add_one_of_ne_zero (Nat.ne_zero_of_lt enough)
    have first := (reads x (by simp)).reads ',' (.inl rfl)
      (List.intercalate [','] ((y :: xs).map text) ++ close :: rest)
    have others := ih (fun z mem => reads z (List.mem_cons_of_mem x mem))
      (Nat.lt_of_succ_lt_succ enough)
    rw [itemsThen?, intercalate_cons_cons, List.append_assoc, List.cons_append, first]
    cases h : read x with
    | none => simp [h]
    | some v =>
      have comma : isSpace ',' = false := rfl
      have all : (x :: y :: xs).mapM read = ((y :: xs).mapM read).map (v :: ·) := by
        rw [List.mapM_cons, h]
        cases (y :: xs).mapM read <;> rfl
      simp only [Option.bind_eq_bind, Option.map_some, Option.bind_some, others,
        (after x).sign?_append, sign?_cons comma, other, if_true, if_false, all]
      cases (y :: xs).mapM read <;> rfl

/-- All items are read, those of an empty list too. -/
lemma items?_between (sign : isSpace close = false) (other : ',' ≠ close) (inside : Blanks)
    {xs : List β} (reads : ∀ x ∈ xs, ReadsItem close item text read after x) (rest : List Char) :
    items? close item (between inside (xs.map text) ++ close :: rest) =
      (xs.mapM read).map (·, rest) := by
  cases xs with
  | nil =>
    rw [List.map_nil, between, items?, inside.sign?_append, sign?_cons sign, if_pos rfl]
    rfl
  | cons x xs =>
    have noClose : sign? close (List.intercalate [','] ((x :: xs).map text) ++ close :: rest) =
        none := by
      obtain ⟨s, eq⟩ := intercalate_eq_append text x xs
      rw [eq, List.append_assoc]
      exact (reads x (by simp)).noClose _
    -- The fuel is the length of the text, which has a comma between any two items.
    have enough : xs.length <
        (List.intercalate [','] ((x :: xs).map text) ++ close :: rest).length := by
      have le := length_le_length_intercalate text x xs
      rw [List.length_append, List.length_cons]
      omega
    have some : between inside ((x :: xs).map text) =
        List.intercalate [','] ((x :: xs).map text) := rfl
    rw [some, items?, noClose]
    exact itemsThen?_intercalate sign other reads enough rest

end sequence

end PageSearch.Json
