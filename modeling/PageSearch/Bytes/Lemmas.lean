import Mathlib.Algebra.Group.Nat.Defs
import Mathlib.Tactic.Lemma
import PageSearch.Bytes.Varint

/-!
# Reading back bytes

What the writers of numbers and texts put in front of other bytes is what the readers take from
them. A number that does not fit the width it is read with is refused, and so are a text and a list
whose size does not fit. Nothing is ever read back as something else.
-/

namespace PageSearch.Bytes

variable {α : Type}

/-- What a writer puts in front of other bytes a reader takes from them, if it is fit for that, and
refuses otherwise. -/
structure ReadsBack (read? : Reader α) (write : α → List UInt8) (Fit : α → Prop) : Prop where
  accepts : ∀ {x}, Fit x → ∀ rest, read? (write x ++ rest) = some (x, rest)
  refuses : ∀ {x}, ¬ Fit x → ∀ rest, read? (write x ++ rest) = none

/-- A number takes as many bytes as it is wide. -/
lemma length_littleEndian (width n : Nat) : (littleEndian width n).length = width := by
  induction width generalizing n with
  | zero => rfl
  | succ width ih => simp [littleEndian, ih]

/-- A number that fits is read back, and what follows it is left. -/
lemma littleEndian?_append (width n : Nat) (rest : List UInt8) (h : n < 256 ^ width) :
    littleEndian? width (littleEndian width n ++ rest) = some (n, rest) := by
  induction width generalizing n with
  | zero =>
    simp only [Nat.pow_zero, Nat.lt_one_iff] at h
    simp [littleEndian, littleEndian?, h]
  | succ width ih =>
    have lower : n / 256 < 256 ^ width := by
      rw [Nat.pow_succ] at h
      omega
    have split : n % 256 + 256 * (n / 256) = n := Nat.mod_add_div n 256
    simp [littleEndian, littleEndian?, ih _ lower, split]

/-- Numbers that fit a width are told apart by their bytes. -/
lemma littleEndian_inj {width m n : Nat} (hm : m < 256 ^ width) (hn : n < 256 ^ width)
    (eq : littleEndian width m = littleEndian width n) : m = n := by
  have read := littleEndian?_append width m [] hm
  rw [eq, littleEndian?_append width n [] hn] at read
  cases read
  rfl

/-- Every text is read back from its bytes. -/
lemma text?_ofText (s : String) : text? (ofText s) = some s := by
  have valid := s.isValidUTF8
  simpa [text?, ofText, String.fromUTF8?, String.fromUTF8] using valid

/-- Different texts have different bytes. -/
lemma ofText_inj {s t : String} (eq : ofText s = ofText t) : s = t := by
  have read := text?_ofText s
  rw [eq, text?_ofText] at read
  cases read
  rfl

/-- A number is read back if it fits the width that it is read with. -/
lemma varint?_append (width n : Nat) (rest : List UInt8) :
    varint? width (varint n ++ rest) = if n < 2 ^ width then some (n, rest) else none := by
  -- Each byte takes seven bits off the number and off the width that is left for it.
  induction n using Nat.strongRecOn generalizing width with
  | ind n ih =>
    unfold varint
    by_cases small : n < 128
    · have byte : n % 256 = n := by omega
      simp [varint?, small, byte, Nat.shiftLeft_eq]
    · have byte : (n % 128 + 128) % 256 = n % 128 + 128 := by omega
      have high : ¬ n % 128 + 128 < 128 := by omega
      by_cases narrow : width ≤ 7
      · have : 2 ^ width ≤ 2 ^ 7 := Nat.pow_le_pow_right (by omega) narrow
        have wide : ¬ n < 2 ^ width := by omega
        simp [varint?, small, byte, high, narrow, wide]
      · have power : 2 ^ width = 2 ^ (width - 7) * 128 := by
          rw [show (128 : Nat) = 2 ^ 7 from rfl, ← Nat.pow_add]
          congr 1
          omega
        have split : n % 128 + 128 * (n / 128) = n := Nat.mod_add_div n 128
        have fits : n / 128 < 2 ^ (width - 7) ↔ n < 2 ^ width := by omega
        have shorter := ih (n / 128) (by omega) (width - 7)
        by_cases fit : n < 2 ^ width
        · simp [varint?, small, byte, high, narrow, shorter, fits, fit, split]
        · simp [varint?, small, byte, high, narrow, shorter, fits, fit]

/-- A number is read back from its bytes exactly if it has no more bits than are read. -/
lemma readsBack_varint (width : Nat) : ReadsBack (varint? width) varint (· < 2 ^ width) := by
  constructor
  · intro n fit rest
    rw [varint?_append, if_pos fit]
  · intro n unfit rest
    rw [varint?_append, if_neg unfit]

/-- The size of a text is a word of 64 bits. -/
def Sized (s : String) : Prop :=
  (ofText s).length < 2 ^ 64

instance (s : String) : Decidable (Sized s) :=
  inferInstanceAs (Decidable (_ < _))

/-- So is a text, if its length can be read back. -/
lemma readsBack_sizedText : ReadsBack sizedText? sizedText Sized := by
  have sizes := readsBack_varint 64
  constructor
  · intro s fit rest
    simp [sizedText?, sizedText, sizes.accepts fit, text?_ofText]
  · intro s unfit rest
    simp [sizedText?, sizedText, sizes.refuses unfit]

/-- The length of a list is a word of 64 bits, and all its items are fit. -/
structure AllFit (Fit : α → Prop) (xs : List α) : Prop where
  length : xs.length < 2 ^ 64
  items : ∀ x ∈ xs, Fit x

/-- The order does not matter for whether all of some values can be read back. -/
lemma AllFit.of_perm {Fit : α → Prop} {xs ys : List α} (perm : xs.Perm ys) (fit : AllFit Fit ys) :
    AllFit Fit xs := by
  constructor
  · rw [perm.length_eq]
    exact fit.length
  · intro x mem
    exact fit.items x (perm.mem_iff.mp mem)

namespace ReadsBack

variable {item? : Reader α} {item : α → List UInt8} {Fit : α → Prop}

/-- Values that can be read back are, one after the other. -/
lemma items_accepts (h : ReadsBack item? item Fit) {xs : List α} (fit : ∀ x ∈ xs, Fit x)
    (rest : List UInt8) : items? item? xs.length (xs.flatMap item ++ rest) = some (xs, rest) := by
  induction xs with
  | nil => rfl
  | cons x xs ih =>
    have first := h.accepts (fit x List.mem_cons_self)
    have others := ih fun y mem => fit y (List.mem_cons_of_mem x mem)
    simp [items?, first, others]

/-- If one of them cannot, the reader gives up on all. -/
lemma items_refuses (h : ReadsBack item? item Fit) {xs : List α} (unfit : ¬ ∀ x ∈ xs, Fit x)
    (rest : List UInt8) : items? item? xs.length (xs.flatMap item ++ rest) = none := by
  induction xs with
  | nil => simp at unfit
  | cons x xs ih =>
    by_cases first : Fit x
    · have others : ¬ ∀ y ∈ xs, Fit y := by
        intro fit
        exact unfit (List.forall_mem_cons.mpr ⟨first, fit⟩)
      simp [items?, h.accepts first, ih others]
    · simp [items?, h.refuses first]

/-- Lists are read back if their items are. -/
lemma counted (h : ReadsBack item? item Fit) :
    ReadsBack (counted? item?) (Bytes.counted item) (AllFit Fit) := by
  have sizes := readsBack_varint 64
  constructor
  · intro xs fit rest
    simp [counted?, Bytes.counted, sizes.accepts fit.length, h.items_accepts fit.items]
  · intro xs unfit rest
    by_cases length : xs.length < 2 ^ 64
    · have items : ¬ ∀ x ∈ xs, Fit x := fun fit => unfit ⟨length, fit⟩
      simp [counted?, Bytes.counted, sizes.accepts length, h.items_refuses items]
    · simp [counted?, Bytes.counted, sizes.refuses length]

end ReadsBack

end PageSearch.Bytes
