import Mathlib.Data.List.Forall2
import PageSearch.Proofs.Json.Tree
import PageSearch.Proofs.Store.Construction
import PageSearch.Store.Load

/-!
# Loading document files

Both layouts of a document file come to the same. An array of documents and an object that has the
array under `documents` give the same store or the same error, wherever blanks stand and whatever
else the object has, as long as that can be read. What cannot be read makes the whole object
malformed. Records that are written as such an array are loaded as they are.
-/

namespace PageSearch
namespace Store

open Json (Blanks Member Padded Spelling Tree Value)

/-- A file that holds a text of JSON. -/
def file (p : Padded Tree) : Option ByteArray :=
  some (String.ofList p.text).toUTF8

/-- What loading comes to when the file has this value, or none. -/
def loaded (v : Option Value) : Except LoadError Store :=
  match v with
  | none => .error .malformed
  | some v =>
    match fileRecords? v with
    | none => .error .wrongShape
    | some records => (ofRecords records).mapError .invalid

/-- A file that was written as text is read as that text. -/
lemma fileChars_toUTF8 (s : String) : fileChars s.toUTF8 = s.toList := by
  have valid : String.fromUTF8? s.toUTF8 = some s := by
    rw [String.fromUTF8?, String.toUTF8_eq_toByteArray, dif_pos s.isValidUTF8]
    rfl
  rw [fileChars, valid]

/-- What is loaded from a written file is known from the value of its tree. -/
lemma load_file (p : Padded Tree) : load (file p) = loaded (p.value? fileDepth) := by
  rw [file, load, fileChars_toUTF8, String.toList_ofList, readRecords, p.value?_text]
  cases p.value? fileDepth with
  | none => rfl
  | some v =>
    have blank : (Json.skipSpace p.after.chars).isEmpty = true := by
      rw [← List.append_nil p.after.chars, p.after.skipSpace_append]
      rfl
    simp only [Option.map_some, loaded]
    cases fileRecords? v with
    | none => rfl
    | some records =>
      simp only [blank, if_true]
      rfl

section values

variable {α β : Type} {f : α → Option β} {xs : List α}

/-- If every item can be read, so can the list. -/
lemma mapM_eq_some_map {g : α → β} (each : ∀ x ∈ xs, f x = some (g x)) :
    xs.mapM f = some (xs.map g) := by
  induction xs with
  | nil => rfl
  | cons x xs ih =>
    rw [List.mapM_cons, each x (by simp), ih fun y mem => each y (List.mem_cons_of_mem x mem)]
    rfl

/-- One item that cannot be read spoils the list. -/
lemma mapM_eq_none {x : α} (mem : x ∈ xs) (missing : f x = none) : xs.mapM f = none := by
  induction mem with
  | head xs =>
    rw [List.mapM_cons, missing]
    rfl
  | @tail y xs _ ih =>
    rw [List.mapM_cons, ih]
    cases f y <;> rfl

end values

/-- An object that has documents under their name, and what else it has. -/
structure Wrapper where
  inside : Blanks
  before : List Member
  name : Padded Spelling
  after : List Member
  spells : name.content.Spells "documents"
  others : ∀ m ∈ before ++ after, ¬ m.1.content.Spells "documents"

namespace Wrapper

def around (w : Wrapper) (documents : Padded Tree) : Tree :=
  .object w.inside (w.before ++ (w.name, documents) :: w.after)

/-- Whatever else the object has can be read. -/
def Readable (w : Wrapper) : Prop :=
  ∀ m ∈ w.before ++ w.after, (Tree.memberValue? (fileDepth - 1) m).isSome = true

end Wrapper

/-- The member that is read, where it can be. -/
def member (depth : Nat) (m : Member) : String × Value :=
  (Tree.memberValue? depth m).getD ("", .null)

/-- A member that can be read is read as its name and its value. -/
lemma memberValue?_eq_member {depth : Nat} {m : Member}
    (h : (Tree.memberValue? depth m).isSome = true) :
    Tree.memberValue? depth m = some (member depth m) := by
  obtain ⟨own, eq⟩ := Option.isSome_iff_exists.mp h
  rw [member, eq]
  rfl

/-- A member is read under the name that is spelled. -/
lemma memberValue?_of_spells {depth : Nat} {m : Member} {name : String}
    (spells : m.1.content.Spells name) :
    Tree.memberValue? depth m = (m.2.value? depth).map (name, ·) := by
  rw [Tree.memberValue?, Json.Spelling.string?_eq_some_iff.mpr spells]
  show (m.2.value? depth).bind _ = _
  cases m.2.value? depth <;> rfl

/-- Its name is then spelled correctly. -/
lemma spells_of_memberValue? {depth : Nat} {m : Member} {own : String × Value}
    (h : Tree.memberValue? depth m = some own) : m.1.content.Spells own.1 := by
  obtain ⟨name, spelled, h⟩ := Option.bind_eq_some_iff.mp h
  obtain ⟨v, -, h⟩ := Option.bind_eq_some_iff.mp h
  cases h
  exact Json.Spelling.string?_eq_some_iff.mp spelled

section named

variable {name : String} {members : List (String × Value)}

/-- The first member counts if it has the name. -/
lemma membersNamed_cons (m : String × Value) :
    membersNamed name (m :: members) =
      if m.1 = name then m.2 :: membersNamed name members else membersNamed name members := by
  rw [membersNamed, List.filter_cons]
  by_cases own : m.1 = name <;> simp [own, membersNamed]

/-- The members of a name are those of both parts. -/
lemma membersNamed_append (members' : List (String × Value)) :
    membersNamed name (members ++ members') =
      membersNamed name members ++ membersNamed name members' := by
  simp [membersNamed]

/-- A name that no member has finds nothing. -/
lemma membersNamed_eq_nil (other : ∀ m ∈ members, m.1 ≠ name) : membersNamed name members = [] := by
  simpa [membersNamed] using other

/-- The order of the members does not matter for a name that at most one of them has. -/
lemma membersNamed_of_perm {members' : List (String × Value)} {vs : List Value}
    (perm : members.Perm members') (named : membersNamed name members' = vs)
    (few : vs.length ≤ 1) : membersNamed name members = vs := by
  have same : (membersNamed name members).Perm (membersNamed name members') :=
    (perm.filter _).map _
  rw [named] at same
  match vs with
  | [] => exact List.perm_nil.mp same
  | [v] => exact List.perm_singleton.mp same

end named

namespace Wrapper

variable {w : Wrapper}

/-- A readable wrapper has the value of the array among members of other names. -/
lemma value?_around (readable : w.Readable) (documents : Padded Tree) :
    ∃ before after : List (String × Value), (∀ m ∈ before ++ after, m.1 ≠ "documents") ∧
      (w.around documents).value? fileDepth =
        (documents.value? (fileDepth - 1)).map fun v =>
          .object (before ++ ("documents", v) :: after) := by
  refine ⟨w.before.map (member (fileDepth - 1)), w.after.map (member (fileDepth - 1)), ?_, ?_⟩
  · intro own mem
    rw [← List.map_append] at mem
    obtain ⟨m, written, rfl⟩ := List.mem_map.mp mem
    intro eq
    have spells := spells_of_memberValue? (memberValue?_eq_member (readable m written))
    exact w.others m written (eq ▸ spells)
  · have before : w.before.mapM (Tree.memberValue? (fileDepth - 1)) =
        some (w.before.map (member (fileDepth - 1))) :=
      mapM_eq_some_map fun m mem =>
        memberValue?_eq_member (readable m (List.mem_append_left _ mem))
    have after : w.after.mapM (Tree.memberValue? (fileDepth - 1)) =
        some (w.after.map (member (fileDepth - 1))) :=
      mapM_eq_some_map fun m mem =>
        memberValue?_eq_member (readable m (List.mem_append_right _ mem))
    have own : Tree.memberValue? (fileDepth - 1) (w.name, documents) =
        (documents.value? (fileDepth - 1)).map ("documents", ·) :=
      memberValue?_of_spells w.spells
    -- An object is only entered at a depth that is written as a successor.
    show (w.around documents).value? (fileDepth - 1 + 1) = _
    rw [around, Tree.value?_object, List.mapM_append, List.mapM_cons, before, after, own]
    cases documents.value? (fileDepth - 1) <;> rfl

/-- A wrapper that is not readable spoils the file. -/
lemma value?_around_eq_none (stuck : ¬ w.Readable) (documents : Padded Tree) :
    (w.around documents).value? fileDepth = none := by
  simp only [Readable, not_forall, Bool.not_eq_true, Option.isSome_eq_false_iff,
    Option.isNone_iff_eq_none] at stuck
  obtain ⟨m, mem, stuck⟩ := stuck
  have here : m ∈ w.before ++ (w.name, documents) :: w.after := by
    rw [List.mem_append, List.mem_cons]
    rcases List.mem_append.mp mem with before | after
    · exact .inl before
    · exact .inr (.inr after)
  show (w.around documents).value? (fileDepth - 1 + 1) = _
  rw [around, Tree.value?_object, mapM_eq_none here stuck]
  rfl

end Wrapper

/-- What a file with an object around an array of documents comes to, beside a file with the array
alone. Blanks may stand around either, and around the array in the object. -/
structure SameStore (array : Tree) (w : Wrapper) : Prop where
  same : w.Readable → ∀ bare documents whole : Padded Tree, bare.content = array →
    documents.content = array → whole.content = w.around documents →
    load (file whole) = load (file bare)
  refused : ¬ w.Readable → ∀ documents whole : Padded Tree, whole.content = w.around documents →
    load (file whole) = .error .malformed

/-- The value of an array is looked at in the same way by itself and as documents. -/
lemma loaded_documents {v : Value} {before after : List (String × Value)}
    (others : ∀ m ∈ before ++ after, m.1 ≠ "documents") (array : ∃ vs, v = .array vs) :
    loaded (some (.object (before ++ ("documents", v) :: after))) = loaded (some v) := by
  have named : membersNamed "documents" (before ++ ("documents", v) :: after) = [v] := by
    rw [membersNamed_append, membersNamed_cons, if_pos rfl,
      membersNamed_eq_nil fun m mem => others m (List.mem_append_left _ mem),
      membersNamed_eq_nil fun m mem => others m (List.mem_append_right _ mem)]
    rfl
  obtain ⟨vs, rfl⟩ := array
  simp only [loaded, fileRecords?, named]

/-- An array and a wrapper around it load the same store. -/
lemma sameStore {inside : Blanks} {items : List (Padded Tree)}
    (nested : (Tree.array inside items).Nested (fileDepth - 1)) (w : Wrapper) :
    SameStore (.array inside items) w where
  same := by
    intro readable bare documents whole ofBare ofDocuments ofWhole
    obtain ⟨before, after, others, around⟩ := Wrapper.value?_around readable documents
    have deeper : (Tree.array inside items).value? fileDepth =
        (Tree.array inside items).value? (fileDepth - 1) :=
      nested.value?_eq (by decide)
    rw [load_file, load_file, Padded.value?, Padded.value?, ofWhole, ofBare, around, Padded.value?,
      ofDocuments, deeper]
    cases read : (Tree.array inside items).value? (fileDepth - 1) with
    | none => rfl
    | some v => exact loaded_documents others (Tree.exists_of_value?_array read)
  refused := by
    intro stuck documents whole ofWhole
    rw [load_file, Padded.value?, ofWhole, Wrapper.value?_around_eq_none stuck documents]
    rfl

/-- A member gives a record a text under a name. -/
def Gives (name text : String) (m : Member) : Prop :=
  m.1.content.Spells name ∧ ∃ s : Spelling, m.2.content = .string s ∧ s.Spells text

/-- A member can be read, and no part of a record has its name. -/
def Ignored (m : Member) : Prop :=
  ∃ name v, Tree.memberValue? (fileDepth - 2) m = some (name, v) ∧
    name ≠ "title" ∧ name ≠ "content" ∧ name ≠ "url"

/-- Some members, in any order, describe a record. A content that is empty may be left out. -/
inductive Describes (r : Record) : List Member → Prop where
  | full {title content url : Member} {others members : List Member} :
    Gives "title" r.title title →
    Gives "content" r.content content →
    Gives "url" r.url url →
    (∀ m ∈ others, Ignored m) →
    members.Perm (title :: content :: url :: others) →
    Describes r members
  | noContent {title url : Member} {others members : List Member} :
    r.content = "" →
    Gives "title" r.title title →
    Gives "url" r.url url →
    (∀ m ∈ others, Ignored m) →
    members.Perm (title :: url :: others) →
    Describes r members

/-- An item of an array is an object that describes a record. -/
def Presents (p : Padded Tree) (r : Record) : Prop :=
  ∃ inside members, p.content = .object inside members ∧ Describes r members

/-- A tree is an array of objects that describe the records one by one. -/
def Lists (t : Tree) (records : List Record) : Prop :=
  ∃ inside items, t = .array inside items ∧ List.Forall₂ Presents items records

/-- A member that gives a text has that text as its value. -/
lemma Gives.memberValue? {name text : String} {m : Member} (h : Gives name text m) :
    Tree.memberValue? (fileDepth - 2) m = some (name, .string text) := by
  obtain ⟨spells, s, content, spelled⟩ := h
  rw [memberValue?_of_spells spells, Padded.value?, content, Tree.value?,
    Json.Spelling.string?_eq_some_iff.mpr spelled]
  rfl

/-- So it is read under its name. -/
lemma Gives.member {name text : String} {m : Member} (h : Gives name text m) :
    member (fileDepth - 2) m = (name, .string text) := by
  rw [Store.member, h.memberValue?]
  rfl

/-- Ignored members are not found under the names that count. -/
lemma membersNamed_ignored {others : List Member} (ignored : ∀ m ∈ others, Ignored m) :
    ∀ name ∈ ["title", "content", "url"],
      membersNamed name (others.map (member (fileDepth - 2))) = [] := by
  intro name known
  refine membersNamed_eq_nil fun own mem => ?_
  obtain ⟨m, written, rfl⟩ := List.mem_map.mp mem
  obtain ⟨unknown, v, read, noTitle, noContent, noUrl⟩ := ignored m written
  rw [member, read]
  rintro rfl
  simp [noTitle, noContent, noUrl] at known

namespace Describes

variable {r : Record} {members : List Member}

/-- Every member of a description can be read. -/
lemma isSome_memberValue? (h : Describes r members) :
    ∀ m ∈ members, (Tree.memberValue? (fileDepth - 2) m).isSome = true := by
  have given {name text : String} {m : Member} (gives : Gives name text m) :
      (Tree.memberValue? (fileDepth - 2) m).isSome = true := by
    rw [gives.memberValue?]
    rfl
  have other {m : Member} (ignored : Ignored m) :
      (Tree.memberValue? (fileDepth - 2) m).isSome = true := by
    obtain ⟨name, v, read, -⟩ := ignored
    rw [read]
    rfl
  cases h with
  | @full title content url others _ hasTitle hasContent hasUrl ignored perm =>
    have all : ∀ m ∈ title :: content :: url :: others,
        (Tree.memberValue? (fileDepth - 2) m).isSome = true := by
      simp only [List.forall_mem_cons]
      exact ⟨given hasTitle, given hasContent, given hasUrl, fun m mem => other (ignored m mem)⟩
    exact fun m mem => all m (perm.mem_iff.mp mem)
  | @noContent title url others _ _ hasTitle hasUrl ignored perm =>
    have all : ∀ m ∈ title :: url :: others,
        (Tree.memberValue? (fileDepth - 2) m).isSome = true := by
      simp only [List.forall_mem_cons]
      exact ⟨given hasTitle, given hasUrl, fun m mem => other (ignored m mem)⟩
    exact fun m mem => all m (perm.mem_iff.mp mem)

/-- Its value is the object of the members that were read. -/
lemma value? (h : Describes r members) (inside : Blanks) :
    (Tree.object inside members).value? (fileDepth - 1) =
      some (.object (members.map (member (fileDepth - 2)))) := by
  have all : members.mapM (Tree.memberValue? (fileDepth - 2)) =
      some (members.map (member (fileDepth - 2))) :=
    mapM_eq_some_map fun m mem => memberValue?_eq_member (h.isSome_memberValue? m mem)
  show (Tree.object inside members).value? (fileDepth - 2 + 1) = _
  rw [Tree.value?_object, all]
  rfl

/-- The fields of a record are found under their names, whatever the order of the members. -/
lemma record? (h : Describes r members) :
    record? (.object (members.map (member (fileDepth - 2)))) = some r := by
  cases h with
  | full title content url others perm =>
    have none := membersNamed_ignored others
    -- The members are any permutation of these, in which each name still occurs once.
    have fields := perm.map (member (fileDepth - 2))
    simp only [List.map_cons, title.member, content.member, url.member] at fields
    have atTitle : membersNamed "title" _ = [.string r.title] :=
      membersNamed_of_perm fields (by simp [membersNamed_cons, none]) (Nat.le_refl 1)
    have atContent : membersNamed "content" _ = [.string r.content] :=
      membersNamed_of_perm fields (by simp [membersNamed_cons, none]) (Nat.le_refl 1)
    have atUrl : membersNamed "url" _ = [.string r.url] :=
      membersNamed_of_perm fields (by simp [membersNamed_cons, none]) (Nat.le_refl 1)
    simp [Store.record?, stringMember?, optionalMember?, atTitle, atContent, atUrl]
  | noContent empty title url others perm =>
    have none := membersNamed_ignored others
    have fields := perm.map (member (fileDepth - 2))
    simp only [List.map_cons, title.member, url.member] at fields
    have atTitle : membersNamed "title" _ = [.string r.title] :=
      membersNamed_of_perm fields (by simp [membersNamed_cons, none]) (Nat.le_refl 1)
    have atContent : membersNamed "content" _ = [] :=
      membersNamed_of_perm fields (by simp [membersNamed_cons, none]) (Nat.zero_le 1)
    have atUrl : membersNamed "url" _ = [.string r.url] :=
      membersNamed_of_perm fields (by simp [membersNamed_cons, none]) (Nat.le_refl 1)
    simp [Store.record?, stringMember?, optionalMember?, atTitle, atContent, atUrl, ← empty]

end Describes

/-- Objects that describe records one by one are read as these records. -/
lemma exists_records {items : List (Padded Tree)} {records : List Record}
    (h : List.Forall₂ Presents items records) :
    ∃ vs, items.mapM (Padded.value? (fileDepth - 1)) = some vs ∧
      vs.mapM record? = some records := by
  -- By the pairs of an item and its record, in the order of the list.
  induction h with
  | nil => exact ⟨[], rfl, rfl⟩
  | @cons p r items records first _ ih =>
    obtain ⟨inside, members, content, describes⟩ := first
    obtain ⟨vs, read, same⟩ := ih
    refine ⟨.object (members.map (member (fileDepth - 2))) :: vs, ?_, ?_⟩
    · rw [List.mapM_cons, Padded.value?, content, describes.value? inside, read]
      rfl
    · rw [List.mapM_cons, describes.record?, same]
      rfl

/-- A file that lists records with urls of their own is loaded as a store of them. -/
lemma Lists.exists_load {p : Padded Tree} {records : List Record} (h : Lists p.content records)
    (keyed : Keyed records) : ∃ store, load (file p) = .ok store ∧ store.records = records := by
  obtain ⟨inside, items, content, each⟩ := h
  obtain ⟨vs, read, same⟩ := exists_records each
  obtain ⟨store, ok, kept⟩ := keyed.exists_ofRecords
  have value : (Tree.array inside items).value? (fileDepth - 1 + 1) = some (.array vs) := by
    rw [Tree.value?_array, read]
    rfl
  refine ⟨store, ?_, kept⟩
  rw [load_file, Padded.value?, content]
  show loaded ((Tree.array inside items).value? (fileDepth - 1 + 1)) = _
  simp only [value, loaded, fileRecords?, recordArray?, same, ok]
  rfl

/-- Every list of records can be written. -/
lemma exists_lists (records : List Record) : ∃ p : Padded Tree, Lists p.content records := by
  have gives (name text : String) : ∃ m, Gives name text m := by
    obtain ⟨s, spelled⟩ := Spelling.exists_spells name
    obtain ⟨s', spelled'⟩ := Spelling.exists_spells text
    exact ⟨(⟨.none, s, .none⟩, ⟨.none, .string s', .none⟩), spelled, s', rfl, spelled'⟩
  suffices each : ∃ items, List.Forall₂ Presents items records by
    obtain ⟨items, each⟩ := each
    exact ⟨⟨.none, .array .none items, .none⟩, .none, items, rfl, each⟩
  induction records with
  | nil => exact ⟨[], .nil⟩
  | cons r records ih =>
    obtain ⟨items, each⟩ := ih
    obtain ⟨title, hasTitle⟩ := gives "title" r.title
    obtain ⟨content, hasContent⟩ := gives "content" r.content
    obtain ⟨url, hasUrl⟩ := gives "url" r.url
    have describes : Describes r [title, content, url] :=
      .full hasTitle hasContent hasUrl (fun _ mem => absurd mem List.not_mem_nil) (.refl _)
    exact ⟨⟨.none, .object .none _, .none⟩ :: items, .cons ⟨.none, _, rfl, describes⟩ each⟩

/-- An array of documents and an object around it load alike, and records that are written as such
an array, which all records can be, are loaded as they are. -/
theorem load_written :
    (∀ inside items, (Tree.array inside items).Nested (fileDepth - 1) →
      ∀ w, SameStore (.array inside items) w) ∧
    (∀ records, Keyed records → ∀ p : Padded Tree, Lists p.content records →
      ∃ store, load (file p) = .ok store ∧ store.records = records) ∧
    ∀ records, ∃ p : Padded Tree, Lists p.content records :=
  ⟨fun _ _ nested w => sameStore nested w, fun _ keyed _ lists => lists.exists_load keyed,
    exists_lists⟩

/-- A name that is written without escapes. -/
def plainName (name : String) (ordinary : name.toList.all Json.isOrdinary = true) :
    Padded Spelling :=
  ⟨.none, .plain name ordinary, .none⟩

/-- A name of ordinary characters is spelled by itself. -/
lemma plainName_spells {name : String} (ordinary : name.toList.all Json.isOrdinary = true) :
    (plainName name ordinary).content.Spells name :=
  Spelling.plain_spells ordinary

def guideTitle : Member :=
  (plainName "title" (by decide), ⟨.none,
    .string ⟨[.unit ⟨⟨0, false⟩, ⟨0, false⟩, ⟨4, false⟩, ⟨1, false⟩⟩]⟩, .none⟩)

def guideUrl : Member :=
  (plainName "url" (by decide), ⟨.none,
    .string ⟨[.short ('/', '/') (by decide), .plain 'a' (by decide),
      .short ('/', '/') (by decide)]⟩, .none⟩)

def guideNote : Member :=
  (plainName "note" (by decide), ⟨.none, .null, .none⟩)

/-- A page in an array, with its url before its title, escapes in both, and no content:
`[{"url":"\/a\/","note":null,"title":"\u0041"}]`. -/
def guideArray : Tree :=
  .array .none [⟨.none, .object .none [guideUrl, guideNote, guideTitle], .none⟩]

/-- An object with a number beside its documents. -/
def withVersion (n : Json.Numeral) : Wrapper where
  inside := .none
  before := []
  name := plainName "documents" (by decide)
  after := [(plainName "version" (by decide), ⟨.none, .number n, .none⟩)]
  spells := plainName_spells _
  others := by
    intro m mem spells
    cases List.mem_singleton.mp mem
    exact absurd (spells.eq (plainName_spells _)) (by decide)

/-- A wrapper with a version is readable if the number is in range. -/
lemma readable_withVersion_iff {n : Json.Numeral} :
    (withVersion n).Readable ↔ n.literal.inRange = true := by
  have value : Tree.memberValue? (fileDepth - 1)
      (plainName "version" (by decide), ⟨.none, .number n, .none⟩) =
        (if n.literal.inRange then some (.number n.text) else none).map ("version", ·) := by
    rw [memberValue?_of_spells (plainName_spells _), Padded.value?, Tree.value?]
  rw [Wrapper.Readable, withVersion, List.nil_append, List.forall_mem_singleton, value]
  cases n.literal.inRange <;> simp

/-- The number `0.5`. -/
def half : Json.Numeral :=
  ⟨false, ⟨['0'], by decide, by decide⟩, by decide, some ⟨['5'], by decide, by decide⟩, none⟩

/-- The number `1e999`, which no double is near to. -/
def huge : Json.Numeral :=
  ⟨false, ⟨['1'], by decide, by decide⟩, by decide, none,
    some ⟨false, none, ⟨['9', '9', '9'], by decide, by decide⟩⟩⟩

/-- A numeral that is too great makes a wrapper unreadable. -/
lemma not_readable_huge : ¬ (withVersion huge).Readable := by
  rw [readable_withVersion_iff]
  decide

/-- The array lists one record, and ignores the note. -/
lemma lists_guideArray : Lists guideArray [⟨"A", "", "/a/"⟩] := by
  have title : Gives "title" "A" guideTitle := ⟨plainName_spells _, _, rfl, .unit rfl .nil⟩
  have url : Gives "url" "/a/" guideUrl :=
    ⟨plainName_spells _, _, rfl, .short (.plain (.short .nil))⟩
  have note : Ignored guideNote := by
    refine ⟨"note", .null, ?_, by decide, by decide, by decide⟩
    rw [memberValue?_of_spells (plainName_spells _), guideNote, Padded.value?, Tree.value?]
    rfl
  have describes : Describes ⟨"A", "", "/a/"⟩ [guideUrl, guideNote, guideTitle] :=
    .noContent rfl title url (List.forall_mem_singleton.mpr note)
      (List.perm_append_singleton guideTitle [guideUrl, guideNote])
  exact ⟨.none, _, rfl, .cons ⟨.none, _, rfl, describes⟩ .nil⟩

/-- It is not nested too deep. -/
lemma nested_guideArray : guideArray.Nested (fileDepth - 1) := by
  refine .array (List.forall_mem_singleton.mpr (.object ?_))
  simp only [List.forall_mem_cons]
  exact ⟨.string, .null, .string, nofun⟩

/-- A tree whose text is known has that text as its file. -/
lemma file_eq {p : Padded Tree} {s : String} (text : p.text = s.toList) :
    file p = some s.toUTF8 := by
  rw [file, text, String.ofList_toList]

/-- So for one page in either layout, and not with a version that is too great. -/
theorem load_written_guide :
    guideArray.Nested (fileDepth - 1) ∧ (withVersion half).Readable ∧
      ¬ (withVersion huge).Readable ∧ Keyed [⟨"A", "", "/a/"⟩] ∧
      Lists guideArray [⟨"A", "", "/a/"⟩] ∧
      load (file ⟨.none, (withVersion half).around ⟨.none, guideArray, .none⟩, .none⟩) =
        load (file ⟨.none, guideArray, .none⟩) ∧
      load (file ⟨.none, (withVersion huge).around ⟨.none, guideArray, .none⟩, .none⟩) =
        .error .malformed ∧
      ∃ store, load (file ⟨.none, guideArray, .none⟩) = .ok store ∧
        store.records = [⟨"A", "", "/a/"⟩] := by
  have readable : (withVersion half).Readable := readable_withVersion_iff.mpr (by decide)
  have keyed : Keyed [⟨"A", "", "/a/"⟩] := ⟨by simp, by simp⟩
  have alike := (load_written.1 _ _ nested_guideArray (withVersion half)).same readable
    ⟨.none, guideArray, .none⟩ ⟨.none, guideArray, .none⟩
    ⟨.none, (withVersion half).around ⟨.none, guideArray, .none⟩, .none⟩ rfl rfl rfl
  have refused := (load_written.1 _ _ nested_guideArray (withVersion huge)).refused
    not_readable_huge ⟨.none, guideArray, .none⟩
    ⟨.none, (withVersion huge).around ⟨.none, guideArray, .none⟩, .none⟩ rfl
  have loads := load_written.2.1 _ keyed ⟨.none, guideArray, .none⟩ lists_guideArray
  exact ⟨nested_guideArray, readable, not_readable_huge, keyed, lists_guideArray, alike, refused,
    loads⟩

/-- What an object has beside its documents is read with them, so that a number out of range there
is an error, although the documents by themselves are not. -/
theorem refused_of_huge :
    file ⟨.none, .array .none [], .none⟩ = some "[]".toUTF8 ∧
      file ⟨.none, (withVersion huge).around ⟨.none, .array .none [], .none⟩, .none⟩ =
        some "\x7b\"documents\":[],\"version\":1e999\x7d".toUTF8 ∧
      (∃ store, load (some "[]".toUTF8) = .ok store ∧ store.records = []) ∧
      load (some "\x7b\"documents\":[],\"version\":1e999\x7d".toUTF8) = .error .malformed := by
  have bare : file ⟨.none, .array .none [], .none⟩ = some "[]".toUTF8 := by
    refine file_eq ?_
    rw [Padded.text, Tree.text_array]
    rfl
  have whole : file ⟨.none, (withVersion huge).around ⟨.none, .array .none [], .none⟩, .none⟩ =
      some "\x7b\"documents\":[],\"version\":1e999\x7d".toUTF8 := by
    refine file_eq ?_
    simp only [Padded.text, Wrapper.around, withVersion, Tree.text_object, Tree.text_array,
      Tree.text, Tree.memberText, List.map_append, List.map_cons]
    rfl
  have empty : Lists (.array .none []) [] := ⟨.none, [], rfl, .nil⟩
  have keyed : Keyed [] := ⟨by simp, by simp⟩
  have loads := Lists.exists_load (p := ⟨.none, .array .none [], .none⟩) empty keyed
  refine ⟨bare, whole, bare ▸ loads, ?_⟩
  rw [← whole, load_file, Padded.value?, Wrapper.value?_around_eq_none not_readable_huge]
  rfl

end Store
end PageSearch
