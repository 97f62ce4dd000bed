import PageSearch.Proofs.Cache.Recovery

/-!
# Calls under way

The calls that one process makes for one index write the same temporary file. Any number of them are
under way on a folder, and a schedule tells whose turn it is at each file operation, so that every
order of the operations is that of a schedule.

Whatever the schedule is, every file is empty or holds a whole encoding of the built index, and it
is empty only as long as some call is about to write into it (`Orderly`).
-/

namespace PageSearch
namespace Cache

namespace Call

/-- The call with its entries in another order. -/
def inOrder (c : Call) (order : EntryOrder) : Call :=
  { c with order }

/-- The name of the temporary file. -/
def temporary (c : Call) : String :=
  temporaryName c.key c.writer

/-- The temporary file is another one than the file. -/
lemma file_ne_temporary (c : Call) : fileName c.key ≠ c.temporary :=
  fileName_ne_temporaryName

/-- What is left after the index could not be stored. -/
def clearing (c : Call) : FileTask Nat Index :=
  .remove c.temporary (.done c.built)

/-- What is left when the temporary file is written. -/
def moving (c : Call) : FileTask Nat Index :=
  .rename c.temporary (fileName c.key) fun renamed =>
    if renamed then .done c.built else c.clearing

/-- What is left when the temporary file is created. -/
def writing (c : Call) (number : Nat) : FileTask Nat Index :=
  .write number c.bytes fun written => if written then c.moving else c.clearing

/-- What is left when the directory is made. -/
def creating (c : Call) : FileTask Nat Index :=
  .create c.temporary fun file =>
    match file with
    | none => c.clearing
    | some number => c.writing number

/-- What is left when the index is built. -/
def making (c : Call) : FileTask Nat Index :=
  .makeFolder fun made => if made then c.creating else .done c.built

/-- What is left when the file has turned out not to be usable. -/
def removing (c : Call) : FileTask Nat Index :=
  .remove (fileName c.key) c.making

/-- The index is stored by the operations that are left when it is built. -/
lemma keep_eq_making (c : Call) :
    keep Nat c.order c.writer c.key c.built = c.making := by
  simp only [keep, making, creating, clearing, writing, moving, temporary, bytes]
  congr
  funext made
  cases made with
  | false => rfl
  | true =>
    simp only [if_true, FileTask.create.injEq, true_and]
    funext file
    cases file <;> rfl

/-- A call begins with a look at the file, and goes on as that turns out. -/
lemma task_eq (c : Call) :
    c.task = .read (fileName c.key) fun found =>
      match found with
      | none => c.making
      | some bytes =>
        match usable? c.key bytes with
        | some index => .done index
        | none => c.removing := by
  simp only [removing, ← keep_eq_making]
  rfl

end Call

/-- How far a call has come. -/
inductive Stage where
  | reading
  | removing
  | making
  | creating
  | writing (number : Nat)
  | moving
  | clearing
  | ended (index : Index)

/-- What a call has still to do at a stage. -/
def Stage.task (c : Call) : Stage → FileTask Nat Index
  | .reading => c.task
  | .removing => c.removing
  | .making => c.making
  | .creating => c.creating
  | .writing number => c.writing number
  | .moving => c.moving
  | .clearing => c.clearing
  | .ended index => .done index

/-- What a step of a call can be: from its stage and the folder before it to those after it. -/
inductive Step (c : Call) (d : Folder) : Stage → Stage → Folder → Prop where
  | missed : d.read? (fileName c.key) = none → Step c d .reading .making d
  | used {bytes : List UInt8} {index : Index} : d.read? (fileName c.key) = some bytes →
    usable? c.key bytes = some index → Step c d .reading (.ended index) d
  | refused {bytes : List UInt8} : d.read? (fileName c.key) = some bytes →
    usable? c.key bytes = none → Step c d .reading .removing d
  | removed : Step c d .removing .making (d.remove (fileName c.key))
  | made : d.make.1 = true → Step c d .making .creating d.make.2
  | blocked : d.make.1 = false → Step c d .making (.ended c.built) d.make.2
  | created {number : Nat} {d' : Folder} : d.create c.temporary = (some number, d') →
    Step c d .creating (.writing number) d'
  | notCreated : d.create c.temporary = (none, d) → Step c d .creating .clearing d
  | written {number : Nat} : Step c d (.writing number) .moving (d.write number c.bytes).2
  | renamed {d' : Folder} : d.rename c.temporary (fileName c.key) = (true, d') →
    Step c d .moving (.ended c.built) d'
  | notRenamed {d' : Folder} : d.rename c.temporary (fileName c.key) = (false, d') →
    Step c d .moving .clearing d'
  | cleared : Step c d .clearing (.ended c.built) (d.remove c.temporary)
  | ended {index : Index} : Step c d (.ended index) (.ended index) d

/-- Whatever the stage and the folder, the next operation is one of the steps. -/
lemma exists_step (c : Call) (d : Folder) (stage : Stage) :
    ∃ stage', ((stage.task c).step d).1 = stage'.task c ∧
      Step c d stage stage' ((stage.task c).step d).2 := by
  cases stage with
  | reading =>
    simp only [Stage.task, Call.task_eq, FileTask.step]
    cases read : d.read? (fileName c.key) with
    | none => exact ⟨.making, rfl, .missed read⟩
    | some bytes =>
      cases usable : usable? c.key bytes with
      | none => exact ⟨.removing, by simp only [usable], .refused read usable⟩
      | some index => exact ⟨.ended index, by simp only [usable], .used read usable⟩
  | removing => exact ⟨.making, rfl, .removed⟩
  | making =>
    simp only [Stage.task, Call.making, FileTask.step]
    cases made : d.make.1 with
    | false => exact ⟨.ended c.built, rfl, .blocked made⟩
    | true => exact ⟨.creating, rfl, .made made⟩
  | creating =>
    simp only [Stage.task, Call.creating, FileTask.step]
    cases created : d.create c.temporary with
    | mk file d' =>
      cases file with
      | none =>
        have same : d' = d := Folder.create_of_eq_none created
        subst same
        exact ⟨.clearing, rfl, .notCreated created⟩
      | some number => exact ⟨.writing number, rfl, .created created⟩
  | writing number => exact ⟨.moving, rfl, .written⟩
  | moving =>
    simp only [Stage.task, Call.moving, FileTask.step]
    cases renamed : d.rename c.temporary (fileName c.key) with
    | mk done d' =>
      cases done with
      | false => exact ⟨.clearing, rfl, .notRenamed renamed⟩
      | true => exact ⟨.ended c.built, rfl, .renamed renamed⟩
  | clearing => exact ⟨.ended c.built, rfl, .cleared⟩
  | ended index => exact ⟨.ended index, rfl, .ended⟩

/-- A folder, and what the calls that are under way on it have still to do. -/
structure Process where
  folder : Folder
  tasks : List (FileTask Nat Index)

/-- Calls for one index before their first operations, on a directory with nothing in it. Each goes
through the entries of its map in an order of its own. -/
def start (c : Call) (orders : List EntryOrder) : Process :=
  ⟨⟨.directory [], []⟩, orders.map fun order => (c.inOrder order).task⟩

namespace Process

/-- One of the calls performs its next operation. -/
def turn (p : Process) (i : Nat) : Process :=
  match p.tasks[i]? with
  | some t => ⟨(t.step p.folder).2, p.tasks.set i (t.step p.folder).1⟩
  | none => p

/-- The calls perform their operations in the order of a schedule. -/
def run (p : Process) (schedule : List Nat) : Process :=
  schedule.foldl turn p

/-- The next operation of a call reads a file, and finds these bytes in it. -/
def Finds (p : Process) (i : Nat) (bytes : List UInt8) : Prop :=
  ∃ name next, p.tasks[i]? = some (.read name next) ∧ p.folder.read? name = some bytes

/-- The next operation of a call writes into a file. -/
def Writes (p : Process) (i number : Nat) : Prop :=
  ∃ bytes next, p.tasks[i]? = some (.write number bytes next)

/-- The next operation of a call creates a file. -/
def Creates (p : Process) (i : Nat) : Prop :=
  ∃ name next, p.tasks[i]? = some (.create name next)

/-- The next operation of a call gives a file another name. -/
def Renames (p : Process) (i : Nat) : Prop :=
  ∃ source target next, p.tasks[i]? = some (.rename source target next)

/-- A call has the temporary file: it has created it and has yet to write it, or to rename it. -/
def Has (p : Process) (i : Nat) : Prop :=
  (∃ number, p.Writes i number) ∨ p.Renames i

/-- No call creates the temporary file while another one has it. -/
def TakesTurns (p : Process) : List Nat → Prop
  | [] => True
  | i :: rest => (p.Creates i → ∀ j, ¬ p.Has j) ∧ (p.turn i).TakesTurns rest

end Process

/-- The bytes are a whole encoding of the index, in one of the orders. -/
def Whole (c : Call) (orders : List EntryOrder) (bytes : List UInt8) : Prop :=
  ∃ order ∈ orders, bytes = (c.inOrder order).bytes

section whole

variable {c : Call} {orders : List EntryOrder} {bytes : List UInt8}

/-- The encodings of an index in different orders have one length. -/
lemma length_bytes_inOrder (c : Call) (order order' : EntryOrder) :
    (c.inOrder order).bytes.length = (c.inOrder order').bytes.length := by
  have perm : (order.entries c.built.postings).Perm (order'.entries c.built.postings) :=
    (order.perm _).trans (order'.perm _).symm
  have entries := (perm.flatMap_right Stored.entryBytes).length_eq
  -- Neither the number of the entries nor all their bytes depend on the order.
  have counted := congrArg (fun n => (Bytes.varint n).length) perm.length_eq
  show (Stored.bytesInOrder storedFormat c.key (order.entries c.built.postings)
    c.built.refs).length = (Stored.bytesInOrder storedFormat c.key
      (order'.entries c.built.postings) c.built.refs).length
  simp only [Stored.bytesInOrder, Bytes.counted, List.length_append] at counted ⊢
  rw [counted, entries]

/-- A whole encoding is not empty. -/
lemma bytes_ne_nil_of_whole (whole : Whole c orders bytes) : bytes ≠ [] := by
  obtain ⟨order, -, rfl⟩ := whole
  have format : Bytes.varint storedFormat ≠ [] := by
    rw [Bytes.varint]
    split <;> exact List.cons_ne_nil _ _
  intro nil
  simp only [Call.bytes, Stored.bytes, Stored.bytesInOrder, List.append_eq_nil_iff] at nil
  exact format nil.1.1.1

/-- A call can use a whole encoding, and gets the built index from it. -/
lemma usable?_of_whole (sized : c.Sized) (whole : Whole c orders bytes) :
    usable? c.key bytes = some c.built := by
  obtain ⟨order, -, rfl⟩ := whole
  have sized' : (c.inOrder order).Sized := ⟨sized.terms, sized.urls⟩
  exact usable?_eq_some_iff.mpr (Call.ofBytes?_bytes sized')

/-- If it can use one at all, it gets the built index. -/
lemma eq_built_of_whole {index : Index} (whole : Whole c orders bytes)
    (usable : usable? c.key bytes = some index) : index = c.built := by
  obtain ⟨order, -, rfl⟩ := whole
  have read := Stored.eq_of_ofBytes?_bytes storedFormat_lt (usable?_eq_some_iff.mp usable)
  rw [Stored.mk.injEq] at read
  exact read.2.2

end whole

/-- A file is empty, or holds a whole encoding. -/
def EmptyOrWhole (c : Call) (orders : List EntryOrder) (bytes : List UInt8) : Prop :=
  bytes = [] ∨ Whole c orders bytes

/-- What a call writes into such a file takes the place of all that was in it. -/
lemma EmptyOrWhole.written {c : Call} {orders : List EntryOrder} {old : List UInt8}
    (before : EmptyOrWhole c orders old) (order : EntryOrder) :
    (c.inOrder order).bytes ++ old.drop (c.inOrder order).bytes.length =
      (c.inOrder order).bytes := by
  have nothing : old.drop (c.inOrder order).bytes.length = [] := by
    cases before with
    | inl empty => rw [empty, List.drop_nil]
    | inr whole =>
      obtain ⟨order', -, rfl⟩ := whole
      rw [length_bytes_inOrder c order order', List.drop_length]
  rw [nothing, List.append_nil]

/-- What holds whatever the schedule is. -/
structure Orderly (c : Call) (orders : List EntryOrder) (p : Process) : Prop where
  /-- Every call is at some stage, and has the built index when it has ended. -/
  staged : ∀ (i : Nat) (t : FileTask Nat Index), p.tasks[i]? = some t → ∃ order ∈ orders, ∃ stage,
    t = Stage.task (c.inOrder order) stage ∧ ∀ index, stage = .ended index → index = c.built
  /-- Every file is empty or holds a whole encoding. -/
  contents : ∀ bytes ∈ p.folder.contents, EmptyOrWhole c orders bytes
  /-- A file is empty only as long as some call is about to write it. -/
  awaited : ∀ number : Nat, p.folder.contents[number]? = some [] → ∃ i, p.Writes i number

section turn

variable {c : Call} {orders : List EntryOrder} {p : Process} {i j number : Nat}
  {t t' : FileTask Nat Index} {d' : Folder}

/-- A turn performs the next operation of its call. -/
lemma turn_eq (next : p.tasks[i]? = some t) :
    p.turn i = ⟨(t.step p.folder).2, p.tasks.set i (t.step p.folder).1⟩ := by
  simp only [Process.turn, next]

/-- Nothing happens when it is the turn of no call. -/
lemma turn_of_none (next : p.tasks[i]? = none) : p.turn i = p := by
  simp only [Process.turn, next]

/-- After a turn of one call, the others have to do what they had to do. -/
lemma tasks_set_cases (at' : (p.tasks.set i t')[j]? = some t) :
    i = j ∧ t = t' ∨ i ≠ j ∧ p.tasks[j]? = some t := by
  rw [List.getElem?_set] at at'
  split at at'
  · rename_i own
    split at at'
    · exact .inl ⟨own, (Option.some.inj at').symm⟩
    · cases at'
  · rename_i other
    exact .inr ⟨other, at'⟩

/-- A call that is about to write stays so while another one has its turn. -/
lemma writes_of_ne (other : i ≠ j) (writes : p.Writes j number) :
    Process.Writes ⟨d', p.tasks.set i t'⟩ j number := by
  obtain ⟨bytes, next, at'⟩ := writes
  exact ⟨bytes, next, by rw [List.getElem?_set_ne other]; exact at'⟩

/-- A call is at some stage before its turn, takes a step, and is at another one after it. -/
lemma Orderly.turn_cases (orderly : Orderly c orders p) (next : p.tasks[i]? = some t) :
    ∃ order ∈ orders, ∃ stage stage' d', t = Stage.task (c.inOrder order) stage ∧
      Step (c.inOrder order) p.folder stage stage' d' ∧
      p.turn i = ⟨d', p.tasks.set i (stage'.task (c.inOrder order))⟩ ∧
      ∀ index, stage = .ended index → index = c.built := by
  obtain ⟨order, among, stage, rfl, ended⟩ := orderly.staged i t next
  obtain ⟨stage', after, step⟩ := exists_step (c.inOrder order) p.folder stage
  refine ⟨order, among, stage, stage', _, rfl, step, ?_, ended⟩
  rw [turn_eq next, after]

/-- A step leaves files alone, empties one that it is then about to write, or writes one. -/
lemma Step.contents_cases {d : Folder} {stage stage' : Stage} (step : Step c d stage stage' d') :
    d'.contents = d.contents ∧ (∀ number, stage ≠ .writing number) ∨
      (∃ number, stage = .creating ∧ stage' = .writing number ∧
        (d'.contents = d.contents.set number [] ∨
          number = d.contents.length ∧ d'.contents = d.contents ++ [[]])) ∨
      ∃ number, stage = .writing number ∧
        d'.contents = d.contents.modify number (c.bytes ++ ·.drop c.bytes.length) := by
  cases step with
  | missed | used | refused | notCreated | ended => exact .inl ⟨rfl, by simp⟩
  | removed | cleared => exact .inl ⟨Folder.contents_remove, by simp⟩
  | made | blocked => exact .inl ⟨Folder.contents_make, by simp⟩
  | renamed renamed | notRenamed renamed =>
    have kept : (d.rename c.temporary (fileName c.key)).2.contents = d.contents :=
      Folder.contents_rename
    rw [renamed] at kept
    exact .inl ⟨kept, by simp⟩
  | created created =>
    rename_i number
    refine .inr (.inl ⟨number, rfl, rfl, ?_⟩)
    cases Folder.create_cases created with
    | inl emptied =>
      obtain ⟨-, rfl⟩ := emptied
      exact .inl rfl
    | inr added =>
      obtain ⟨entries, -, eq, rfl⟩ := added
      exact .inr ⟨eq, rfl⟩
  | written => exact .inr (.inr ⟨_, rfl, rfl⟩)

/-- A step ends a call with the index that it has built or found in the file. -/
lemma Step.ended_cases {d : Folder} {stage : Stage} {index : Index}
    (step : Step c d stage (.ended index) d') :
    index = c.built ∨ stage = .ended index ∨
      ∃ bytes, d.read? (fileName c.key) = some bytes ∧ usable? c.key bytes = some index := by
  cases step with
  | used read usable => exact .inr (.inr ⟨_, read, usable⟩)
  | blocked | renamed | cleared => exact .inl rfl
  | ended => exact .inr (.inl rfl)

/-- What can be read is empty or a whole encoding. -/
lemma Orderly.read (orderly : Orderly c orders p) {name : String} {bytes : List UInt8}
    (read : p.folder.read? name = some bytes) : EmptyOrWhole c orders bytes := by
  obtain ⟨number, -, at'⟩ := Folder.read?_eq_some_iff.mp read
  exact orderly.contents bytes (List.mem_of_getElem? at')

/-- An element of a list that was changed in one place is the changed one, or was there. -/
lemma getElem?_modify_cases {α : Type} {l : List α} {f : α → α} {k : Nat} {a : α}
    (at' : (l.modify k f)[number]? = some a) :
    k = number ∧ (∃ old, l[number]? = some old ∧ a = f old) ∨ k ≠ number ∧ l[number]? = some a := by
  rw [List.getElem?_modify, Option.map_eq_map, Option.map_eq_some_iff] at at'
  obtain ⟨old, at', rfl⟩ := at'
  by_cases own : k = number
  · exact .inl ⟨own, old, at', by simp [own]⟩
  · exact .inr ⟨own, by simpa [own] using at'⟩

/-- An element that is not the last one was there before it was added. -/
lemma getElem?_of_concat {α : Type} {l : List α} {a b : α} (at' : (l ++ [b])[number]? = some a)
    (other : number ≠ l.length) : l[number]? = some a := by
  rw [List.getElem?_append] at at'
  split at at'
  · exact at'
  · have : number - l.length ≠ 0 := by omega
    simp [this] at at'

/-- A call that is about to write into a file is at the stage for that. -/
lemma stage_of_write {stage : Stage} {bytes : List UInt8} {next : Bool → FileTask Nat Index}
    (eq : stage.task c = .write number bytes next) : stage = .writing number := by
  cases stage with
  | writing =>
    cases eq
    rfl
  | _ => cases eq

/-- A turn keeps what holds whatever the schedule is. -/
lemma Orderly.turn (orderly : Orderly c orders p) (i : Nat) : Orderly c orders (p.turn i) := by
  cases next : p.tasks[i]? with
  | none =>
    rw [turn_of_none next]
    exact orderly
  | some t =>
    obtain ⟨order, among, stage, stage', d', rfl, step, after, ended⟩ := orderly.turn_cases next
    rw [after]
    constructor
    case staged =>
      intro j t' at'
      rcases tasks_set_cases at' with ⟨-, rfl⟩ | ⟨-, old⟩
      · refine ⟨order, among, stage', rfl, ?_⟩
        rintro index rfl
        rcases step.ended_cases with built | same | ⟨bytes, read, usable⟩
        · exact built
        · exact ended index same
        · -- An index from the file was encoded by some call, since an empty file is of no use.
          cases orderly.read read with
          | inl empty =>
            rw [empty, usable?_nil] at usable
            cases usable
          | inr whole => exact eq_built_of_whole whole usable
      · exact orderly.staged j t' old
    case contents =>
      intro bytes mem
      -- The files are those before, or one of them is emptied, added or written over.
      rcases step.contents_cases with ⟨same, -⟩ | ⟨number, -, -, created⟩ | ⟨number, -, written⟩
      · rw [same] at mem
        exact orderly.contents bytes mem
      · rcases created with emptied | ⟨-, added⟩
        · rw [emptied] at mem
          exact (List.mem_or_eq_of_mem_set mem).elim (orderly.contents bytes) .inl
        · rw [added, List.mem_append, List.mem_singleton] at mem
          exact mem.elim (orderly.contents bytes) .inl
      · rw [written] at mem
        obtain ⟨k, at'⟩ := List.mem_iff_getElem?.mp mem
        rcases getElem?_modify_cases at' with ⟨-, old, before, rfl⟩ | ⟨-, kept⟩
        · rw [(orderly.contents old (List.mem_of_getElem? before)).written order]
          exact .inr ⟨order, among, rfl⟩
        · exact orderly.contents bytes (List.mem_of_getElem? kept)
    case awaited =>
      intro number empty
      -- What was empty before is awaited by the same call, unless that call has just written it.
      have before (old : p.folder.contents[number]? = some [])
          (other : stage ≠ .writing number) :
          ∃ j, Process.Writes ⟨d', p.tasks.set i (stage'.task (c.inOrder order))⟩ j number := by
        obtain ⟨j, writes⟩ := orderly.awaited number old
        refine ⟨j, writes_of_ne ?_ writes⟩
        rintro rfl
        obtain ⟨bytes, next', at'⟩ := writes
        rw [next] at at'
        exact other (stage_of_write (Option.some.inj at'))
      have own (here : stage' = .writing number) :
          ∃ j, Process.Writes ⟨d', p.tasks.set i (stage'.task (c.inOrder order))⟩ j number := by
        subst here
        refine ⟨i, _, _, List.getElem?_set_self ?_⟩
        exact (List.getElem?_eq_some_iff.mp next).1
      rcases step.contents_cases with ⟨same, other⟩ | ⟨k, rfl, rfl, created⟩ | ⟨k, rfl, written⟩
      · exact before (same ▸ empty) (other number)
      · by_cases new : number = k
        · exact own (by rw [new])
        · refine before ?_ (by simp)
          rcases created with emptied | ⟨rfl, added⟩
          · rwa [emptied, List.getElem?_set_ne (Ne.symm new)] at empty
          · rw [added] at empty
            exact getElem?_of_concat empty new
      · rw [written] at empty
        rcases getElem?_modify_cases empty with ⟨-, old, before', eq⟩ | ⟨other, kept⟩
        · rw [(orderly.contents old (List.mem_of_getElem? before')).written order] at eq
          exact absurd eq.symm (bytes_ne_nil_of_whole ⟨order, among, rfl⟩)
        · exact before kept (by simpa using other)

/-- Before its first operation a call is about to read the file. -/
lemma reading_of_start {i : Nat} {t : FileTask Nat Index}
    (at' : (start c orders).tasks[i]? = some t) :
    ∃ order ∈ orders, t = Stage.reading.task (c.inOrder order) := by
  rw [start, List.getElem?_map, Option.map_eq_some_iff] at at'
  obtain ⟨order, at', rfl⟩ := at'
  exact ⟨order, List.mem_of_getElem? at', rfl⟩

/-- At the beginning there are no files, and every call is about to read. -/
lemma orderly_start (c : Call) (orders : List EntryOrder) : Orderly c orders (start c orders) := by
  constructor
  case staged =>
    intro i t at'
    obtain ⟨order, among, rfl⟩ := reading_of_start at'
    exact ⟨order, among, .reading, rfl, by simp⟩
  case contents => simp [start]
  case awaited => simp [start]

/-- A whole schedule keeps what a turn keeps. -/
lemma Orderly.run (orderly : Orderly c orders p) (schedule : List Nat) :
    Orderly c orders (p.run schedule) := by
  induction schedule generalizing p with
  | nil => exact orderly
  | cons i rest ih => exact ih (orderly.turn i)

/-- A call reads the file and no other one. -/
lemma read?_of_finds (orderly : Orderly c orders p) {i : Nat} {bytes : List UInt8}
    (finds : p.Finds i bytes) : p.folder.read? (fileName c.key) = some bytes := by
  obtain ⟨name, next, at', read⟩ := finds
  obtain ⟨order, -, stage, eq, -⟩ := orderly.staged i _ at'
  cases stage with
  | reading =>
    rw [Stage.task, Call.task_eq, FileTask.read.injEq] at eq
    rw [eq.1] at read
    exact read
  | _ => cases eq

end turn

end Cache
end PageSearch
