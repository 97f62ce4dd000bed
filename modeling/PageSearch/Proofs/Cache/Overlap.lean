import PageSearch.Proofs.Cache.Process

/-!
# Calls that overlap

A call may create the temporary file anew, and thereby empty it, before another one that has written
it gives it the name of the file. A read then finds nothing at all in the file.

This does not happen as long as no call creates the temporary file while another one has it
(`Exclusive`). A read that finds the file then finds a whole encoding of the built index in it.
-/

namespace PageSearch
namespace Cache

/-- Who has the temporary file, and what is in it. -/
inductive Held (c : Call) (orders : List EntryOrder) (p : Process) : Prop where
  /-- No call has it, and it is not there. -/
  | free : (∀ j, ¬ p.Has j) → p.folder.entry? c.temporary = none → Held c orders p
  /-- One call is about to write it, and it is not the file that is read. -/
  | opened {i number : Nat} : p.Writes i number → (∀ j, p.Has j → j = i) →
    p.folder.entry? c.temporary = some (.file number) → number < p.folder.contents.length →
    p.folder.entry? (fileName c.key) ≠ some (.file number) → Held c orders p
  /-- One call is about to rename it, and it holds a whole encoding. -/
  | written {i number : Nat} {bytes : List UInt8} : p.Renames i → (∀ j, p.Has j → j = i) →
    p.folder.entry? c.temporary = some (.file number) →
    p.folder.contents[number]? = some bytes → Whole c orders bytes → Held c orders p

/-- What holds as long as no call creates the temporary file while another one has it. -/
structure Exclusive (c : Call) (orders : List EntryOrder) (p : Process) : Prop where
  directory : ∃ entries, p.folder.place = .directory entries
  /-- No call has failed to store its index. -/
  unfailed : ∀ (i : Nat) (order : EntryOrder), p.tasks[i]? ≠ some (c.inOrder order).clearing
  /-- The file that is read holds a whole encoding. -/
  file : ∀ e, p.folder.entry? (fileName c.key) = some e → ∃ number bytes, e = .file number ∧
    p.folder.contents[number]? = some bytes ∧ Whole c orders bytes
  held : Held c orders p

/-- A call at the stage has the temporary file. -/
def Stage.Holding : Stage → Prop
  | .writing _ | .moving => True
  | .reading | .removing | .making | .creating | .clearing | .ended _ => False

section exclusive

variable {c : Call} {orders : List EntryOrder} {order : EntryOrder} {p : Process} {i j : Nat}
  {stage stage' : Stage} {t' : FileTask Nat Index} {d' : Folder}

/-- Whether a call has the temporary file can be told from its stage. -/
lemma has_iff_holding (next : p.tasks[i]? = some (stage.task c)) : p.Has i ↔ stage.Holding := by
  constructor
  · intro has
    rcases has with ⟨number, bytes, after, at'⟩ | ⟨source, target, after, at'⟩
    · rw [next] at at'
      rw [stage_of_write (Option.some.inj at')]
      trivial
    · rw [next] at at'
      cases stage with
      | moving => trivial
      | _ => cases at'
  · intro holding
    cases stage with
    | writing number => exact .inl ⟨number, _, _, next⟩
    | moving => exact .inr ⟨_, _, _, next⟩
    | _ => cases holding

/-- A step of one call leaves another one with what it has. -/
lemma has_set_of_ne (other : i ≠ j) :
    Process.Has ⟨d', p.tasks.set i t'⟩ j ↔ p.Has j := by
  simp only [Process.Has, Process.Writes, Process.Renames, List.getElem?_set_ne other]

/-- After its step a call has its next task. -/
lemma getElem?_set_turn (next : p.tasks[i]? = some (stage.task c)) :
    (p.tasks.set i t')[i]? = some t' :=
  List.getElem?_set_self (List.getElem?_eq_some_iff.mp next).1

/-- After a step to a stage without the temporary file, a call has it if another one had it. -/
lemma has_of_has_turn (next : p.tasks[i]? = some (stage.task c)) (gives : ¬ stage'.Holding)
    (has : Process.Has ⟨d', p.tasks.set i (stage'.task c)⟩ j) : i ≠ j ∧ p.Has j := by
  by_cases own : i = j
  · subst own
    have at' : (p.tasks.set i (stage'.task c))[i]? = some (stage'.task c) := getElem?_set_turn next
    exact absurd ((has_iff_holding at').mp has) gives
  · exact ⟨own, (has_set_of_ne own).mp has⟩

/-- A step between stages without the temporary file leaves it to those who have it. -/
lemma Held.keep (held : Held c orders p) (next : p.tasks[i]? = some (stage.task (c.inOrder order)))
    (free : ¬ stage.Holding) (free' : ¬ stage'.Holding)
    (temporary : d'.entry? c.temporary = p.folder.entry? c.temporary)
    (file : ∀ e, d'.entry? (fileName c.key) = some e → p.folder.entry? (fileName c.key) = some e)
    (contents : d'.contents = p.folder.contents) :
    Held c orders ⟨d', p.tasks.set i (stage'.task (c.inOrder order))⟩ := by
  have others (j : Nat) (has : p.Has j) : i ≠ j := by
    rintro rfl
    exact free ((has_iff_holding next).mp has)
  -- Who has the temporary file has it still: the call that has moved neither had it nor has it now.
  cases held with
  | free none absent =>
    refine .free ?_ (temporary.trans absent)
    intro j has
    exact none j (has_of_has_turn next free' has).2
  | opened writes only entry lt other =>
    rename_i k number
    refine .opened (writes_of_ne (others k (.inl ⟨_, writes⟩)) writes) ?_ (temporary.trans entry)
      (contents ▸ lt) (fun same => other (file _ same))
    intro j has
    exact only j (has_of_has_turn next free' has).2
  | written renames only entry at' whole =>
    rename_i k number bytes
    refine .written (i := k) ?_ ?_ (temporary.trans entry) (contents ▸ at') whole
    · obtain ⟨source, target, after, task⟩ := renames
      have other := others k (.inr ⟨source, target, after, task⟩)
      exact ⟨source, target, after, by rw [List.getElem?_set_ne other]; exact task⟩
    · intro j has
      exact only j (has_of_has_turn next free' has).2

/-- A call that clears up is at the stage for that. -/
lemma stage_of_clearing (eq : stage.task (c.inOrder order) = t')
    {order' : EntryOrder} (clearing : t' = (c.inOrder order').clearing) : stage = .clearing := by
  cases stage with
  | clearing => rfl
  | removing =>
    -- To remove the file is another task, since the two names differ.
    rw [clearing] at eq
    simp only [Stage.task, Call.removing, Call.clearing, FileTask.remove.injEq] at eq
    exact absurd eq.1 fileName_ne_temporaryName
  | _ =>
    rw [clearing] at eq
    cases eq

/-- A step that stores nothing away leaves no call with a failure to clear up. -/
lemma unfailed_set (unfailed : ∀ (i : Nat) (order : EntryOrder),
      p.tasks[i]? ≠ some (c.inOrder order).clearing) (stored : stage' ≠ .clearing) (j : Nat)
    (order' : EntryOrder) :
    (p.tasks.set i (stage'.task (c.inOrder order)))[j]? ≠ some (c.inOrder order').clearing := by
  intro at'
  rcases tasks_set_cases at' with ⟨-, eq⟩ | ⟨-, old⟩
  · exact stored (stage_of_clearing rfl eq.symm)
  · exact unfailed j order' old

/-- A step between stages without the temporary file that leaves the files alone. -/
lemma Exclusive.keep (exclusive : Exclusive c orders p)
    (next : p.tasks[i]? = some (stage.task (c.inOrder order))) (free : ¬ stage.Holding)
    (free' : ¬ stage'.Holding) (stored : stage' ≠ .clearing)
    (directory : ∃ entries, d'.place = .directory entries)
    (temporary : d'.entry? c.temporary = p.folder.entry? c.temporary)
    (file : ∀ e, d'.entry? (fileName c.key) = some e → p.folder.entry? (fileName c.key) = some e)
    (contents : d'.contents = p.folder.contents) :
    Exclusive c orders ⟨d', p.tasks.set i (stage'.task (c.inOrder order))⟩ := by
  refine ⟨directory, unfailed_set exclusive.unfailed stored, ?_,
    exclusive.held.keep next free free' temporary file contents⟩
  intro e entry
  rw [contents]
  exact exclusive.file e (file e entry)

/-- Where no call has the temporary file, one can create it. -/
lemma Exclusive.create (exclusive : Exclusive c orders p)
    (next : p.tasks[i]? = some (Stage.creating.task (c.inOrder order)))
    (alone : ∀ j, ¬ p.Has j) :
    p.folder.create c.temporary = (some p.folder.contents.length, p.folder.put c.temporary []) ∧
      Exclusive c orders ⟨p.folder.put c.temporary [],
        p.tasks.set i ((Stage.writing p.folder.contents.length).task (c.inOrder order))⟩ := by
  -- Nobody has the temporary file, so there is none under its name.
  have absent : p.folder.entry? c.temporary = none := by
    cases exclusive.held with
    | free _ absent => exact absent
    | opened writes => exact absurd (.inl ⟨_, writes⟩) (alone _)
    | written renames => exact absurd (.inr renames) (alone _)
  have file : Folder.entry? (p.folder.put c.temporary []) (fileName c.key) =
      p.folder.entry? (fileName c.key) := by
    rw [Folder.entry?_put, if_neg c.file_ne_temporary]
  refine ⟨Folder.create_free exclusive.directory absent, ⟨_, rfl⟩,
    unfailed_set exclusive.unfailed (by simp), ?_, ?_⟩
  · -- A new file is numbered last, and the others keep their numbers.
    intro e entry
    rw [file] at entry
    obtain ⟨number, bytes, eq, at', whole⟩ := exclusive.file e entry
    refine ⟨number, bytes, eq, ?_, whole⟩
    exact List.getElem?_append_left (List.getElem?_eq_some_iff.mp at').1 ▸ at'
  · refine .opened (i := i) ⟨_, _, getElem?_set_turn next⟩ ?_ ?_ ?_ ?_
    · intro j has
      by_contra other
      exact alone j ((has_set_of_ne (Ne.symm other)).mp has)
    · rw [Folder.entry?_put, if_pos rfl]
    · simp [Folder.put]
    · intro entry
      rw [file] at entry
      obtain ⟨number, bytes, eq, at', -⟩ := exclusive.file _ entry
      cases eq
      exact Nat.lt_irrefl _ (List.getElem?_eq_some_iff.mp at').1

/-- The call that has the temporary file and is about to write it, writes it. -/
lemma Exclusive.write {number : Nat} (exclusive : Exclusive c orders p)
    (orderly : Orderly c orders p) (among : order ∈ orders)
    (next : p.tasks[i]? = some ((Stage.writing number).task (c.inOrder order))) :
    Exclusive c orders ⟨(p.folder.write number (c.inOrder order).bytes).2,
      p.tasks.set i (Stage.moving.task (c.inOrder order))⟩ := by
  have has : p.Has i := (has_iff_holding next).mpr trivial
  cases exclusive.held with
  | free none => exact absurd has (none i)
  | written renames only =>
    obtain ⟨source, target, after, at'⟩ := renames
    rw [← only i has, next] at at'
    cases at'
  | opened writes only entry lt other =>
    obtain ⟨bytes, after, at'⟩ := writes
    rw [← only i has, next] at at'
    cases at'
    refine ⟨exclusive.directory, unfailed_set exclusive.unfailed (by simp), ?_, ?_⟩
    · intro e found
      obtain ⟨k, bytes, rfl, at', whole⟩ := exclusive.file e found
      -- The file under the name is another one than that which is written.
      have distinct : number ≠ k := by
        rintro rfl
        exact other found
      refine ⟨k, bytes, rfl, ?_, whole⟩
      show (p.folder.contents.modify _ _)[k]? = _
      rw [List.getElem?_modify, at']
      exact congrArg some (if_neg distinct)
    · -- What was in the file is no longer than the encoding that is written over it.
      have old := orderly.contents _ (List.getElem_mem lt)
      have whole : Whole c orders (c.inOrder order).bytes := ⟨order, among, rfl⟩
      refine .written (i := i) ⟨_, _, _, getElem?_set_turn next⟩ ?_ entry ?_ whole
      · intro j has
        by_contra distinct
        exact distinct (((only j ((has_set_of_ne (Ne.symm distinct)).mp has))).trans
          (only i ‹p.Has i›).symm)
      · show (p.folder.contents.modify _ _)[number]? = _
        rw [List.getElem?_modify, List.getElem?_eq_getElem lt]
        exact congrArg some ((if_pos rfl).trans (old.written order))

/-- The call that has the temporary file and is about to rename it, renames it. -/
lemma Exclusive.rename (exclusive : Exclusive c orders p)
    (next : p.tasks[i]? = some (Stage.moving.task (c.inOrder order))) (index : Index) :
    ∃ d', p.folder.rename c.temporary (fileName c.key) = (true, d') ∧
      Exclusive c orders ⟨d', p.tasks.set i ((Stage.ended index).task (c.inOrder order))⟩ := by
  have has : p.Has i := (has_iff_holding next).mpr trivial
  cases exclusive.held with
  | free none => exact absurd has (none i)
  | opened writes only =>
    obtain ⟨bytes, after, at'⟩ := writes
    rw [← only i has, next] at at'
    cases at'
  | written renames only entry at' whole =>
    rename_i k number bytes
    -- Only a directory under the name could refuse the rename.
    have noDirectory : p.folder.entry? (fileName c.key) ≠ some .directory := by
      intro found
      obtain ⟨_, _, eq, -⟩ := exclusive.file _ found
      cases eq
    obtain ⟨d', renamed, contents, directory, file, temporary⟩ :=
      Folder.rename_file c.file_ne_temporary.symm entry noDirectory
    refine ⟨d', renamed, directory, unfailed_set exclusive.unfailed (by simp), ?_, ?_⟩
    · intro e found
      rw [file] at found
      exact ⟨number, bytes, (Option.some.inj found).symm, contents ▸ at', whole⟩
    · refine .free ?_ temporary
      intro j has
      obtain ⟨other, has⟩ := has_of_has_turn next (by simp [Stage.Holding]) has
      exact other ((only i ‹p.Has i›).trans (only j has).symm)

/-- A turn keeps what holds as long as calls take turns with the temporary file. -/
lemma Exclusive.turn (exclusive : Exclusive c orders p) (orderly : Orderly c orders p) (i : Nat)
    (turns : p.Creates i → ∀ j, ¬ p.Has j) : Exclusive c orders (p.turn i) := by
  cases next : p.tasks[i]? with
  | none =>
    rw [turn_of_none next]
    exact exclusive
  | some t =>
    obtain ⟨order, among, stage, stage', d', rfl, step, after, -⟩ := orderly.turn_cases next
    rw [after]
    -- Only to create, write or rename concerns the temporary file, and none of these can fail here.
    cases step with
    | missed | used | refused | ended =>
      exact exclusive.keep next (by simp [Stage.Holding]) (by simp [Stage.Holding]) (by simp)
        exclusive.directory rfl (fun _ => id) rfl
    | removed =>
      exact exclusive.keep next (by simp [Stage.Holding]) (by simp [Stage.Holding]) (by simp)
        (Folder.place_remove_directory exclusive.directory)
        (Folder.entry?_remove_of_ne c.file_ne_temporary.symm) (fun _ => Folder.entry?_of_remove)
        Folder.contents_remove
    | made | blocked =>
      rw [Folder.make_directory exclusive.directory]
      exact exclusive.keep next (by simp [Stage.Holding]) (by simp [Stage.Holding]) (by simp)
        exclusive.directory rfl (fun _ => id) rfl
    | created created =>
      obtain ⟨free, exclusive⟩ := exclusive.create next (turns ⟨_, _, next⟩)
      cases created.symm.trans free
      exact exclusive
    | notCreated created =>
      obtain ⟨free, -⟩ := exclusive.create next (turns ⟨_, _, next⟩)
      cases created.symm.trans free
    | written => exact exclusive.write orderly among next
    | renamed renamed =>
      obtain ⟨d', free, exclusive⟩ := exclusive.rename next c.built
      cases renamed.symm.trans free
      exact exclusive
    | notRenamed renamed =>
      obtain ⟨d', free, -⟩ := exclusive.rename next c.built
      cases renamed.symm.trans free
    | cleared => exact absurd next (exclusive.unfailed i order)

end exclusive

section run

variable {c : Call} {orders : List EntryOrder} {p : Process} {schedule : List Nat}

/-- At the beginning nobody has the temporary file. -/
lemma exclusive_start (c : Call) (orders : List EntryOrder) :
    Exclusive c orders (start c orders) := by
  have none (j : Nat) : ¬ (start c orders).Has j := by
    intro has
    have task : ∃ t, (start c orders).tasks[j]? = some t := by
      rcases has with ⟨_, _, _, at'⟩ | ⟨_, _, _, at'⟩ <;> exact ⟨_, at'⟩
    obtain ⟨t, at'⟩ := task
    obtain ⟨order, -, rfl⟩ := reading_of_start at'
    exact (has_iff_holding at').mp has
  refine ⟨⟨[], rfl⟩, ?_, ?_, .free none rfl⟩
  · intro i order at'
    obtain ⟨order', -, eq⟩ := reading_of_start at'
    cases stage_of_clearing eq.symm rfl
  · intro e entry
    cases entry

/-- A whole schedule keeps it so, if every turn does. -/
lemma Exclusive.run (exclusive : Exclusive c orders p) (orderly : Orderly c orders p)
    (turns : p.TakesTurns schedule) : Exclusive c orders (p.run schedule) := by
  -- The condition on a schedule speaks of each state before its turn, so the start varies.
  induction schedule generalizing p with
  | nil => exact exclusive
  | cons i rest ih => exact ih (exclusive.turn orderly i turns.1) (orderly.turn i) turns.2

end run

/-- What calls for one index find and answer when they overlap as a schedule tells. -/
structure Shared (c : Call) (orders : List EntryOrder) (schedule : List Nat) : Prop where
  /-- What a read of the file finds is a whole encoding, or nothing at all. -/
  found : ∀ (i : Nat) (bytes : List UInt8), ((start c orders).run schedule).Finds i bytes →
    EmptyOrWhole c orders bytes
  /-- It finds nothing only as long as some call is about to write into the file under its name. -/
  awaited : ∀ i : Nat, ((start c orders).run schedule).Finds i [] → ∃ j number,
    ((start c orders).run schedule).Writes j number ∧
      ((start c orders).run schedule).folder.entry? (fileName c.key) = some (.file number)
  /-- As long as calls take turns with the temporary file, it finds a whole encoding. -/
  whole : (start c orders).TakesTurns schedule → ∀ (i : Nat) (bytes : List UInt8),
    ((start c orders).run schedule).Finds i bytes → Whole c orders bytes
  /-- No call then treats the file as corrupt. -/
  used : (start c orders).TakesTurns schedule → c.Sized → ∀ (i : Nat) (bytes : List UInt8),
    ((start c orders).run schedule).Finds i bytes → usable? c.key bytes = some c.built
  /-- A call that has ended has the built index. -/
  answer : ∀ (i : Nat) (index : Index),
    ((start c orders).run schedule).tasks[i]? = some (.done index) → index = c.built

/-- Calls for one index that overlap find a whole encoding or an empty file, and find the second
only where one of them has created the temporary file while another one had it. -/
theorem shared_run (c : Call) (orders : List EntryOrder) (schedule : List Nat) :
    Shared c orders schedule := by
  have orderly := (orderly_start c orders).run schedule
  have whole (turns : (start c orders).TakesTurns schedule) (i : Nat) (bytes : List UInt8)
      (finds : ((start c orders).run schedule).Finds i bytes) : Whole c orders bytes := by
    obtain ⟨number, entry, at'⟩ := Folder.read?_eq_some_iff.mp (read?_of_finds orderly finds)
    have exclusive := (exclusive_start c orders).run (orderly_start c orders) turns
    obtain ⟨number', bytes', eq, held, whole⟩ := exclusive.file _ entry
    -- The name stands for one file, so the bytes that are read are those that are whole.
    cases eq
    cases at'.symm.trans held
    exact whole
  constructor
  case found =>
    intro i bytes finds
    exact orderly.read (read?_of_finds orderly finds)
  case awaited =>
    intro i finds
    obtain ⟨number, entry, at'⟩ := Folder.read?_eq_some_iff.mp (read?_of_finds orderly finds)
    obtain ⟨j, writes⟩ := orderly.awaited number at'
    exact ⟨j, number, writes, entry⟩
  case whole => exact whole
  case used =>
    intro turns sized i bytes finds
    exact usable?_of_whole sized (whole turns i bytes finds)
  case answer =>
    intro i index at'
    obtain ⟨order, -, stage, eq, ended⟩ := orderly.staged i _ at'
    -- No other stage than the last has such a task.
    cases stage with
    | ended _ =>
      cases eq
      exact ended index rfl
    | reading =>
      rw [Stage.task, Call.task_eq] at eq
      cases eq
    | _ => cases eq

section stages

variable {c : Call} {d d' : Folder} {stages : List Stage} {stage stage' : Stage} {i : Nat}
  {schedule : List Nat} {q : Process}

/-- Calls at some stages that go through their entries in one order. -/
def Process.ofStages (c : Call) (d : Folder) (stages : List Stage) : Process :=
  ⟨d, stages.map (Stage.task c)⟩

/-- A step has one outcome. -/
lemma Step.eq (step : Step c d stage stage' d') :
    (stage.task c).step d = (stage'.task c, d') := by
  cases step with
  | missed missing => simp only [Stage.task, Call.task_eq, FileTask.step, missing]
  | used read usable => simp only [Stage.task, Call.task_eq, FileTask.step, read, usable]
  | refused read unusable => simp only [Stage.task, Call.task_eq, FileTask.step, read, unusable]
  | made made => simp only [Stage.task, Call.making, FileTask.step, made, if_true]
  | blocked made => simp [Stage.task, Call.making, FileTask.step, made]
  | created created => simp only [Stage.task, Call.creating, FileTask.step, created]
  | notCreated created => simp only [Stage.task, Call.creating, FileTask.step, created]
  | renamed renamed => simp only [Stage.task, Call.moving, FileTask.step, renamed, if_true]
  | notRenamed renamed => simp [Stage.task, Call.moving, FileTask.step, renamed]
  | removed | written | cleared | ended => rfl

/-- One call makes a step, and the others stay at their stages. -/
lemma turn_ofStages (next : stages[i]? = some stage) (step : Step c d stage stage' d') :
    (Process.ofStages c d stages).turn i = .ofStages c d' (stages.set i stage') := by
  have at' : (Process.ofStages c d stages).tasks[i]? = some (stage.task c) := by
    simp [Process.ofStages, next]
  rw [turn_eq at', Process.ofStages, step.eq, Process.ofStages, List.map_set]

/-- It leaves the others their turns if it does not create the temporary file while one has it. -/
lemma takesTurns_ofStages (next : stages[i]? = some stage) (step : Step c d stage stage' d')
    (alone : stage = .creating → ∀ s ∈ stages, ¬ s.Holding)
    (rest : (Process.ofStages c d' (stages.set i stage')).TakesTurns schedule) :
    (Process.ofStages c d stages).TakesTurns (i :: schedule) := by
  refine ⟨fun creates j has => ?_, ?_⟩
  · have at' : (Process.ofStages c d stages).tasks[i]? = some (stage.task c) := by
      simp [Process.ofStages, next]
    have creating : stage = .creating := by
      obtain ⟨name, after, eq⟩ := creates
      rw [at'] at eq
      cases stage with
      | creating => rfl
      | _ => cases eq
    obtain ⟨t, atj⟩ : ∃ t, (Process.ofStages c d stages).tasks[j]? = some t := by
      rcases has with ⟨_, _, _, atj⟩ | ⟨_, _, _, atj⟩ <;> exact ⟨_, atj⟩
    obtain ⟨other, mem, rfl⟩ := Option.map_eq_some_iff.mp (List.getElem?_map.symm.trans atj)
    exact alone creating other (List.mem_of_getElem? mem) ((has_iff_holding atj).mp has)
  · rw [turn_ofStages next step]
    exact rest

/-- The rest of a schedule goes on from there. -/
lemma run_ofStages (next : stages[i]? = some stage) (step : Step c d stage stage' d') :
    (Process.ofStages c d stages).run (i :: schedule) =
      (Process.ofStages c d' (stages.set i stage')).run schedule :=
  congrArg (Process.run · schedule) (turn_ofStages next step)

end stages

section one

variable {c : Call} {bytes : List UInt8}

/-- A directory with nothing in it. -/
def bare : Folder := ⟨.directory [], []⟩

/-- A directory with one file. -/
def holding (name : String) (bytes : List UInt8) : Folder :=
  ⟨.directory [(name, .file 0)], [bytes]⟩

/-- The file is read under its name. -/
lemma read?_holding {name : String} : (holding name bytes).read? name = some bytes := by
  simp [holding, Folder.read?, Folder.entry?, Folder.entries]

/-! The steps of a call that finds no file, up to the one that gives the file its name. -/

/-- It finds nothing. -/
lemma missed_bare : Step c bare .reading .making bare :=
  .missed (by simp [bare, Folder.read?, Folder.entry?, Folder.entries])

/-- It finds the directory made. -/
lemma made_bare : Step c bare .making .creating bare := by
  have made := Folder.make_directory (d := bare) ⟨[], rfl⟩
  have step := Step.made (c := c) (d := bare) (by rw [made])
  rwa [made] at step

/-- It creates the temporary file. -/
lemma created_bare : Step c bare .creating (.writing 0) (holding c.temporary []) :=
  .created (by simp [bare, holding, Folder.create, Folder.entry?, Folder.entries])

/-- It fills the temporary file. -/
lemma written_holding :
    Step c (holding c.temporary []) (.writing 0) .moving (holding c.temporary c.bytes) := by
  have step : Step c (holding c.temporary []) (.writing 0) .moving
      ((holding c.temporary []).write 0 c.bytes).2 := .written
  have written : ((holding c.temporary []).write 0 c.bytes).2 = holding c.temporary c.bytes := by
    simp [holding, Folder.write]
  rwa [written] at step

/-- It gives the temporary file its name, with whatever is in it. -/
lemma renamed_holding : Step c (holding c.temporary bytes) .moving (.ended c.built)
    (holding (fileName c.key) bytes) :=
  .renamed (Folder.rename_singleton c.file_ne_temporary)

/-! Those of a call that comes while another one has the temporary file. -/

/-- It finds nothing under the name. -/
lemma missed_holding :
    Step c (holding c.temporary bytes) .reading .making (holding c.temporary bytes) :=
  .missed (Folder.read?_singleton_of_ne c.file_ne_temporary)

/-- It finds the directory made. -/
lemma made_holding {name : String} :
    Step c (holding name bytes) .making .creating (holding name bytes) := by
  have made := Folder.make_directory (d := holding name bytes) ⟨_, rfl⟩
  have step := Step.made (c := c) (d := holding name bytes) (by rw [made])
  rwa [made] at step

/-- It creates the temporary file anew, and so empties it. -/
lemma emptied_holding :
    Step c (holding c.temporary bytes) .creating (.writing 0) (holding c.temporary []) :=
  .created Folder.create_singleton

end one

/-- A call stores its index while another one is on the way to do so. -/
lemma run_stored (c : Call) :
    (start c [c.order, c.order, c.order]).TakesTurns [0, 1, 0, 1, 0, 0, 0] ∧
      (start c [c.order, c.order, c.order]).run [0, 1, 0, 1, 0, 0, 0] =
        .ofStages c (holding (fileName c.key) c.bytes) [.ended c.built, .creating, .reading] := by
  show (Process.ofStages c bare [.reading, .reading, .reading]).TakesTurns _ ∧
    (Process.ofStages c bare [.reading, .reading, .reading]).run _ = _
  constructor
  · -- Neither call has the temporary file when the first one creates it, and no other one does.
    exact takesTurns_ofStages rfl missed_bare nofun <|
      takesTurns_ofStages rfl missed_bare nofun <|
      takesTurns_ofStages rfl made_bare nofun <|
      takesTurns_ofStages rfl made_bare nofun <|
      takesTurns_ofStages rfl created_bare (by simp [Stage.Holding]) <|
      takesTurns_ofStages rfl written_holding nofun <|
      takesTurns_ofStages rfl renamed_holding nofun trivial
  · rw [run_ofStages rfl missed_bare, run_ofStages rfl missed_bare, run_ofStages rfl made_bare,
      run_ofStages rfl made_bare, run_ofStages rfl created_bare, run_ofStages rfl written_holding,
      run_ofStages rfl renamed_holding]
    rfl

/-- A call creates the temporary file anew between the write and the rename of another one. -/
lemma run_emptied (c : Call) :
    (start c [c.order, c.order, c.order]).run [0, 0, 0, 0, 1, 1, 1, 0] =
      .ofStages c (holding (fileName c.key) []) [.ended c.built, .writing 0, .reading] := by
  show (Process.ofStages c bare [.reading, .reading, .reading]).run _ = _
  rw [run_ofStages rfl missed_bare, run_ofStages rfl made_bare, run_ofStages rfl created_bare,
    run_ofStages rfl written_holding, run_ofStages rfl missed_holding,
    run_ofStages rfl made_holding, run_ofStages rfl emptied_holding,
    run_ofStages rfl renamed_holding]
  rfl

/-- A call that comes next reads what is in the file under its name. -/
lemma finds_ofStages {c : Call} {first second : Stage} {bytes : List UInt8} :
    (Process.ofStages c (holding (fileName c.key) bytes) [first, second, .reading]).Finds 2
      bytes := by
  have task : (Process.ofStages c (holding (fileName c.key) bytes)
      [first, second, .reading]).tasks[2]? = some c.task := rfl
  rw [Call.task_eq] at task
  exact ⟨_, _, task, read?_holding⟩

/-- So a call finds the whole file that another one has stored, and uses it, while a third is under
way that has found no file and is about to create the temporary one in its turn. -/
theorem shared_run_turns :
    let store : Store := .ofDistinct [⟨"Guide", "", "/guide/"⟩] (by decide) (by decide)
    let c : Call := ⟨.ascending, 1, store, .default⟩
    let orders := [.ascending, .ascending, .ascending]
    let schedule := [0, 1, 0, 1, 0, 0, 0]
    let p := (start c orders).run schedule
    (start c orders).TakesTurns schedule ∧ c.Sized ∧ p.Finds 2 c.bytes ∧
      Whole c orders c.bytes ∧ usable? c.key c.bytes = some c.built := by
  intro store c orders schedule p
  obtain ⟨turns, stored⟩ := run_stored c
  have sized : c.Sized := ⟨by decide +kernel, by decide +kernel⟩
  have finds : p.Finds 2 c.bytes := by
    rw [show p = _ from stored]
    exact finds_ofStages
  have shared := shared_run c orders schedule
  exact ⟨turns, sized, finds, shared.whole turns 2 _ finds, shared.used turns sized 2 _ finds⟩

/-- Between the write and the rename of one call another one empties the file: a third call finds
nothing in it, and removes it. -/
theorem torn_of_overlap :
    let store : Store := .ofDistinct [⟨"Guide", "", "/guide/"⟩] (by decide) (by decide)
    let c : Call := ⟨.ascending, 1, store, .default⟩
    let orders := [.ascending, .ascending, .ascending]
    let p := (start c orders).run [0, 0, 0, 0, 1, 1, 1, 0]
    p.Finds 2 [] ∧ ¬ Whole c orders [] ∧ (p.turn 2).tasks[2]? = some c.removing := by
  intro store c orders p
  have emptied : p = .ofStages c (holding (fileName c.key) [])
      [.ended c.built, .writing 0, .reading] := run_emptied c
  have refused : Step c (holding (fileName c.key) []) .reading .removing
      (holding (fileName c.key) []) :=
    .refused read?_holding usable?_nil
  rw [emptied]
  refine ⟨finds_ofStages, fun whole => bytes_ne_nil_of_whole whole rfl, ?_⟩
  rw [turn_ofStages rfl refused]
  rfl

end Cache
end PageSearch
