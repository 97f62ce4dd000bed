import Mathlib.Tactic.Lemma
import PageSearch.Navigation.BaseUrl

/-!
# Navigations to a sink that refuses

A printer keeps the first refusal that it meets, whatever becomes of later writes, and gives it in
place of the sink at the end. If nothing was refused, what was written are the lines for the urls
that were visited. To say which writes a printer makes they are recorded beside the sink, which the
printer does not notice.
-/

namespace PageSearch

/-- What a navigator is asked for. -/
inductive Visit where
  | navigate (url : String)
  | select (url : Option String)

namespace Visit

variable {N : Type} [Navigator N]

/-- The url that is visited: any url that is navigated to, and one that is selected if it is there
and not empty. -/
def url? : Visit → Option String
  | navigate url => some url
  | select url => url.filter (· ≠ "")

/-- What is told of a selection: whether it has a url. -/
def answer? : Visit → Option Bool
  | navigate _ => none
  | select url => some (url.any (· ≠ ""))

/-- Does what is asked, and gives the answer to a selection. -/
def perform (n : N) : Visit → Option Bool × N
  | navigate url => (none, Navigator.navigate n url)
  | select url => (some (PageSearch.select n url).1, (PageSearch.select n url).2)

/-- Does all that is asked, in turn. -/
def performAll (n : N) : List Visit → List (Option Bool) × N
  | [] => ([], n)
  | v :: rest =>
    ((v.perform n).1 :: (performAll (v.perform n).2 rest).1, (performAll (v.perform n).2 rest).2)

/-- The answer does not depend on the navigator, which is sent to the url if there is one. -/
lemma perform_eq (n : N) (v : Visit) :
    v.perform n = (v.answer?, v.url?.elim n (Navigator.navigate n)) := by
  cases v with
  | navigate url => rfl
  | select url =>
    cases url with
    | none => rfl
    | some url =>
      by_cases empty : url = ""
      · subst empty
        rfl
      · simp [perform, PageSearch.select, answer?, url?, Option.filter_some, empty]

/-- What visits answer does not depend on the sink. -/
lemma performAll_fst (n : N) (visits : List Visit) :
    (performAll n visits).1 = visits.map answer? := by
  induction visits generalizing n with
  | nil => rfl
  | cons v rest ih => rw [performAll, ih, perform_eq, List.map_cons]

/-- Visits with a url are navigations, and others are nothing. -/
lemma performAll_snd (n : N) (visits : List Visit) :
    (performAll n visits).2 = (visits.filterMap url?).foldl Navigator.navigate n := by
  induction visits generalizing n with
  | nil => rfl
  | cons v rest ih =>
    rw [performAll, ih, perform_eq]
    cases visited : v.url? with
    | none => rw [List.filterMap_cons_none visited]; rfl
    | some url => rw [List.filterMap_cons_some visited]; rfl

end Visit

/-- A piece of text that was written, with the outcome. -/
abbrev Write (ε : Type) := String × Except ε Unit

namespace Write

variable {ε : Type} {writes : List (Write ε)} {outcome : Except ε Unit}

/-- Nothing was refused. -/
def AllAccepted (writes : List (Write ε)) : Prop :=
  ∀ w ∈ writes, w.2 = .ok ()

/-- The first write that was refused was refused with this error. -/
def FirstRefused (writes : List (Write ε)) (e : ε) : Prop :=
  ∃ before piece after, writes = before ++ (piece, .error e) :: after ∧ AllAccepted before

/-- The error of an outcome, if it is one. -/
def error? : Except ε Unit → Option ε
  | .ok () => none
  | .error e => some e

/-- A write that was accepted has no error. -/
lemma error?_eq_none_iff : error? outcome = none ↔ outcome = .ok () := by
  cases outcome <;> simp [error?]

/-- A write that was refused has the error of the sink. -/
lemma error?_eq_some_iff {e : ε} : error? outcome = some e ↔ outcome = .error e := by
  cases outcome <;> simp [error?]

/-- The error of the first write that was refused. -/
def firstError? (writes : List (Write ε)) : Option ε :=
  writes.findSome? fun w => error? w.2

/-- There is no first error exactly if all writes were accepted. -/
lemma firstError?_eq_none_iff : firstError? writes = none ↔ AllAccepted writes := by
  simp only [firstError?, List.findSome?_eq_none_iff, error?_eq_none_iff, AllAccepted]

/-- The first error is that of the first write that was refused. -/
lemma firstError?_eq_some_iff {e : ε} : firstError? writes = some e ↔ FirstRefused writes e := by
  simp only [firstError?, List.findSome?_eq_some_iff, error?_eq_none_iff, error?_eq_some_iff]
  constructor
  · rintro ⟨before, ⟨piece, outcome⟩, after, eq, rfl, accepted⟩
    exact ⟨before, piece, after, eq, accepted⟩
  · rintro ⟨before, piece, after, eq, accepted⟩
    exact ⟨before, (piece, .error e), after, eq, rfl, accepted⟩

/-- The writes of some pieces in turn, up to the first that is refused, and what they come to. -/
inductive Tried : List String → Except ε Unit → List (Write ε) → Prop where
  | nil : Tried [] (.ok ()) []
  | accepted {piece rest outcome writes} :
    Tried rest outcome writes → Tried (piece :: rest) outcome ((piece, .ok ()) :: writes)
  | refused {piece rest e} : Tried (piece :: rest) (.error e) [(piece, .error e)]

variable {pieces : List String}

/-- A try stops at its first error, so that is its outcome. -/
lemma Tried.firstError?_eq (tried : Tried pieces outcome writes) :
    firstError? writes = error? outcome := by
  induction tried with
  | nil => rfl
  | accepted _ ih => exact ih
  | refused => rfl

/-- A try that succeeds has written all its pieces. -/
lemma Tried.map_fst (tried : Tried pieces outcome writes) (ok : outcome = .ok ()) :
    writes.map Prod.fst = pieces := by
  induction tried with
  | nil => rfl
  | accepted _ ih => rw [List.map_cons, ih ok]
  | refused => cases ok

end Write

/-- A sink with a record of all that was written to it, the latest last. -/
structure Recorded (S ε : Type) where
  sink : S
  writes : List (Write ε)

instance {S ε : Type} [Sink S ε] : Sink (Recorded S ε) ε where
  write r piece :=
    ((Sink.write r.sink piece).1,
      ⟨(Sink.write r.sink piece).2, r.writes ++ [(piece, (Sink.write r.sink piece).1)]⟩)

/-- A reading of what a sink holds, which grows by what is accepted. -/
def Grows {S ε : Type} [Sink S ε] (held : S → String) : Prop :=
  ∀ s piece, (Sink.write s piece).1 = .ok () → held (Sink.write s piece).2 = held s ++ piece

namespace TargetPrinter

open Write (AllAccepted FirstRefused Tried error? firstError?)

variable {S ε : Type} [Sink S ε]

/-- What is written to a sink is the same without its record, which gets all of it. -/
lemma writeAll_recorded (r : Recorded S ε) (pieces : List String) :
    ∃ made, Tried pieces (writeAll r.sink pieces).1 made ∧
      writeAll r pieces =
        ((writeAll r.sink pieces).1, ⟨(writeAll r.sink pieces).2, r.writes ++ made⟩) := by
  -- By the pieces that are left, for every sink and everything that was written before.
  induction pieces generalizing r with
  | nil => exact ⟨[], .nil, by rw [List.append_nil]; rfl⟩
  | cons piece rest ih =>
    have recorded : Sink.write r piece = ((Sink.write r.sink piece).1,
      ⟨(Sink.write r.sink piece).2, r.writes ++ [(piece, (Sink.write r.sink piece).1)]⟩) := rfl
    unfold writeAll
    rw [recorded]
    cases Sink.write r.sink piece with
    | mk outcome sink =>
      cases outcome with
      | ok =>
        obtain ⟨made, tried, eq⟩ := ih ⟨sink, r.writes ++ [(piece, .ok ())]⟩
        exact ⟨_, tried.accepted, by simpa using eq⟩
      | error e => exact ⟨_, .refused, rfl⟩

/-- A sink that accepts all pieces holds them after what it held. -/
lemma held_writeAll {held : S → String} (grows : Grows held) {s : S} {pieces : List String}
    (ok : (writeAll s pieces).1 = .ok ()) :
    held (writeAll s pieces).2 = held s ++ String.join pieces := by
  induction pieces generalizing s with
  | nil => simp [writeAll]
  | cons piece rest ih =>
    unfold writeAll at ok ⊢
    cases written : Sink.write s piece with
    | mk outcome sink =>
      rw [written] at ok
      cases outcome with
      | ok =>
        have grown := grows s piece (by rw [written])
        rw [written] at grown
        rw [ih ok, grown, String.join_cons, String.append_assoc]
      | error e => cases ok

/-- The pieces of a line are its text and its end. -/
lemma join_linePieces (target : String) : String.join (linePieces target) = target ++ "\n" := by
  unfold linePieces
  split
  · rename_i empty
    rw [empty]
    rfl
  · simp

/-- A navigation writes one line, and its error counts if there was none before. -/
lemma navigate_eq (p : TargetPrinter S ε) (url : String) :
    p.navigate url =
      ⟨p.base, (writeAll p.sink (linePieces (p.resolve url))).2,
        p.failure.or (error? (writeAll p.sink (linePieces (p.resolve url))).1)⟩ := by
  unfold navigate
  cases writeAll p.sink (linePieces (p.resolve url)) with
  | mk outcome sink =>
    cases outcome with
    | ok => simp [error?]
    | error e => rfl

/-- The printer to the same sink without its record. -/
def unrecorded (p : TargetPrinter (Recorded S ε) ε) : TargetPrinter S ε :=
  ⟨p.base, p.sink.sink, p.failure⟩

/-- To keep a record does not change what is navigated. -/
lemma unrecorded_navigate (p : TargetPrinter (Recorded S ε) ε) (url : String) :
    (p.navigate url).unrecorded = p.unrecorded.navigate url := by
  obtain ⟨made, -, eq⟩ := writeAll_recorded p.sink (linePieces (p.resolve url))
  rw [navigate_eq, eq, navigate_eq]
  rfl

/-- What a printer, from a sink on, has come to when it was to print some lines: it keeps the first
error, and if there was none all the lines are written. -/
structure Reports (start : S) (p : TargetPrinter (Recorded S ε) ε) (lines : List String) :
    Prop where
  failure : p.failure = firstError? p.sink.writes
  wrote : p.failure = none → String.join (p.sink.writes.map Prod.fst) = String.join lines
  held : p.failure = none → ∀ held : S → String, Grows held →
    held p.sink.sink = held start ++ String.join lines

/-- A new printer reports nothing, since nothing was written. -/
lemma reports_new (base : Option String) (start : S) :
    Reports start (new base (⟨start, []⟩ : Recorded S ε)) [] where
  failure := rfl
  wrote _ := rfl
  held _ held _ := by simp [new]

/-- A navigation prints one more line. -/
lemma Reports.navigate {start : S} {p : TargetPrinter (Recorded S ε) ε} {lines : List String}
    (reports : Reports start p lines) (url : String) :
    Reports start (p.navigate url) (lines ++ [p.resolve url ++ "\n"]) := by
  obtain ⟨made, tried, eq⟩ := writeAll_recorded p.sink (linePieces (p.resolve url))
  have line : String.join (lines ++ [p.resolve url ++ "\n"]) =
      String.join lines ++ String.join (linePieces (p.resolve url)) := by
    rw [join_linePieces, String.join_append]
    simp
  rw [navigate_eq, eq]
  constructor
  -- The first failure is kept, and what is written after it is still tried.
  case failure =>
    rw [reports.failure, ← tried.firstError?_eq]
    exact List.findSome?_append.symm
  case wrote =>
    intro none
    obtain ⟨before, ok⟩ := Option.or_eq_none_iff.mp none
    rw [List.map_append, String.join_append, reports.wrote before,
      tried.map_fst (Write.error?_eq_none_iff.mp ok), line]
  case held =>
    intro none held grows
    obtain ⟨before, ok⟩ := Option.or_eq_none_iff.mp none
    rw [held_writeAll grows (Write.error?_eq_none_iff.mp ok), reports.held before held grows, line,
      String.append_assoc]

/-- A navigation does not change where urls lead. -/
lemma resolve_navigate (p : TargetPrinter S ε) (url : String) :
    (p.navigate url).resolve = p.resolve := by
  rw [navigate_eq]
  rfl

/-- So do any number of navigations. -/
lemma Reports.foldl {start : S} {p : TargetPrinter (Recorded S ε) ε} {lines : List String}
    (reports : Reports start p lines) (urls : List String) :
    Reports start (urls.foldl Navigator.navigate p)
      (lines ++ urls.map fun url => p.resolve url ++ "\n") := by
  induction urls generalizing p lines with
  | nil => simpa using reports
  | cons url rest ih =>
    have more := ih (reports.navigate url)
    rw [resolve_navigate, List.append_assoc] at more
    exact more

/-- So it is for all navigations. -/
lemma unrecorded_foldl (p : TargetPrinter (Recorded S ε) ε) (urls : List String) :
    (urls.foldl Navigator.navigate p).unrecorded =
      urls.foldl Navigator.navigate p.unrecorded := by
  induction urls generalizing p with
  | nil => rfl
  | cons url rest ih => exact (ih (p.navigate url)).trans (by rw [unrecorded_navigate]; rfl)

/-- The lines that a printer has for some visits. -/
def lines (p : TargetPrinter S ε) (visits : List Visit) : List String :=
  (visits.filterMap Visit.url?).map fun url => p.resolve url ++ "\n"

/-- What becomes of some visits by a printer: the answers that are given, the printer at the end,
and the writes that are made to its sink. -/
structure Reported (first : TargetPrinter S ε) (visits : List Visit) (answers : List (Option Bool))
    (last : TargetPrinter S ε) (writes : List (Write ε)) : Prop where
  /-- A selection is told whether it has a url, whatever the sink does. -/
  answers : answers = visits.map Visit.answer?
  failed_iff : ∀ e, last.finish = .error e ↔ FirstRefused writes e
  finished_iff : ∀ sink, last.finish = .ok sink ↔ sink = last.sink ∧ AllAccepted writes
  wrote : AllAccepted writes →
    String.join (writes.map Prod.fst) = String.join (first.lines visits)
  /-- So the sink holds one line for every url that is visited, if it holds what it accepts. -/
  held : AllAccepted writes → ∀ held : S → String, Grows held →
    held last.sink = held first.sink ++ String.join (first.lines visits)

/-- A printer reports the first write that its sink refuses, whatever else is refused or accepted;
if there is none it gives the sink back with the lines for the visits. -/
theorem reported_performAll (base : Option String) (start : S) (visits : List Visit) :
    let plain := Visit.performAll (new base start : TargetPrinter S ε) visits
    let recorded :=
      Visit.performAll (new base ⟨start, []⟩ : TargetPrinter (Recorded S ε) ε) visits
    recorded.2.unrecorded = plain.2 ∧
      Reported (new base start) visits plain.1 plain.2 recorded.2.sink.writes := by
  intro plain recorded
  have ran : recorded.2 = (visits.filterMap Visit.url?).foldl Navigator.navigate _ :=
    Visit.performAll_snd _ visits
  have same : recorded.2.unrecorded = plain.2 := by
    rw [ran, unrecorded_foldl]
    exact (Visit.performAll_snd _ visits).symm
  have reports : Reports start recorded.2 ((new base start : TargetPrinter S ε).lines visits) := by
    rw [ran]
    exact (reports_new base start).foldl _
  have failure : plain.2.failure = firstError? recorded.2.sink.writes := by
    rw [← same]
    exact reports.failure
  -- What is said of accepted writes is said of printers without a failure, and they are the same.
  have nothing (accepted : AllAccepted recorded.2.sink.writes) : recorded.2.failure = none := by
    rw [reports.failure, Write.firstError?_eq_none_iff]
    exact accepted
  refine ⟨same, Visit.performAll_fst _ visits, fun e => ?_, fun sink => ?_, fun accepted => ?_,
    fun accepted held grows => ?_⟩
  · rw [← Write.firstError?_eq_some_iff, ← failure, finish]
    cases plain.2.failure <;> simp
  · rw [← Write.firstError?_eq_none_iff, ← failure, finish]
    cases plain.2.failure <;> simp [eq_comm]
  · exact reports.wrote (nothing accepted)
  · rw [← same]
    exact reports.held (nothing accepted) held grows

/-- A sink that refuses writes as a script says, with a number for the reason, and accepts all when
the script is over. -/
structure Scripted where
  text : String
  script : List (Option Nat)

instance : Sink Scripted Nat where
  write s piece :=
    match s.script with
    | some reason :: rest => (.error reason, ⟨s.text, rest⟩)
    | none :: rest => (.ok (), ⟨s.text ++ piece, rest⟩)
    | [] => (.ok (), ⟨s.text ++ piece, []⟩)

/-- So for a sink that refuses the end of a first line and the start of a third one, and accepts the
line between them. -/
theorem reported_performAll_recovering :
    let start : Scripted := ⟨"", [none, some 1, none, none, some 2]⟩
    let visits : List Visit :=
      [.select (some "/a/"), .select none, .navigate "/b/", .select (some "/c/")]
    let plain := Visit.performAll (new none start : TargetPrinter Scripted Nat) visits
    plain.1 = [some true, some false, none, some true] ∧ plain.2.finish = .error 1 ∧
      plain.2.sink.text = "/a//b/\n" := by
  intro start visits plain
  obtain ⟨-, reported⟩ := reported_performAll none start visits
  refine ⟨reported.answers, (reported.failed_iff 1).mpr ?_, by decide⟩
  exact ⟨[("/a/", .ok ())], "\n", [("/b/", .ok ()), ("\n", .ok ()), ("/c/", .error 2)], rfl,
    by simp [AllAccepted]⟩

end TargetPrinter
end PageSearch
