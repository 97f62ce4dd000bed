import Mathlib.Data.Multiset.MapFold
import Mathlib.Tactic.Lemma
import PageSearch.Proofs.Suggest.Dropdown

/-!
# Queries that overlap

In a session any number of queries are under way at once. Each takes a ticket, the provider is done
with it at some time, and at another time it checks its ticket and answers; tickets are also taken
for no query. These steps come in any order, and the provider responds as it likes.

What has been done is kept as a list of events. As long as fewer tickets than there are numbers
have been taken, a run of the steps gives a dropdown only to the query that took the last ticket
before the check, and the dropdown is the right one for what was typed and responded.
-/

namespace PageSearch
namespace Overlap

/-- Something that is done in a session. -/
inductive Event where
  /-- A ticket is taken for no query. -/
  | began (t : Ticket)
  /-- A query for what has been typed takes its ticket. -/
  | started (t : Ticket) (typed : String)
  /-- The provider is done with a query. -/
  | responded (t : Ticket) (r : Response)
  /-- A query checks its ticket and answers. -/
  | answered (t : Ticket) (answer : Except SearchError (Option Dropdown))

/-- A query that has not answered yet, with the response to it as soon as there is one. -/
structure Flight where
  question : Question
  response : Option Response

/-- The ticket of the query. -/
def Flight.ticket (f : Flight) : Ticket :=
  f.question.ticket

/-- A session and the queries that are under way in it. -/
structure State where
  session : Session
  flights : Multiset Flight

/-- A step of one of the queries, or of a taker of tickets. -/
inductive Step : State → Event → State → Prop where
  | begin {s : Session} {flights : Multiset Flight} :
    Step ⟨s, flights⟩ (.began s.begin.1) ⟨s.begin.2, flights⟩
  | start {s : Session} {flights : Multiset Flight} (typed : String) :
    Step ⟨s, flights⟩ (.started (s.start typed).1.ticket typed)
      ⟨(s.start typed).2, ⟨(s.start typed).1, none⟩ ::ₘ flights⟩
  | respond {s : Session} {flights : Multiset Flight} {q : Question} {query : String}
    (asks : q.query = some query) (r : Response) :
    Step ⟨s, ⟨q, none⟩ ::ₘ flights⟩ (.responded q.ticket r) ⟨s, ⟨q, some r⟩ ::ₘ flights⟩
  | settleShort {s : Session} {flights : Multiset Flight} {q : Question} (short : q.query = none) :
    Step ⟨s, ⟨q, none⟩ ::ₘ flights⟩ (.answered q.ticket (.ok (s.settleShort q.ticket))) ⟨s, flights⟩
  | settle {s : Session} {flights : Multiset Flight} {q : Question} {query : String} {r : Response}
    (asks : q.query = some query) :
    Step ⟨s, ⟨q, some r⟩ ::ₘ flights⟩ (.answered q.ticket (s.settle q.ticket r)) ⟨s, flights⟩

/-- What can be done in a new session, oldest first, and the state that it leads to. -/
inductive Run (settings : Settings) : List Event → State → Prop where
  | nil : Run settings [] ⟨.new settings, 0⟩
  | snoc {events : List Event} {e : Event} {s s' : State} :
    Run settings events s → Step s e s' → Run settings (events ++ [e]) s'

/-- What a ticket is used for. -/
inductive Use where
  | taken
  | responded
  | answered

namespace Event

/-- The ticket of an event, and what it is used for. -/
def stamp : Event → Ticket × Use
  | began t => (t, .taken)
  | started t _ => (t, .taken)
  | responded t _ => (t, .responded)
  | answered t _ => (t, .answered)

/-- The ticket that is taken. -/
def taken? : Event → Option Ticket
  | began t => some t
  | started t _ => some t
  | responded _ _ => none
  | answered _ _ => none

end Event

/-- The tickets that have been taken, oldest first. -/
def issued (events : List Event) : List Ticket :=
  events.filterMap Event.taken?

/-- The ticket with a number. -/
def nth (i : Nat) : Ticket :=
  ⟨UInt64.ofNat i⟩

/-- As long as there are numbers, tickets are ordered as their numbers are. -/
lemma nth_lt {i j : Nat} (lt : i < j) (few : j < UInt64.size) :
    (nth i).generation < (nth j).generation := by
  rw [UInt64.lt_iff_toNat_lt, nth, nth, UInt64.toNat_ofNat_of_lt' (by omega : i < UInt64.size),
    UInt64.toNat_ofNat_of_lt' few]
  exact lt

/-- No ticket is greater than the last one. -/
lemma not_last_lt {tickets : List Ticket} {t u : Ticket}
    (increasing : tickets.Pairwise fun t u => t.generation < u.generation)
    (last : tickets.getLast? = some t) (mem : u ∈ tickets) : ¬ t.generation < u.generation := by
  obtain ⟨earlier, rfl⟩ := List.getLast?_eq_some_iff.mp last
  intro lt
  cases List.mem_append.mp mem with
  | inl mem =>
    have gt := (List.pairwise_append.mp increasing).2.2 u mem t List.mem_cons_self
    exact UInt64.lt_irrefl _ (UInt64.lt_trans lt gt)
  | inr eq =>
    rw [List.mem_singleton.mp eq] at lt
    exact UInt64.lt_irrefl _ lt

/-- An event of a list that was added to at its end is the last one, or it was there before. -/
lemma concat_eq_append_cons {events before after : List Event} {e e' : Event}
    (eq : events ++ [e'] = before ++ e :: after) :
    events = before ∧ e' = e ∨ ∃ after', events = before ++ e :: after' := by
  -- Both lists end with `e'`: as `e` itself, or as the last one of `after`.
  cases List.eq_nil_or_concat after with
  | inl nil =>
    subst nil
    obtain ⟨same, last⟩ := List.append_inj' eq rfl
    exact .inl ⟨same, List.singleton_inj.mp last⟩
  | inr concat =>
    obtain ⟨after', last, rfl⟩ := concat
    rw [List.concat_eq_append, ← List.cons_append, ← List.append_assoc] at eq
    exact .inr ⟨after', (List.append_inj' eq rfl).1⟩

section issued

variable {events : List Event} {e : Event}

/-- Tickets are taken in the order of the events. -/
lemma issued_append (before after : List Event) :
    issued (before ++ after) = issued before ++ issued after :=
  List.filterMap_append

/-- An event that takes a ticket adds it at the end. -/
lemma issued_concat_of_taken {t : Ticket} (taken : e.taken? = some t) :
    issued (events ++ [e]) = issued events ++ [t] := by
  simp [issued, taken]

/-- Any other event adds none. -/
lemma issued_concat_of_not_taken (none : e.taken? = none) :
    issued (events ++ [e]) = issued events := by
  simp [issued, none]

/-- A query that was started has taken its ticket. -/
lemma mem_issued_of_started {t : Ticket} {typed : String} (mem : .started t typed ∈ events) :
    t ∈ issued events :=
  List.mem_filterMap.mpr ⟨_, mem, rfl⟩

/-- The stamp of a new event is added at the end. -/
lemma stamps_concat :
    (events ++ [e]).map Event.stamp = events.map Event.stamp ++ [e.stamp] := by
  simp

/-- So it is the only one that may be new. -/
lemma not_mem_stamps_concat {stamp : Ticket × Use} (absent : stamp ∉ events.map Event.stamp)
    (other : stamp ≠ e.stamp) : stamp ∉ (events ++ [e]).map Event.stamp := by
  rw [stamps_concat, List.mem_append, List.mem_singleton]
  intro present
  cases present with
  | inl old => exact absent old
  | inr eq => exact other eq

end issued

/-- The counter of a session is the number of tickets that were taken, which are numbered from one
on. -/
structure Counted (settings : Settings) (events : List Event) (s : Session) : Prop where
  settings : s.settings = settings
  generation : s.generation = UInt64.ofNat (issued events).length
  issued : issued events = (List.range' 1 (issued events).length).map nth

namespace Counted

variable {settings : Settings} {events : List Event} {e : Event} {s : Session}

/-- The next ticket is numbered by how many were taken. -/
lemma begin_eq (h : Counted settings events s) :
    s.begin.1 = nth ((Overlap.issued events).length + 1) := by
  rw [Session.begin, nth, h.generation, UInt64.ofNat_add]
  rfl

/-- Taking a ticket counts one further. -/
lemma taken (h : Counted settings events s) (taken : e.taken? = some s.begin.1) :
    Counted settings (events ++ [e]) s.begin.2 := by
  have issued' : Overlap.issued (events ++ [e]) = Overlap.issued events ++ [s.begin.1] :=
    issued_concat_of_taken taken
  have length : (Overlap.issued (events ++ [e])).length = (Overlap.issued events).length + 1 := by
    rw [issued', List.length_append]
    rfl
  refine ⟨h.settings, ?_, ?_⟩
  · show s.generation + 1 = _
    rw [length, h.generation, UInt64.ofNat_add]
    rfl
  · rw [length, List.range'_1_concat, List.map_append, ← h.issued, issued', h.begin_eq,
      Nat.add_comm]
    rfl

/-- An event that takes no ticket keeps the session in order. -/
lemma other (h : Counted settings events s) (none : e.taken? = none) :
    Counted settings (events ++ [e]) s := by
  have issued' : Overlap.issued (events ++ [e]) = Overlap.issued events :=
    issued_concat_of_not_taken none
  exact ⟨h.settings, by rw [issued', h.generation], by rw [issued', ← h.issued]⟩

/-- A ticket is current exactly if it was taken last. -/
lemma isCurrent_iff (h : Counted settings events s) {t : Ticket}
    (mem : t ∈ Overlap.issued events) :
    s.isCurrent t = true ↔ (Overlap.issued events).getLast? = some t := by
  -- The tickets are numbered from one on, so the last one has their number.
  have pos : (Overlap.issued events).length ≠ 0 := by
    intro zero
    rw [List.length_eq_zero_iff.mp zero] at mem
    cases mem
  have last : (Overlap.issued events).getLast? = some (nth (Overlap.issued events).length) := by
    rw [h.issued, List.getLast?_map, List.getLast?_range', if_neg pos]
    simp
  obtain ⟨generation⟩ := t
  simp [last, Session.isCurrent, h.generation, nth]

/-- The tickets increase as long as their number does not overflow. -/
lemma increasing (h : Counted settings events s)
    (few : (Overlap.issued events).length < UInt64.size) :
    (Overlap.issued events).Pairwise fun t u => t.generation < u.generation := by
  rw [h.issued, List.pairwise_map]
  refine List.Pairwise.imp_of_mem ?_ (List.pairwise_lt_range' 1)
  intro i j _ memj lt
  have := List.mem_range'_1.mp memj
  exact nth_lt lt (by omega)

/-- Every ticket that was taken has its number. -/
lemma exists_of_mem (h : Counted settings events s) {t : Ticket}
    (mem : t ∈ Overlap.issued events) :
    ∃ i, i < (Overlap.issued events).length + 1 ∧ nth i = t := by
  rw [h.issued] at mem
  obtain ⟨i, mem, eq⟩ := List.mem_map.mp mem
  have bounds := List.mem_range'_1.mp mem
  exact ⟨i, by omega, eq⟩

/-- A ticket that is taken is new. -/
lemma begin_not_mem (h : Counted settings events s)
    (few : (Overlap.issued events).length + 1 < UInt64.size) :
    s.begin.1 ∉ Overlap.issued events := by
  intro old
  obtain ⟨i, lt, eq⟩ := h.exists_of_mem old
  have older := nth_lt lt few
  rw [eq, h.begin_eq] at older
  exact UInt64.lt_irrefl _ older

end Counted

section tracked

variable {settings : Settings} {events : List Event} {e : Event} {s s' : State} {f : Flight}

/-- A flight agrees with what has been done. -/
structure Flight.Agrees (settings : Settings) (events : List Event) (f : Flight) : Prop where
  started : ∃ typed, .started f.ticket typed ∈ events ∧
    f.question.query =
      if settings.tooShort (trimmed typed).toList then none else some (trimmed typed)
  responded : ∀ r, f.response = some r → .responded f.ticket r ∈ events
  awaited : f.response = none → (f.ticket, .responded) ∉ events.map Event.stamp
  unanswered : (f.ticket, .answered) ∉ events.map Event.stamp

/-- What is done with another ticket does not concern a flight. -/
lemma Flight.Agrees.concat (h : f.Agrees settings events) (other : e.stamp.1 ≠ f.ticket) :
    f.Agrees settings (events ++ [e]) := by
  have ne (use : Use) : (f.ticket, use) ≠ e.stamp := by
    intro eq
    exact other (congrArg Prod.fst eq.symm)
  obtain ⟨typed, started, query⟩ := h.started
  constructor
  case started => exact ⟨typed, List.mem_append_left _ started, query⟩
  case responded =>
    intro r eq
    exact List.mem_append_left _ (h.responded r eq)
  case awaited =>
    intro eq
    exact not_mem_stamps_concat (h.awaited eq) (ne .responded)
  case unanswered => exact not_mem_stamps_concat h.unanswered (ne .answered)

/-- A query agrees with the response that it gets. -/
lemma Flight.Agrees.respond {q : Question} (h : Flight.Agrees settings events ⟨q, none⟩)
    (r : Response) :
    Flight.Agrees settings (events ++ [.responded q.ticket r]) ⟨q, some r⟩ := by
  obtain ⟨typed, started, query⟩ := h.started
  constructor
  case started => exact ⟨typed, List.mem_append_left _ started, query⟩
  case responded =>
    intro r' eq
    cases eq
    exact List.mem_append_right _ List.mem_cons_self
  case awaited =>
    intro eq
    cases eq
  case unanswered =>
    apply not_mem_stamps_concat h.unanswered
    intro eq
    cases congrArg Prod.snd eq

/-- What is known of a state and of what has been done up to it. -/
structure Tracked (settings : Settings) (events : List Event) (s : State) : Prop where
  counted : Counted settings events s.session
  known : ∀ e ∈ events, e.stamp.1 ∈ issued events
  once : (events.map Event.stamp).Nodup
  distinct : (s.flights.map Flight.ticket).Nodup
  flights : ∀ f ∈ s.flights, f.Agrees settings events

namespace Tracked

/-- A query under way has a ticket that was taken. -/
lemma mem_issued (h : Tracked settings events s) (mem : f ∈ s.flights) :
    f.ticket ∈ issued events := by
  obtain ⟨typed, started, -⟩ := (h.flights f mem).started
  exact mem_issued_of_started started

/-- A ticket that has not been taken has not been used. -/
lemma not_mem_stamps (h : Tracked settings events s) {t : Ticket} (fresh : t ∉ issued events)
    (use : Use) : (t, use) ∉ events.map Event.stamp := by
  intro old
  obtain ⟨e, mem, eq⟩ := List.mem_map.mp old
  have known := h.known e mem
  rw [eq] at known
  exact fresh known

/-- An event with a new stamp, for a ticket that has been taken by then, may be added to what has
been done. -/
lemma known_once_concat (h : Tracked settings events s) (mem : e.stamp.1 ∈ issued (events ++ [e]))
    (new : e.stamp ∉ events.map Event.stamp) :
    (∀ e' ∈ events ++ [e], e'.stamp.1 ∈ issued (events ++ [e])) ∧
      ((events ++ [e]).map Event.stamp).Nodup := by
  constructor
  · intro e' mem'
    cases List.mem_append.mp mem' with
    | inl old =>
      rw [issued_append]
      exact List.mem_append_left _ (h.known e' old)
    | inr eq =>
      rw [List.mem_singleton.mp eq]
      exact mem
  · -- No event has had this stamp before.
    rw [stamps_concat, ← List.concat_eq_append]
    exact h.once.concat new

/-- A query that begins under a ticket of its own joins those under way. -/
lemma add {session : Session} {flights : Multiset Flight}
    (h : Tracked settings events ⟨session, flights⟩) (own : f.ticket ∉ flights.map Flight.ticket)
    (agrees : f.Agrees settings events) : Tracked settings events ⟨session, f ::ₘ flights⟩ where
  counted := h.counted
  known := h.known
  once := h.once
  distinct := by
    rw [Multiset.map_cons, Multiset.nodup_cons]
    exact ⟨own, h.distinct⟩
  flights := by
    intro f' mem
    cases Multiset.mem_cons.mp mem with
    | inl eq =>
      rw [eq]
      exact agrees
    | inr old => exact h.flights f' old

/-- No query under way has the next ticket. -/
lemma begin_not_mem (h : Tracked settings events s)
    (few : (issued events).length + 1 < UInt64.size) :
    s.session.begin.1 ∉ s.flights.map Flight.ticket := by
  intro mem
  obtain ⟨f, flying, eq⟩ := Multiset.mem_map.mp mem
  apply h.counted.begin_not_mem few
  rw [← eq]
  exact h.mem_issued flying

/-- The next ticket may be taken. -/
lemma take (h : Tracked settings events s) (few : (issued events).length + 1 < UInt64.size)
    (taken : e.taken? = some s.session.begin.1) (stamp : e.stamp = (s.session.begin.1, .taken)) :
    Tracked settings (events ++ [e]) ⟨s.session.begin.2, s.flights⟩ := by
  have fresh := h.counted.begin_not_mem few
  have mem : e.stamp.1 ∈ issued (events ++ [e]) := by
    rw [issued_concat_of_taken taken, stamp]
    exact List.mem_append_right _ List.mem_cons_self
  have new : e.stamp ∉ events.map Event.stamp := by
    rw [stamp]
    exact h.not_mem_stamps fresh .taken
  obtain ⟨known, once⟩ := h.known_once_concat mem new
  refine ⟨h.counted.taken taken, known, once, h.distinct, ?_⟩
  intro f flying
  apply (h.flights f flying).concat
  intro eq
  rw [stamp] at eq
  apply fresh
  rw [eq]
  exact h.mem_issued flying

/-- A query that has just started agrees with that. -/
lemma agrees_start (h : Tracked settings events s) (few : (issued events).length + 1 < UInt64.size)
    (typed : String) :
    Flight.Agrees settings (events ++ [.started s.session.begin.1 typed])
      ⟨(s.session.start typed).1, none⟩ := by
  have absent := h.not_mem_stamps (h.counted.begin_not_mem few)
  constructor
  case started =>
    refine ⟨typed, List.mem_append_right _ List.mem_cons_self, ?_⟩
    rw [← h.counted.settings]
    rfl
  case responded =>
    intro r eq
    cases eq
  case awaited =>
    intro _
    apply not_mem_stamps_concat (absent .responded)
    intro eq
    cases congrArg Prod.snd eq
  case unanswered =>
    apply not_mem_stamps_concat (absent .answered)
    intro eq
    cases congrArg Prod.snd eq

/-- A flight may use its ticket in a new way and be taken out. -/
lemma takeOut {session : Session} {flights : Multiset Flight}
    (h : Tracked settings events ⟨session, f ::ₘ flights⟩) (none : e.taken? = none)
    (ticket : e.stamp.1 = f.ticket) (new : e.stamp ∉ events.map Event.stamp) :
    f.ticket ∉ flights.map Flight.ticket ∧
      Tracked settings (events ++ [e]) ⟨session, flights⟩ := by
  have distinct := h.distinct
  rw [Multiset.map_cons, Multiset.nodup_cons] at distinct
  obtain ⟨own, distinct⟩ := distinct
  have mem : e.stamp.1 ∈ issued (events ++ [e]) := by
    rw [issued_concat_of_not_taken none, ticket]
    exact h.mem_issued (Multiset.mem_cons_self f flights)
  obtain ⟨known, once⟩ := h.known_once_concat mem new
  refine ⟨own, h.counted.other none, known, once, distinct, ?_⟩
  intro f' flying
  apply (h.flights f' (Multiset.mem_cons_of_mem flying)).concat
  -- Two flights with one ticket would contradict that tickets are distinct.
  intro eq
  apply own
  rw [← ticket, eq]
  exact Multiset.mem_map_of_mem _ flying

/-- What is known stays known in every step, as long as there are numbers for tickets. -/
theorem step (h : Tracked settings events s) (step : Step s e s')
    (few : (issued (events ++ [e])).length < UInt64.size) :
    Tracked settings (events ++ [e]) s' := by
  cases step with
  | begin =>
    rw [issued_concat_of_taken rfl, List.length_append] at few
    exact h.take few rfl rfl
  | @start s flights typed =>
    rw [issued_concat_of_taken rfl, List.length_append] at few
    exact (h.take few rfl rfl).add (h.begin_not_mem few) (h.agrees_start few typed)
  -- The steps that are left use the ticket of a flight for the first time in their way.
  | @respond s flights q query asks r =>
    have flight := h.flights _ (Multiset.mem_cons_self _ _)
    obtain ⟨own, out⟩ := h.takeOut (e := .responded q.ticket r) rfl rfl (flight.awaited rfl)
    exact out.add own (flight.respond r)
  | @settleShort s flights q short =>
    have flight := h.flights _ (Multiset.mem_cons_self _ _)
    exact (h.takeOut (e := .answered q.ticket _) rfl rfl flight.unanswered).2
  | @settle s flights q query r asks =>
    have flight := h.flights _ (Multiset.mem_cons_self _ _)
    exact (h.takeOut (e := .answered q.ticket _) rfl rfl flight.unanswered).2

end Tracked

end tracked

namespace Run

variable {settings : Settings} {events before after : List Event} {e : Event} {s : State}

/-- A query that no other overlaps is a run of the steps of one query. -/
theorem query {s : Session} {flights : Multiset Flight} (run : Run settings events ⟨s, flights⟩)
    (ask : String → Id Response) (typed : String) :
    ∃ more, Run settings (events ++ more ++ [.answered s.begin.1 (s.query ask typed).1])
      ⟨(s.query ask typed).2, flights⟩ := by
  have started := run.snoc (.start typed)
  cases asks : (s.start typed).1.query with
  | none =>
    have eq : s.query ask typed =
        (.ok ((s.start typed).2.settleShort s.begin.1), (s.start typed).2) := by
      simp only [Session.query, asks]
      rfl
    rw [eq]
    exact ⟨_, started.snoc (.settleShort asks)⟩
  | some query =>
    have eq : s.query ask typed =
        ((s.start typed).2.settle s.begin.1 (ask query), (s.start typed).2) := by
      simp only [Session.query, asks]
      rfl
    rw [eq]
    have settled := (started.snoc (.respond asks (ask query))).snoc (.settle asks)
    rw [List.append_assoc events] at settled
    exact ⟨_, settled⟩

/-- What is known after a run, as long as there are numbers for tickets. -/
theorem tracked (run : Run settings events s) (few : (issued events).length < UInt64.size) :
    Tracked settings events s := by
  induction run with
  | nil =>
    refine ⟨⟨rfl, rfl, rfl⟩, ?_, .nil, Multiset.nodup_zero, ?_⟩
    · intro e mem
      cases mem
    · intro f mem
      cases mem
  | snoc run step ih =>
    have earlier := few
    rw [issued_append, List.length_append] at earlier
    exact (ih (by omega)).step step few

/-- Every event of a run is a step from the state that what was done before led to. -/
lemma split (run : Run settings events s) (eq : events = before ++ e :: after) :
    ∃ s₁ s₂, Run settings before s₁ ∧ Step s₁ e s₂ := by
  -- Events are added at the end, so it is what comes after `e` that gets shorter.
  induction run generalizing after with
  | nil => simp at eq
  | @snoc events e' s₁ s₂ run step ih =>
    obtain ⟨rfl, rfl⟩ | ⟨after', eq'⟩ := concat_eq_append_cons eq
    · exact ⟨s₁, s₂, run, step⟩
    · exact ih eq'

/-- So all of this is known when an event of the run happens. -/
lemma tracked_split (run : Run settings events s) (few : (issued events).length < UInt64.size)
    (eq : events = before ++ e :: after) : ∃ s₁ s₂, Tracked settings before s₁ ∧ Step s₁ e s₂ := by
  obtain ⟨s₁, s₂, run₁, step⟩ := run.split eq
  rw [eq, issued_append, List.length_append] at few
  exact ⟨s₁, s₂, run₁.tracked (by omega), step⟩

end Run

section answered

variable {settings : Settings} {events : List Event} {s s' : State} {t : Ticket}
  {answer : Except SearchError (Option Dropdown)}

/-- A query that answers is under way, and settles what it has. -/
lemma Step.answered_cases (step : Step s (.answered t answer) s') :
    ∃ f ∈ s.flights, f.ticket = t ∧
      (f.question.query = none ∧ answer = .ok (s.session.settleShort t) ∨
        ∃ query r, f.question.query = some query ∧ f.response = some r ∧
          answer = s.session.settle t r) := by
  cases step with
  | settleShort short => exact ⟨_, Multiset.mem_cons_self _ _, rfl, .inl ⟨short, rfl⟩⟩
  | settle asks => exact ⟨_, Multiset.mem_cons_self _ _, rfl, .inr ⟨_, _, asks, rfl, rfl⟩⟩

/-- What is answered was started. -/
lemma Tracked.started_of_answered (h : Tracked settings events s)
    (step : Step s (.answered t answer) s') : ∃ typed, .started t typed ∈ events := by
  obtain ⟨f, flying, rfl, -⟩ := step.answered_cases
  obtain ⟨typed, started, -⟩ := (h.flights f flying).started
  exact ⟨typed, started⟩

/-- A query that is dropped has been superseded. -/
lemma Step.superseded (step : Step s (.answered t (.ok none)) s') :
    s.session.isCurrent t = false := by
  obtain ⟨f, flying, rfl, settled⟩ := step.answered_cases
  cases settled with
  | inl short => exact Session.isCurrent_of_settleShort_eq_none (Except.ok.inj short.2).symm
  | inr asked =>
    obtain ⟨query, r, -, -, eq⟩ := asked
    exact Session.isCurrent_of_settle_eq_ok_none eq.symm

end answered

end Overlap
end PageSearch
