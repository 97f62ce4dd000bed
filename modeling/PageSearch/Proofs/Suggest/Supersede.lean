import PageSearch.Proofs.Suggest.Overlap

/-!
# Queries that are superseded

A query is superseded when a later ticket is taken before it answers, while the provider is at work
on it or after that. Whatever the provider gave for it is dropped, and so is an error of the search.
A provider that breaks down is reported all the same, which is the only way in which a superseded
query is heard of.
-/

namespace PageSearch
namespace Overlap

section superseded

variable {settings : Settings} {events before after : List Event} {s s' : State} {t u : Ticket}
  {answer : Except SearchError (Option Dropdown)}

/-- A ticket is not current any more once a later one has been taken. -/
lemma Tracked.isCurrent_of_lt (h : Tracked settings events s)
    (few : (issued events).length < UInt64.size) (old : t ∈ issued events)
    (new : u ∈ issued events) (lt : t.generation < u.generation) :
    s.session.isCurrent t = false := by
  cases current : s.session.isCurrent t with
  | false => rfl
  | true =>
    have last := (h.counted.isCurrent_iff old).mp current
    exact absurd lt (not_last_lt (h.counted.increasing few) last new)

/-- No query is responded to twice. -/
lemma Tracked.response_unique (h : Tracked settings events s) {r r' : Response}
    (mem : .responded t r ∈ events) (mem' : .responded t r' ∈ events) : r = r' := by
  have same := List.inj_on_of_nodup_map h.once mem mem' rfl
  cases same
  rfl

/-- Nothing becomes of a query but that a breakdown is reported. -/
structure Discarded (before : List Event) (t : Ticket)
    (answer : Except SearchError (Option Dropdown)) : Prop where
  /-- A query is dropped if it was too short, or if the provider did not break down on it. -/
  dropped : (∀ r, .responded t r ∈ before → r.ending ≠ .error .brokenDown) → answer = .ok none
  /-- A breakdown of the provider is reported. -/
  reported : ∀ r, .responded t r ∈ before → r.ending = .error .brokenDown →
    answer = .error .taskFailed

/-- A query whose ticket is not current is discarded when it answers. -/
lemma Tracked.discarded (h : Tracked settings events s) (step : Step s (.answered t answer) s')
    (late : s.session.isCurrent t = false) : Discarded events t answer := by
  cases step with
  | @settleShort session flights q short =>
    have flight := h.flights _ (Multiset.mem_cons_self _ _)
    constructor
    case dropped =>
      intro _
      have current : session.isCurrent q.ticket = false := late
      rw [Session.settleShort, current]
      rfl
    case reported =>
      -- A query that was too short has not been responded to.
      intro r responded _
      exact absurd (List.mem_map_of_mem (f := Event.stamp) responded) (flight.awaited rfl)
  | @settle session flights q query r asks =>
    have flight := h.flights _ (Multiset.mem_cons_self _ _)
    have responded := flight.responded r rfl
    constructor
    case dropped =>
      intro whole
      have current : session.isCurrent q.ticket = false := late
      rw [Session.settle_of_ne_brokenDown (whole r responded), current]
      rfl
    case reported =>
      intro r' responded' broken
      rw [h.response_unique responded' responded] at broken
      exact Session.settle_of_brokenDown broken

end superseded

/-- A query is discarded if a later ticket has been taken before it answers, whatever the order of
the steps is and whatever the provider does, as long as there are numbers for tickets. -/
theorem discarded_of_superseded {settings : Settings} {events : List Event} {s : State}
    (run : Run settings events s) (few : (issued events).length < UInt64.size)
    {before after : List Event} {t u : Ticket} {answer : Except SearchError (Option Dropdown)}
    (answered : events = before ++ .answered t answer :: after)
    (taken : u ∈ issued before) (later : t.generation < u.generation) :
    Discarded before t answer := by
  obtain ⟨s₁, s₂, tracked, step⟩ := run.tracked_split few answered
  obtain ⟨typed, started⟩ := tracked.started_of_answered step
  rw [answered, issued_append, List.length_append] at few
  have late := tracked.isCurrent_of_lt (by omega) (mem_issued_of_started started) taken later
  exact tracked.discarded step late

/-- A query for which a later ticket is taken before the provider responds. -/
def overtaken (r : Response) (answer : Except SearchError (Option Dropdown)) : List Event :=
  let first := (Session.new .default).start "guide"
  [.started first.1.ticket "guide", .began first.2.begin.1, .responded first.1.ticket r,
    .answered first.1.ticket answer]

/-- A query that is overtaken while it waits can still be answered. -/
lemma run_overtaken (r : Response) :
    let first := (Session.new .default).start "guide"
    Run .default (overtaken r (first.2.begin.2.settle first.1.ticket r)) ⟨first.2.begin.2, 0⟩ := by
  intro first
  have asks : first.1.query = some "guide" := by decide
  exact .snoc (.snoc (.snoc (.snoc .nil (.start "guide")) .begin) (.respond asks r)) (.settle asks)

/-- An error of the search is dropped with the query that it belongs to. -/
theorem discarded_of_superseded_dangling :
    let first := (Session.new .default).start "guide"
    let r : Response := ⟨[[⟨"It", "/it/", Single.zero⟩]], .error (.danglingReference "/guide/")⟩
    let before := (overtaken r (.ok none)).take 3
    Run .default (overtaken r (.ok none)) ⟨first.2.begin.2, 0⟩ ∧
      (issued (overtaken r (.ok none))).length < UInt64.size ∧
      overtaken r (.ok none) = before ++ [.answered first.1.ticket (.ok none)] ∧
      first.2.begin.1 ∈ issued before ∧
      first.1.ticket.generation < first.2.begin.1.generation ∧
      Discarded before first.1.ticket (.ok none) := by
  intro first r before
  have run : Run .default (overtaken r (.ok none)) ⟨first.2.begin.2, 0⟩ := run_overtaken r
  have few : (issued (overtaken r (.ok none))).length < UInt64.size := by decide
  have taken : first.2.begin.1 ∈ issued before := by decide
  have later : first.1.ticket.generation < first.2.begin.1.generation := by decide
  exact ⟨run, few, rfl, taken, later, discarded_of_superseded run few rfl taken later⟩

/-- Not every query is dropped for which a later ticket is taken before the provider responds: one
that the provider breaks down on is reported. -/
theorem not_dropped_of_brokenDown :
    ¬ ∀ (settings : Settings) (events early mid after : List Event) (s : State) (t u : Ticket)
      (r : Response) (answer : Except SearchError (Option Dropdown)),
      Run settings events s → (issued events).length < UInt64.size →
      events = early ++ .responded t r :: (mid ++ .answered t answer :: after) →
      u ∈ issued early → t.generation < u.generation → answer = .ok none := by
  intro dropped
  let first := (Session.new .default).start "guide"
  let r : Response := ⟨[], .error .brokenDown⟩
  have run : Run .default (overtaken r (.error .taskFailed)) ⟨first.2.begin.2, 0⟩ :=
    run_overtaken r
  have answer := dropped .default _ ((overtaken r (.error .taskFailed)).take 2) [] [] _
    first.1.ticket first.2.begin.1 r (.error .taskFailed) run (by decide) rfl (by decide)
    (by decide)
  cases answer

end Overlap
end PageSearch
