import PageSearch.Proofs.Suggest.Field
import PageSearch.Proofs.Suggest.Overlap

/-!
# A field and a session agree

A field waits for its provider, a session has it work in the background while other queries come and
go. As long as no later ticket has been taken when a query checks its own, the session answers what
the field shows, be it a dropdown or an error of the search, and the provider is asked the same or
nothing by both. This holds of every provider that does not break down, whatever has been done with
the field before and whatever else is under way in the session.
-/

namespace PageSearch

/-- An answer of a session to what is typed into a field is the answer of the field. -/
structure SameAnswer (provider : String → Response) (f : SearchField) (typed : String)
    (answer : Except SearchError (Option Dropdown)) : Prop where
  /-- The session gives a dropdown if the field shows it, and only then. -/
  shown : ∀ d, answer = .ok (some d) ↔
    (f.input provider typed).1 = .ok d ∧ (f.input provider typed).2.dropdown = d
  /-- The session fails with an error if the field does, and only then. -/
  failed : ∀ e, answer = .error e ↔ (f.input provider typed).1 = .error e

section answer

variable {settings : Settings} {provider : String → Response} {f : SearchField} {typed : String}
  {s : Session} {t : Ticket}

/-- A field shows the dropdown that it gives. -/
lemma SearchField.dropdown_of_input {d : Dropdown} (ok : (f.input provider typed).1 = .ok d) :
    (f.input provider typed).2.dropdown = d := by
  cases short : f.typeahead.settings.tooShort (trimmed typed).toList with
  | true =>
    rw [input_of_short short] at ok ⊢
    cases ok
    rfl
  | false =>
    rw [input_of_asked short, Typeahead.receive] at ok ⊢
    cases outcome : (provider (trimmed typed)).outcome with
    | ok results =>
      rw [outcome] at ok
      cases ok
      rfl
    | error e =>
      rw [outcome] at ok
      cases ok

/-- A typed text asks a question exactly if it is not too short. -/
lemma SearchField.asked_input_ne_iff :
    (f.input provider typed).2.asked ≠ f.asked ↔
      f.typeahead.settings.tooShort (trimmed typed).toList = false := by
  rw [(input_frame provider f typed).2.2, Action.question?, Settings.tooShort_eq_false_iff]
  split_ifs with less
  · simp [less]
  · simp [Nat.not_lt.mp less]

/-- What the field itself answers is such an answer. -/
lemma sameAnswer_map (provider : String → Response) (f : SearchField) (typed : String) :
    SameAnswer provider f typed ((f.input provider typed).1.map some) := by
  cases result : (f.input provider typed).1 with
  | ok d =>
    have shown := SearchField.dropdown_of_input result
    constructor <;> simp [result, shown, Except.map]
  | error e => constructor <;> simp [result, Except.map]

/-- While its ticket is current, a query that is too short is settled as the field takes it. -/
lemma sameAnswer_settleShort
    (short : f.typeahead.settings.tooShort (trimmed typed).toList = true)
    (current : s.isCurrent t = true) : SameAnswer provider f typed (.ok (s.settleShort t)) := by
  have settled := Session.settleShort_eq_some_iff.mpr ⟨current, rfl⟩
  have same := sameAnswer_map provider f typed
  rw [SearchField.input_of_short short] at same
  rwa [settled]

/-- While its ticket is current, any other query is settled as the field takes the response. -/
lemma sameAnswer_settle (settings : s.settings = f.typeahead.settings)
    (asked : f.typeahead.settings.tooShort (trimmed typed).toList = false)
    (whole : (provider (trimmed typed)).ending ≠ .error .brokenDown)
    (current : s.isCurrent t = true) :
    SameAnswer provider f typed (s.settle t (provider (trimmed typed))) := by
  have same := sameAnswer_map provider f typed
  rw [SearchField.input_of_asked asked, Typeahead.receive] at same
  rw [Session.settle_of_ne_brokenDown whole, if_pos current, settings]
  cases outcome : (provider (trimmed typed)).outcome with
  | ok results =>
    rw [outcome] at same
    exact same
  | error e =>
    rw [outcome] at same
    exact same

/-- A query that no other overlaps is answered as the field takes it, and asks what the field
asks. -/
lemma sameAnswer_alone (provider : String → Response) (f : SearchField) (typed : String)
    (generation : UInt64) (whole : (provider (trimmed typed)).ending ≠ .error .brokenDown) :
    let alone := (Session.query (SearchField.consult provider)
      ⟨f.typeahead.settings, generation⟩ typed).run []
    SameAnswer provider f typed alone.1.1 ∧
      (f.input provider typed).2.asked = f.asked ++ alone.2 := by
  intro alone
  let s : Session := ⟨f.typeahead.settings, generation⟩
  -- Alone no other query takes a ticket, so that its own is the last one.
  have current : s.begin.2.isCurrent s.begin.1 = true := Session.isCurrent_begin s
  cases short : f.typeahead.settings.tooShort (trimmed typed).toList with
  | true =>
    have alone_eq : alone = ((.ok (s.begin.2.settleShort s.begin.1), s.begin.2), []) := by
      show (s.query (SearchField.consult provider) typed).run [] = _
      rw [Session.query_of_short _ short]
      rfl
    rw [alone_eq]
    refine ⟨sameAnswer_settleShort short current, ?_⟩
    rw [SearchField.input_of_short short]
    simp
  | false =>
    have alone_eq : alone = ((s.begin.2.settle s.begin.1 (provider (trimmed typed)), s.begin.2),
        [trimmed typed]) := by
      show (s.query (SearchField.consult provider) typed).run [] = _
      rw [Session.query_of_asked _ short]
      rfl
    rw [alone_eq]
    refine ⟨sameAnswer_settle rfl short whole current, ?_⟩
    rw [SearchField.input_of_asked short]

end answer

namespace Overlap

/-- What can be done in a new session whose provider responds to what it is asked as a function
does. -/
inductive Served (settings : Settings) (provider : String → Response) :
    List Event → State → Prop where
  | nil : Served settings provider [] ⟨.new settings, 0⟩
  | snoc {events : List Event} {e : Event} {s s' : State} :
    Served settings provider events s → Step s e s' →
    (∀ f ∈ s.flights, ∀ query r, f.question.query = some query → e = .responded f.ticket r →
      r = provider query) →
    Served settings provider (events ++ [e]) s'

section served

variable {settings : Settings} {provider : String → Response} {events : List Event} {s s' : State}
  {t : Ticket} {r : Response}

/-- To be served by a provider is a way to run. -/
lemma Served.run (served : Served settings provider events s) : Run settings events s := by
  induction served with
  | nil => exact .nil
  | snoc _ step _ run => exact .snoc run step

/-- No ticket is taken for two queries. -/
lemma Tracked.typed_unique (h : Tracked settings events s) {typed typed' : String}
    (mem : .started t typed ∈ events) (mem' : .started t typed' ∈ events) : typed = typed' := by
  have same := List.inj_on_of_nodup_map h.once mem mem' rfl
  cases same
  rfl

/-- What a flight asks is what was typed for its ticket. -/
lemma Tracked.query_eq (h : Tracked settings events s) {f : Flight} (flying : f ∈ s.flights)
    {typed : String} (started : .started f.ticket typed ∈ events) :
    f.question.query =
      if settings.tooShort (trimmed typed).toList then none else some (trimmed typed) := by
  obtain ⟨typed', started', query⟩ := (h.flights f flying).started
  rw [h.typed_unique started started', query]

/-- A query that is responded to is under way, and asks something. -/
lemma Step.responded_cases (step : Step s (.responded t r) s') :
    ∃ f ∈ s.flights, f.ticket = t ∧ ∃ query, f.question.query = some query := by
  cases step with
  | respond asks => exact ⟨_, Multiset.mem_cons_self _ _, rfl, _, asks⟩

/-- A ticket that is taken now has not been used before. -/
lemma Tracked.not_responded (h : Tracked settings events s)
    (few : (issued events).length + 1 < UInt64.size) {typed : String}
    (step : Step s (.started t typed) s') : .responded t r ∉ events := by
  intro mem
  have known := h.known _ mem
  cases step with
  | start => exact h.counted.begin_not_mem few known

/-- A query is responded to only if it is long enough, with what the provider gives for what was
typed. -/
lemma Served.response_eq (served : Served settings provider events s)
    (few : (issued events).length < UInt64.size) {typed : String}
    (started : .started t typed ∈ events) (responded : .responded t r ∈ events) :
    settings.tooShort (trimmed typed).toList = false ∧ r = provider (trimmed typed) := by
  -- The last event may have started the query or responded to it. It cannot have started it if the
  -- response is older, since its ticket was not known then.
  induction served with
  | nil => cases started
  | @snoc events e s s' served step serves ih =>
    have earlier := few
    rw [issued_append, List.length_append] at earlier
    have tracked := served.run.tracked (by omega)
    cases List.mem_append.mp responded with
    | inl old =>
      cases List.mem_append.mp started with
      | inl before => exact ih (by omega) before old
      | inr now =>
        cases List.mem_singleton.mp now
        rw [issued_concat_of_taken rfl, List.length_append] at few
        exact absurd old (tracked.not_responded few step)
    | inr now =>
      cases List.mem_singleton.mp now
      have before : .started t typed ∈ events := by simpa using started
      obtain ⟨f, flying, rfl, query, asks⟩ := step.responded_cases
      have asks' := tracked.query_eq flying before
      rw [asks] at asks'
      cases short : settings.tooShort (trimmed typed).toList with
      | true => simp [short] at asks'
      | false =>
        have eq : query = trimmed typed := by simpa [short] using asks'
        rw [← eq]
        exact ⟨rfl, serves f flying query r asks rfl⟩

/-- Every event is a step from the state that what was done before led to. -/
lemma Served.split {before after : List Event} {e : Event}
    (served : Served settings provider events s) (eq : events = before ++ e :: after) :
    ∃ s₁ s₂, Served settings provider before s₁ ∧ Step s₁ e s₂ := by
  induction served generalizing after with
  | nil => simp at eq
  | @snoc events e' s₁ s₂ served step _ ih =>
    obtain ⟨rfl, rfl⟩ | ⟨after', eq'⟩ := concat_eq_append_cons eq
    · exact ⟨s₁, s₂, served, step⟩
    · exact ih eq'

/-- A query whose ticket is still the last one gets the answer of a field, and what the field asks
is asked for it. -/
lemma Served.sameAnswer (served : Served settings provider events s)
    (few : (issued events).length < UInt64.size)
    (whole : ∀ query, (provider query).ending ≠ .error .brokenDown)
    {f : SearchField} (same : f.typeahead.settings = settings) {typed : String}
    (started : .started t typed ∈ events) (last : (issued events).getLast? = some t)
    {answer : Except SearchError (Option Dropdown)} (step : Step s (.answered t answer) s') :
    SameAnswer provider f typed answer ∧
      ((∃ r, .responded t r ∈ events) ↔ (f.input provider typed).2.asked ≠ f.asked) := by
  have tracked := served.run.tracked few
  have current := (tracked.counted.isCurrent_iff (mem_issued_of_started started)).mpr last
  rw [SearchField.asked_input_ne_iff, same]
  obtain ⟨flight, flying, rfl, settled⟩ := step.answered_cases
  have query := tracked.query_eq flying started
  -- A query that asked nobody was too short, and any other one got what the provider returns.
  cases settled with
  | inl settled =>
    obtain ⟨nothing, rfl⟩ := settled
    have short : settings.tooShort (trimmed typed).toList = true := by
      simpa [nothing] using query
    refine ⟨sameAnswer_settleShort (by rw [same, short]) current, ?_⟩
    rw [short]
    refine ⟨?_, nofun⟩
    intro responded
    obtain ⟨r, responded⟩ := responded
    rw [← (served.response_eq few started responded).1, short]
  | inr settled =>
    obtain ⟨query', r, -, response, rfl⟩ := settled
    have responded := (tracked.flights flight flying).responded r response
    obtain ⟨long, rfl⟩ := served.response_eq few started responded
    rw [← same] at long ⊢
    refine ⟨sameAnswer_settle ?_ long (whole _) current, ?_⟩
    · rw [tracked.counted.settings, same]
    · exact ⟨fun _ => long, fun _ => ⟨_, responded⟩⟩

end served

end Overlap

namespace SearchField

/-- A session answers what a field shows, whatever has been done with the field: if the query is the
only one that is under way, whichever ticket it takes, and also among others, as long as there are
numbers for tickets, if no later one has been taken when it answers. -/
theorem sameAnswer_query (settings : Settings) (provider : String → Response)
    (whole : ∀ query, (provider query).ending ≠ .error .brokenDown) (actions : List Action)
    (typed : String) :
    let f := after settings provider actions
    (∀ generation,
      let alone := (Session.query (consult provider) ⟨settings, generation⟩ typed).run []
      SameAnswer provider f typed alone.1.1 ∧
        (f.input provider typed).2.asked = f.asked ++ alone.2) ∧
    ∀ events s, Overlap.Served settings provider events s →
      (Overlap.issued events).length < UInt64.size →
      ∀ before t answer later, events = before ++ .answered t answer :: later →
        .started t typed ∈ before → (Overlap.issued before).getLast? = some t →
        SameAnswer provider f typed answer ∧
          ((∃ r, .responded t r ∈ before) ↔ (f.input provider typed).2.asked ≠ f.asked) := by
  intro f
  have same : f.typeahead.settings = settings := (frame_after settings provider actions).1
  refine ⟨?_, ?_⟩
  · intro generation
    rw [← same]
    exact sameAnswer_alone provider f typed generation (whole _)
  · intro events s served few before t answer later eq started last
    obtain ⟨s₁, s₂, served', step⟩ := served.split eq
    rw [eq, Overlap.issued_append, List.length_append] at few
    exact served'.sameAnswer (by omega) whole same started last step

/-- So it does if the provider first gives nothing and then something, while an earlier query is
still under way. -/
theorem sameAnswer_query_overlapping :
    let provider : String → Response := fun query => ⟨[[], [⟨query, "/it/", Single.zero⟩]], .ok ()⟩
    let f := after .default provider [.input "guide", .select 0]
    let first := (Session.new .default).start "guide"
    let second := first.2.start " it "
    let before : List Overlap.Event := [
      .started first.1.ticket "guide",
      .started second.1.ticket " it ",
      .responded second.1.ticket (provider "it")]
    let answer : Except SearchError (Option Dropdown) :=
      .ok (some (.suggestions [⟨"it", "/it/", Single.zero⟩]))
    (∀ query, (provider query).ending ≠ .error .brokenDown) ∧
      SameAnswer provider f " it "
        ((Session.query (consult provider) ⟨.default, 7⟩ " it ").run []).1.1 ∧
      Overlap.Served .default provider (before ++ [.answered second.1.ticket answer])
        ⟨second.2, {⟨first.1, none⟩}⟩ ∧
      SameAnswer provider f " it " answer := by
  intro provider f first second before answer
  have whole : ∀ query, (provider query).ending ≠ .error .brokenDown := by
    intro query
    simp [provider]
  have asks : second.1.query = some "it" := by decide
  have served : Overlap.Served .default provider (before ++ [.answered second.1.ticket answer])
      ⟨second.2, {⟨first.1, none⟩}⟩ := by
    refine .snoc (.snoc (.snoc (.snoc .nil (.start "guide") ?_) (.start " it ") ?_)
      (.respond asks _) ?_) (.settle asks) ?_
    -- Only the second query has had a response; the other steps are no responses.
    case refine_3 =>
      intro f flying query r asks' eq
      have flying : f ∈ (⟨second.1, none⟩ ::ₘ {⟨first.1, none⟩} : Multiset Overlap.Flight) := flying
      obtain ⟨ticket, rfl⟩ := Overlap.Event.responded.inj eq
      cases Multiset.mem_cons.mp flying with
      | inl own =>
        have same : second.1.query = some query := by
          rw [own] at asks'
          exact asks'
        rw [Option.some.inj (asks.symm.trans same)]
      | inr other =>
        rw [Multiset.mem_singleton.mp other] at ticket
        exact absurd ticket (by decide)
    all_goals
      intro f _ query r _ eq
      cases eq
  obtain ⟨alone, amid⟩ :=
    sameAnswer_query .default provider whole [.input "guide", .select 0] " it "
  have few : (Overlap.issued (before ++ [.answered second.1.ticket answer])).length <
      UInt64.size := by decide
  exact ⟨whole, (alone 7).1, served,
    (amid _ _ served few before second.1.ticket answer [] rfl (by simp [before]) rfl).1⟩

end SearchField
end PageSearch
