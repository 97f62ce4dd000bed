import Mathlib.Tactic.Lemma
import PageSearch.Command
import PageSearch.Proofs.Adapter.Reconfigured
import PageSearch.Proofs.Suggest.Dropdown

/-!
# The commands agree

`search`, `suggest` and `visit` reach an adapter in three ways: directly, through a session, and
through a typeahead that selects. For a query that is long enough they work with one list of
matches, of which `search` prints the first ones, `suggest` the first few of these, and `visit`
opens one of those that are suggested; for a query that is too short there is nothing to suggest or
to open. Blanks around the query do not matter, and neither does what the adapter was used for
before, with one exception. After a change of the policy an answer may be outdated, and as `search`
asks with the blanks and the others without them, it may be so for one and not for the others.
-/

namespace PageSearch

namespace Adapter

variable {a : Adapter} {query : String}

/-- The response to a query suggests what a search for it finds, all at once, or has its error. -/
lemma respond_fst (a : Adapter) (query : String) :
    (a.respond query).1 =
      match (a.search query).1 with
      | .ok found => ⟨[found.map Suggestion.ofMatch], .ok ()⟩
      | .error e => ⟨[], .error e⟩ := by
  unfold respond
  cases a.search query with
  | mk result a' => cases result <;> rfl

/-- The hints for a query depend on the store alone. -/
lemma SameSource.didYouMean_eq {b : Adapter} (h : SameSource a b) (query : String) (most : Nat) :
    a.didYouMean query most = b.didYouMean query most := by
  simp only [didYouMean, nearMisses, h.store]

end Adapter

namespace TargetPrinter

/-- A page takes every line that is printed. -/
lemma navigate_page (p : TargetPrinter Page Empty) (url : String) :
    p.navigate url = { p with sink := ⟨p.sink.text ++ p.resolve url ++ "\n"⟩ } := by
  unfold navigate linePieces
  split
  · rename_i eq
    split at eq
    · rename_i nothing
      cases eq
      simp [nothing]
    · cases eq
      simp
  · rename_i e sink eq
    exact e.elim

end TargetPrinter

namespace Command

variable {a : Adapter} {c : Config} {query : String} {found : List Match}

/-- The line that a url is printed as, without its end. -/
def target (c : Config) (url : String) : String :=
  (TargetPrinter.new c.baseUrl ⟨""⟩ : TargetPrinter Page Empty).resolve url

/-- A run of `search` prints its list, or fails as the adapter does. -/
lemma runSearch_fst {limit : Nat} (pos : limit ≠ 0) :
    ((runSearch query limit).run a).1 =
      match (a.search query).1 with
      | .ok found =>
        .ok (Report.ofMatches query (found.take limit)
          (if (found.take limit).isEmpty then a.didYouMean query mostHints else []))
      | .error e => .error (.failed e) := by
  have hints := (a.sameSource_search query).didYouMean_eq query mostHints
  rw [runSearch, if_neg pos]
  simp only [StateT.run_bind, StateT.run_get]
  -- The hints are worked out after the search, by an adapter with the same store.
  cases searched : a.search query with
  | mk result a' =>
    rw [searched] at hints
    cases result with
    | ok found =>
      rw [← hints]
      simp [searched]
      rfl
    | error e =>
      simp [searched]
      rfl

/-- A typeahead that shows the first of some matches and prints where a selection leads. -/
def showing (c : Config) (found : List Match) : Typeahead (TargetPrinter Page Empty) :=
  ⟨c.settings, .new c.baseUrl ⟨""⟩, .ofResults (found.map Suggestion.ofMatch) c.settings.limit⟩

/-- The typeahead shows the matches up to the limit. -/
lemma shown_showing (c : Config) (found : List Match) (i : Nat) :
    (showing c found).dropdown.shown[i]? =
      (found.take c.settings.limit)[i]?.map Suggestion.ofMatch := by
  rw [showing, Dropdown.shown_ofResults, ← List.map_take, List.getElem?_map]

/-- Past the matches that are shown there is nothing to select. -/
lemma select_showing_of_none {i : Nat} (picked : (found.take c.settings.limit)[i]? = none) :
    (showing c found).select i = (false, showing c found) := by
  apply Typeahead.select_of_not_shown
  rw [shown_showing, picked]
  rfl

/-- Selecting a match that is shown prints the line for its url. -/
lemma select_showing_of_some {i : Nat} {m : Match}
    (picked : (found.take c.settings.limit)[i]? = some m) (url : m.record.url ≠ "") :
    ∃ t, (showing c found).select i = (true, t) ∧
      t.navigator.finish = .ok ⟨target c m.record.url ++ "\n"⟩ := by
  have shown : (showing c found).dropdown.shown[i]? = some (Suggestion.ofMatch m) := by
    rw [shown_showing, picked]
    rfl
  refine ⟨_, Typeahead.select_of_shown shown url, ?_⟩
  show ((TargetPrinter.new c.baseUrl ⟨""⟩ : TargetPrinter Page Empty).navigate
    m.record.url).finish = _
  rw [TargetPrinter.navigate_page]
  simp [TargetPrinter.finish, TargetPrinter.new, target]

/-- The typeahead that `visit` begins with. -/
def starting (c : Config) : Typeahead (TargetPrinter Page Empty) :=
  .new c.settings (.new c.baseUrl ⟨""⟩)

section input

variable {t : Typeahead (TargetPrinter Page Empty)} {a' : Adapter}

/-- `visit` fails if there is an error for its input. -/
lemma runVisit_of_input_error {e : SearchError}
    (input : (Typeahead.input ask (starting c) query).run a = ((.error e, t), a')) (pick : Nat) :
    ((runVisit c query pick).run a).1 = .error (.failed e) := by
  rw [starting] at input
  simp only [runVisit, StateT.run_bind, input]
  rfl

variable {d : Dropdown}
  (input : (Typeahead.input ask (starting c) query).run a = ((.ok d, t), a'))
include input

/-- Positions are counted from one. -/
lemma runVisit_zero : ((runVisit c query 0).run a).1 = .error (.noSuggestion 0 query) := by
  rw [starting] at input
  simp only [runVisit, StateT.run_bind, input]
  rfl

/-- A run of `visit` finds nothing to open where the selection leads nowhere. -/
lemma runVisit_of_select_false {i : Nat} {t' : Typeahead (TargetPrinter Page Empty)}
    (selected : t.select i = (false, t')) :
    ((runVisit c query (i + 1)).run a).1 = .error (.noSuggestion (i + 1) query) := by
  rw [starting] at input
  simp only [runVisit, StateT.run_bind, input]
  show (StateT.run _ a' : Id _).1 = _
  simp only [selected]
  rfl

/-- Otherwise it prints what the navigator was given. -/
lemma runVisit_of_select_true {i : Nat} {t' : Typeahead (TargetPrinter Page Empty)} {page : Page}
    (selected : t.select i = (true, t')) (finished : t'.navigator.finish = .ok page) :
    ((runVisit c query (i + 1)).run a).1 = .ok page.text := by
  rw [starting] at input
  simp only [runVisit, StateT.run_bind, input]
  show (StateT.run _ a' : Id _).1 = _
  simp only [selected, finished]
  rfl

end input

section short

variable (short : c.settings.tooShort (trimmed query).toList = true)
include short

/-- For a query that is too short `suggest` prints nothing. -/
lemma runSuggest_of_short : ((runSuggest c query).run a).1 = .ok "" := by
  have settled := Session.settleShort_eq_some_iff.mpr
    ⟨Session.isCurrent_begin (.new c.settings), rfl⟩
  rw [runSuggest, Session.query_of_short ask (s := .new c.settings) short, settled]
  rfl

/-- Such a query leaves the typeahead closed, and the adapter unasked. -/
lemma run_input_of_short :
    (Typeahead.input ask (starting c) query).run a = ((.ok .hidden, starting c), a) := by
  rw [Typeahead.input_of_short ask (t := starting c) short]
  rfl

/-- So there is nothing that `visit` could open. -/
lemma runVisit_of_short (pick : Nat) :
    ((runVisit c query pick).run a).1 = .error (.noSuggestion pick query) := by
  have input := run_input_of_short (a := a) short
  cases pick with
  | zero => exact runVisit_zero input
  | succ i => exact runVisit_of_select_false input (Typeahead.select_of_not_shown rfl)

end short

section asked

variable (asked : c.settings.tooShort (trimmed query).toList = false)
include asked

/-- `suggest` settles the response to its query, the only one of its session. -/
lemma runSuggest_of_asked :
    ((runSuggest c query).run a).1 =
      match (Session.new c.settings).begin.2.settle (Session.new c.settings).begin.1
        (a.respond (trimmed query)).1 with
      | .error e => .error (.failed e)
      | .ok none => .error .superseded
      | .ok (some d) => .ok (Report.ofDropdown d c.settings.display) := by
  have queried : (Session.query ask (.new c.settings) query).run a =
      (((Session.new c.settings).begin.2.settle (Session.new c.settings).begin.1
        (a.respond (trimmed query)).1, (Session.new c.settings).begin.2),
        (a.respond (trimmed query)).2) := by
    rw [Session.query_of_asked ask (s := .new c.settings) asked]
    rfl
  rw [runSuggest, StateT.run_bind, queried]
  -- Whatever the session settles is only passed on from here.
  generalize (Session.new c.settings).begin.2.settle (Session.new c.settings).begin.1
    (a.respond (trimmed query)).1 = answer
  cases answer with
  | error e => rfl
  | ok shown => cases shown <;> rfl

/-- `suggest` prints the dropdown for the adapter's matches. -/
lemma runSuggest_of_ok (ok : (a.search (trimmed query)).1 = .ok found) :
    ((runSuggest c query).run a).1 =
      .ok (Report.ofDropdown (.ofResults (found.map Suggestion.ofMatch) c.settings.limit)
        c.settings.display) := by
  have settled := Session.settle_eq_ok_some_iff.mpr
    ⟨Session.isCurrent_begin (.new c.settings), found.map Suggestion.ofMatch,
      show Response.outcome ⟨[found.map Suggestion.ofMatch], .ok ()⟩ = _ from rfl, rfl⟩
  rw [runSuggest_of_asked asked, Adapter.respond_fst, ok]
  simp only [settled]
  rfl

/-- A run of `suggest` passes on the reference that no record has. -/
lemma runSuggest_of_danglingReference {reference : String}
    (error : (a.search (trimmed query)).1 = .error (.danglingReference reference)) :
    ((runSuggest c query).run a).1 = .error (.failed (.danglingReference reference)) := by
  have whole : (Except.error (.danglingReference reference) : Except SearchError Unit) ≠
      .error .brokenDown := by simp
  rw [runSuggest_of_asked asked, Adapter.respond_fst, error,
    Session.settle_of_ne_brokenDown whole, Session.isCurrent_begin]
  rfl

/-- A run of `suggest` reports a breakdown as a task that failed. -/
lemma runSuggest_of_brokenDown (error : (a.search (trimmed query)).1 = .error .brokenDown) :
    ((runSuggest c query).run a).1 = .error (.failed .taskFailed) := by
  rw [runSuggest_of_asked asked, Adapter.respond_fst, error, Session.settle_of_brokenDown rfl]

/-- The typeahead takes in the response to its query. -/
lemma run_input_of_asked :
    (Typeahead.input ask (starting c) query).run a =
      ((starting c).receive (a.respond (trimmed query)).1, (a.respond (trimmed query)).2) := by
  rw [Typeahead.input_of_asked ask (t := starting c) asked]
  rfl

/-- A run of `visit` fails as the adapter does, whatever is picked. -/
lemma runVisit_of_error {e : SearchError} (error : (a.search (trimmed query)).1 = .error e)
    (pick : Nat) : ((runVisit c query pick).run a).1 = .error (.failed e) := by
  have input := run_input_of_asked (a := a) asked
  rw [Adapter.respond_fst, error] at input
  exact runVisit_of_input_error input pick

/-- `visit` prints where the picked one of the matches that are shown leads, if there is one. -/
lemma runVisit_of_ok (ok : (a.search (trimmed query)).1 = .ok found)
    (urls : ∀ m ∈ found, m.record.url ≠ "") (pick : Nat) :
    ((runVisit c query pick).run a).1 =
      match pick with
      | 0 => .error (.noSuggestion 0 query)
      | i + 1 =>
        match (found.take c.settings.limit)[i]? with
        | some m => .ok (target c m.record.url ++ "\n")
        | none => .error (.noSuggestion (i + 1) query) := by
  have input := run_input_of_asked (a := a) asked
  rw [Adapter.respond_fst, ok] at input
  cases pick with
  | zero => exact runVisit_zero input
  | succ i =>
    cases picked : (found.take c.settings.limit)[i]? with
    | none =>
      simp only [picked]
      exact runVisit_of_select_false input (select_showing_of_none picked)
    | some m =>
      have url := urls m (List.mem_of_mem_take (List.mem_of_getElem? picked))
      obtain ⟨t, selected, finished⟩ := select_showing_of_some (c := c) picked url
      simp only [picked]
      exact runVisit_of_select_true input selected finished

/-- `suggest` prints a dropdown exactly if the adapter has an answer. -/
lemma exists_runSuggest_iff :
    (∃ text, ((runSuggest c query).run a).1 = .ok text) ↔
      ∃ found, (a.search (trimmed query)).1 = .ok found := by
  rcases a.search_cases (trimmed query) with ⟨found, ok⟩ | ⟨reference, error⟩ | error
  · simp [runSuggest_of_ok asked ok, ok]
  · simp [runSuggest_of_danglingReference asked error, error]
  · simp [runSuggest_of_brokenDown asked error, error]

/-- `visit` refuses a pick of zero exactly if the adapter has an answer. -/
lemma runVisit_zero_iff :
    ((runVisit c query 0).run a).1 = .error (.noSuggestion 0 query) ↔
      ∃ found, (a.search (trimmed query)).1 = .ok found := by
  cases searched : (a.search (trimmed query)).1 with
  | ok found =>
    rw [runVisit_of_ok asked searched fun m mem => Adapter.url_ne_of_search searched mem]
    simp
  | error e => simp [runVisit_of_error asked searched]

end asked

section texts

variable {α : Type}

/-- A text is made of the lines for some items in their order, which are numbered from one. -/
def Numbers (line : Nat → α → String) (items : List α) (text : String) : Prop :=
  ∃ lines, text = String.join lines ∧ ∀ i, lines[i]? = items[i]?.map (line (i + 1))

/-- The line by which a match is suggested. -/
def suggested (display : Display) (n : Nat) (m : Match) : String :=
  let label :=
    match display with
    | .title => m.record.title
    | .url => m.record.url
  Nat.repr n ++ ". " ++ label ++ "\n"

/-- The lines by which a match is listed: what it is and how relevant, beside the best score, then
the beginning of its text if it has one, and an empty line. -/
def listed (best : Single) (n : Nat) (m : Match) : String :=
  let text := plainText m.record.content
  let shown := if text = "" then "" else "   " ++ snippet text 100 ++ "\n"
  Nat.repr n ++ ". " ++ m.record.title ++ " (" ++ m.record.url ++ ") - relevance: " ++
    Nat.repr (relevancePercent m.score best) ++ "%\n" ++ shown ++ "\n"

/-- What is said of a query that found nothing, and of the pages that it may have meant. -/
def unfound (query : String) (hints : List Record) : String :=
  let meant := hints.map fun r => "• " ++ r.title ++ " (" ++ r.url ++ ")\n"
  "No results found for '" ++ query ++ "'.\n" ++
    if hints = [] then "" else "\nDid you mean:\n" ++ String.join meant

/-- Lines that are joined with their numbers number the items. -/
lemma numbers_join_numbered (line : Nat → α → String) (items : List α) :
    Numbers line items (String.join ((Report.numbered items).map fun (a, n) => line n a)) := by
  refine ⟨_, rfl, fun i => ?_⟩
  rw [List.getElem?_map, Report.numbered, List.getElem?_zipIdx, Option.map_map, Nat.add_comm]
  rfl

/-- A list of matches has a heading and the entries of the matches. -/
lemma exists_ofMatches (query : String) (best : Match) (rest : List Match) (near : List Record) :
    ∃ list, Report.ofMatches query (best :: rest) near =
        "Search results for '" ++ query ++ "':\n\n" ++ list ∧
      Numbers (listed best.score) (best :: rest) list :=
  ⟨_, rfl, numbers_join_numbered (listed best.score) (best :: rest)⟩

/-- An empty list of matches says that there are none. -/
lemma ofMatches_nil (query : String) (near : List Record) :
    Report.ofMatches query [] near = unfound query near := by
  cases near <;> rfl

/-- A dropdown for matches has a line for each of the first ones. -/
lemma numbers_ofDropdown (display : Display) (some : found ≠ []) (limit : Nat) :
    Numbers (suggested display) (found.take limit)
      (Report.ofDropdown (.ofResults (found.map Suggestion.ofMatch) limit) display) := by
  have opened : Dropdown.ofResults (found.map Suggestion.ofMatch) limit =
      .suggestions ((found.take limit).map Suggestion.ofMatch) := by
    simp [Dropdown.ofResults, some, List.map_take]
  rw [opened]
  refine ⟨_, rfl, fun i => ?_⟩
  rw [List.getElem?_map, Report.numbered, List.getElem?_zipIdx, Dropdown.labels, Dropdown.shown,
    List.getElem?_map, List.getElem?_map, Nat.add_comm]
  cases (found.take limit)[i]? with
  | none => rfl
  | some m => cases display <;> rfl

end texts

/-- What the three commands print for a query that is long enough, given the answer of the adapter
to the query as `search` asks it. -/
structure Agree (c : Config) (query : String) (most : Nat) (hints : List Record)
    (answer : Except SearchError (List Match)) (search suggest : Except CommandError String)
    (visit : Nat → Except CommandError String) : Prop where
  /-- The adapter has an answer, or meets a reference that no record has, or its index breaks
  down. -/
  outcome : (∃ found, answer = .ok found) ∨
    (∃ reference, answer = .error (.danglingReference reference)) ∨ answer = .error .brokenDown
  /-- If nothing is found, `search` says so, with what may have been meant, and `suggest` too. -/
  nothing : answer = .ok [] →
    search = .ok (unfound query hints) ∧ suggest = .ok "No matches\n"
  /-- Otherwise `search` lists the matches up to its own limit, and `suggest` the first ones of
  these up to the limit of the dropdown. -/
  found : ∀ best rest, answer = .ok (best :: rest) →
    (∃ list, search = .ok ("Search results for '" ++ query ++ "':\n\n" ++ list) ∧
      Numbers (listed best.score) ((best :: rest).take most) list) ∧
    ∃ lines, suggest = .ok lines ∧
      Numbers (suggested c.settings.display)
        (((best :: rest).take most).take c.settings.limit) lines
  /-- `visit` prints where a pick leads that is the number of a line of `suggest`. -/
  opens : ∀ found, answer = .ok found → ∀ i m,
    ((found.take most).take c.settings.limit)[i]? = some m →
      visit (i + 1) = .ok (target c m.record.url ++ "\n")
  /-- It opens nothing for a pick that is not. -/
  refuses : ∀ found, answer = .ok found → ∀ pick,
    pick = 0 ∨ ((found.take most).take c.settings.limit).length < pick →
      visit pick = .error (.noSuggestion pick query)
  /-- A reference that no record has is the error of all three. -/
  dangling : ∀ reference, answer = .error (.danglingReference reference) →
    search = .error (.failed (.danglingReference reference)) ∧
    suggest = .error (.failed (.danglingReference reference)) ∧
    ∀ pick, visit pick = .error (.failed (.danglingReference reference))
  /-- An index that breaks down takes `search` and `visit` with it, and fails the task of
  `suggest`. -/
  broken : answer = .error .brokenDown →
    search = .error (.failed .brokenDown) ∧
    suggest = .error (.failed .taskFailed) ∧
    ∀ pick, visit pick = .error (.failed .brokenDown)

/-- The commands agree if the adapter gives each of them the same answer. -/
lemma agree_of_answer {forSearch forSuggest forVisit : Adapter} {most : Nat}
    {answer : Except SearchError (List Match)} (limit_pos : 1 ≤ c.settings.limit)
    (le : c.settings.limit ≤ most) (asked : c.settings.tooShort (trimmed query).toList = false)
    (toSearch : (forSearch.search query).1 = answer)
    (toSuggest : (forSuggest.search (trimmed query)).1 = answer)
    (toVisit : (forVisit.search (trimmed query)).1 = answer) :
    Agree c query most (forSearch.didYouMean query mostHints) answer
      ((runSearch query most).run forSearch).1 ((runSuggest c query).run forSuggest).1
      (fun pick => ((runVisit c query pick).run forVisit).1) := by
  have pos : most ≠ 0 := by omega
  -- What is suggested is at the head of what is listed.
  have shown (found : List Match) :
      (found.take most).take c.settings.limit = found.take c.settings.limit := by
    rw [List.take_take, Nat.min_eq_left le]
  -- A suggestion without a url could not be opened, but no record is without one.
  have urls {found : List Match} (ok : answer = .ok found) : ∀ m ∈ found, m.record.url ≠ "" :=
    fun m mem => Adapter.url_ne_of_search (toVisit.trans ok) mem
  have searchFails {e : SearchError} (error : answer = .error e) :
      ((runSearch query most).run forSearch).1 = .error (.failed e) := by
    rw [runSearch_fst pos, toSearch, error]
  have visitFails {e : SearchError} (error : answer = .error e) (pick : Nat) :
      ((runVisit c query pick).run forVisit).1 = .error (.failed e) :=
    runVisit_of_error asked (toVisit.trans error) pick
  constructor
  case outcome =>
    rw [← toSearch]
    exact forSearch.search_cases query
  case nothing =>
    intro ok
    rw [runSearch_fst pos, toSearch, runSuggest_of_ok asked (toSuggest.trans ok), ok]
    refine ⟨?_, rfl⟩
    simp [ofMatches_nil]
  case found =>
    intro best rest ok
    obtain ⟨n, rfl⟩ := Nat.exists_eq_succ_of_ne_zero pos
    rw [runSearch_fst pos, toSearch, runSuggest_of_ok asked (toSuggest.trans ok), ok, shown]
    refine ⟨?_, _, rfl, numbers_ofDropdown _ (List.cons_ne_nil best rest) _⟩
    obtain ⟨list, eq, numbers⟩ := exists_ofMatches query best (rest.take n) []
    exact ⟨list, congrArg Except.ok eq, numbers⟩
  case opens =>
    intro found ok i m at'
    rw [shown] at at'
    rw [runVisit_of_ok asked (toVisit.trans ok) (urls ok)]
    simp only [at']
  case refuses =>
    intro found ok pick beyond
    rw [shown] at beyond
    rw [runVisit_of_ok asked (toVisit.trans ok) (urls ok)]
    cases pick with
    | zero => rfl
    | succ i =>
      have absent : (found.take c.settings.limit)[i]? = none :=
        List.getElem?_eq_none (by omega)
      simp only [absent]
  case dangling =>
    intro reference error
    exact ⟨searchFails error, runSuggest_of_danglingReference asked (toSuggest.trans error),
      visitFails error⟩
  case broken =>
    intro error
    exact ⟨searchFails error, runSuggest_of_brokenDown asked (toSuggest.trans error),
      visitFails error⟩

/-- From what the commands print it can be told whether the adapter had an answer to each. -/
lemma Agree.ok_iff {forSuggest forVisit : Adapter} {most : Nat} {hints : List Record}
    {answer : Except SearchError (List Match)} {search : Except CommandError String}
    (asked : c.settings.tooShort (trimmed query).toList = false)
    (h : Agree c query most hints answer search ((runSuggest c query).run forSuggest).1
      (fun pick => ((runVisit c query pick).run forVisit).1)) :
    ((∃ found, (forSuggest.search (trimmed query)).1 = .ok found) ↔ ∃ found, answer = .ok found) ∧
      ((∃ found, (forVisit.search (trimmed query)).1 = .ok found) ↔
        ∃ found, answer = .ok found) := by
  rw [← exists_runSuggest_iff asked, ← runVisit_zero_iff asked]
  -- `suggest` prints something, and `visit` misses a suggestion, only if there was an answer.
  rcases h.outcome with ⟨found, ok⟩ | ⟨reference, error⟩ | error
  · refine ⟨iff_of_true ?_ ⟨found, ok⟩, iff_of_true (h.refuses found ok 0 (.inl rfl)) ⟨found, ok⟩⟩
    cases found with
    | nil => exact ⟨_, (h.nothing ok).2⟩
    | cons best rest =>
      obtain ⟨-, lines, eq, -⟩ := h.found best rest ok
      exact ⟨lines, eq⟩
  · obtain ⟨-, failed, visits⟩ := h.dangling reference error
    rw [failed, visits 0, error]
    simp
  · obtain ⟨-, failed, visits⟩ := h.broken error
    rw [failed, visits 0, error]
    simp

/-- Commands that ask adapters with the same source agree exactly if the answer is outdated for all
of these or for none. -/
lemma agree_iff_outdated {forSearch forSuggest forVisit : Adapter} {most : Nat}
    (limit_pos : 1 ≤ c.settings.limit) (le : c.settings.limit ≤ most)
    (asked : c.settings.tooShort (trimmed query).toList = false)
    (search : forSearch.Lenient) (suggest : forSuggest.Lenient) (visit : forVisit.Lenient)
    (suggestSource : Adapter.SameSource forSuggest forSearch)
    (visitSource : Adapter.SameSource forVisit forSearch) :
    Agree c query most (forSearch.didYouMean query mostHints) (forSearch.search query).1
        ((runSearch query most).run forSearch).1 ((runSuggest c query).run forSuggest).1
        (fun pick => ((runVisit c query pick).run forVisit).1) ↔
      (forSuggest.Outdated (trimmed query) ↔ forSearch.Outdated query) ∧
        (forVisit.Outdated (trimmed query) ↔ forSearch.Outdated query) := by
  -- `suggest` and `visit` ask without the blanks around the query, which comes to the same.
  have same (b : Adapter) : b.resolve (trimmed query) = b.resolve query := b.resolve_trim query
  constructor
  · intro h
    obtain ⟨suggest_iff, visit_iff⟩ := h.ok_iff asked
    exact ⟨search.outdated_iff_of_ok_iff suggest suggestSource same suggest_iff,
      search.outdated_iff_of_ok_iff visit visitSource same visit_iff⟩
  · rintro ⟨suggest_iff, visit_iff⟩
    exact agree_of_answer limit_pos le asked rfl
      (search.search_eq_search suggest suggestSource same suggest_iff)
      (search.search_eq_search visit visitSource same visit_iff)

/-- On an adapter that has been used in any way, and was asked anything before each of them, the
commands agree on a query that is long enough without the blanks at its ends exactly if the answer
is outdated for all of them or for none, where `search` lists at least as many matches as are
suggested. So they always agree if the policy has not been changed. For a query that is too short
`suggest` prints nothing and `visit` opens nothing. -/
theorem commands_agree (store : Store) (index : Index) (policy : DanglingPolicy) (capacity : Nat)
    (uses : List Adapter.Use) (c : Config) (limit_pos : 1 ≤ c.settings.limit) (query : String)
    (most : Nat) (le : c.settings.limit ≤ most)
    (beforeSearch beforeSuggest beforeVisit : List String) :
    let a := (Adapter.opened store index policy capacity).used uses
    let search := ((run c (.search query most)).run (a.after beforeSearch)).1
    let suggest := ((run c (.suggest query)).run (a.after beforeSuggest)).1
    let visit pick := ((run c (.visit query pick)).run (a.after beforeVisit)).1
    let agree := Agree c query most (a.didYouMean query mostHints)
      ((a.after beforeSearch).search query).1 search suggest visit
    Text.Trims query.toList (trimmed query).toList ∧
    (c.settings.minLength ≤ (trimmed query).toList.length →
      (agree ↔
        ((a.after beforeSuggest).Outdated (trimmed query) ↔ (a.after beforeSearch).Outdated query) ∧
        ((a.after beforeVisit).Outdated (trimmed query) ↔ (a.after beforeSearch).Outdated query)) ∧
      ((∀ policy, .policy policy ∉ uses) → agree)) ∧
    ((trimmed query).toList.length < c.settings.minLength →
      suggest = .ok "" ∧ ∀ pick, visit pick = .error (.noSuggestion pick query)) := by
  intro a search suggest visit agree
  refine ⟨trims_trimmed query, fun enough => ?_, fun less => ?_⟩
  case refine_2 =>
    have short := Settings.tooShort_iff.mpr less
    exact ⟨runSuggest_of_short short, runVisit_of_short short⟩
  have asked := Settings.tooShort_eq_false_iff.mpr enough
  obtain ⟨lenient, -, -⟩ := (Adapter.lenient_opened store index policy capacity).used uses
  obtain ⟨searchLenient, searchSource⟩ := lenient.after beforeSearch
  have hints : a.didYouMean query mostHints = (a.after beforeSearch).didYouMean query mostHints :=
    (searchSource.didYouMean_eq query mostHints).symm
  have sameSource (earlier : List String) :
      Adapter.SameSource (a.after earlier) (a.after beforeSearch) :=
    (lenient.after earlier).2.trans searchSource.symm
  have agree_iff : agree ↔
      ((a.after beforeSuggest).Outdated (trimmed query) ↔ (a.after beforeSearch).Outdated query) ∧
      ((a.after beforeVisit).Outdated (trimmed query) ↔ (a.after beforeSearch).Outdated query) := by
    show Agree c query most (a.didYouMean query mostHints) _ _ _ _ ↔ _
    rw [hints]
    exact agree_iff_outdated limit_pos le asked searchLenient (lenient.after beforeSuggest).1
      (lenient.after beforeVisit).1 (sameSource beforeSuggest) (sameSource beforeVisit)
  refine ⟨agree_iff, fun kept => agree_iff.mpr ?_⟩
  have faithful : a.Faithful := (Adapter.faithful_opened store index policy capacity).used kept
  have current (earlier : List String) (query : String) : ¬ (a.after earlier).Outdated query :=
    (faithful.after earlier).1.not_outdated query
  exact ⟨iff_of_false (current _ _) (current _ _), iff_of_false (current _ _) (current _ _)⟩

/-- A query finds the page whose title it is, with blanks around it or not. -/
lemma finds_of_trimmed {r : Record} {l : Char} (title : trimmed query = r.title)
    (mem : l ∈ r.title.toList) (alphanumeric : Text.isAlphanumeric l = true) :
    Index.Finds query.toList r := by
  have own : Index.Finds r.title.toList r := Index.finds_title mem alphanumeric
  rw [← title, trimmed, String.toList_ofList] at own
  exact Index.finds_trim.mp own

/-- So they do by default on a stop word with blanks around it, which is the title of a page, after
the adapter was used, was given other room and was asked again. -/
theorem commands_agree_stop_word :
    let store : Store :=
      .ofDistinct [⟨"It", "", "/it/"⟩, ⟨"Guide", "<p>Read it</p>", "/guide/"⟩]
        (by decide) (by decide)
    let c := Config.default
    let uses : List Adapter.Use := [.search "guide", .capacity 1, .search " It "]
    let a := (Adapter.opened store (Index.build c.boosts store.records) c.policy 3).used uses
    let answer := ((a.after ["It", " It "]).search " It ").1
    1 ≤ c.settings.limit ∧ c.settings.limit ≤ 10 ∧ (∀ policy, .policy policy ∉ uses) ∧
      c.settings.minLength ≤ (trimmed " It ").toList.length ∧
      (∃ best rest, answer = .ok (best :: rest)) ∧
      Agree c " It " 10 (a.didYouMean " It " mostHints) answer
        ((run c (.search " It " 10)).run (a.after ["It", " It "])).1
        ((run c (.suggest " It ")).run (a.after ["guide"])).1
        (fun pick => ((run c (.visit " It " pick)).run (a.after ["It", "guide"])).1) := by
  intro store c uses a answer
  have enough : c.settings.minLength ≤ (trimmed " It ").toList.length := by decide
  have kept : ∀ policy, .policy policy ∉ uses := by simp [uses]
  have agree := ((commands_agree store (Index.build c.boosts store.records) c.policy 3 uses c
    (by decide) " It " 10 (by decide) ["It", " It "] ["guide"] ["It", "guide"]).2.1 enough).2 kept
  refine ⟨by decide, by decide, kept, enough, ?_, agree⟩
  obtain ⟨-, sameStore, sameIndex⟩ :=
    (Adapter.lenient_opened store (Index.build c.boosts store.records) c.policy 3).used uses
  have records : a.store.records = store.records := congrArg Store.records sameStore
  have own : a.index = Index.build c.boosts a.store.records := by
    rw [records]
    exact sameIndex
  -- The answer has the page of that title, so that it is not empty.
  obtain ⟨found, ok, mem_iff⟩ :=
    Adapter.exists_matches_own own (by rw [records]; decide) " It "
  have faithful : a.Faithful := (Adapter.faithful_opened store _ c.policy 3).used kept
  have answered : answer = .ok found := (faithful.search_after _ " It ").trans ok
  have title : (⟨"It", "", "/it/"⟩ : Record) ∈ found.map Match.record := by
    refine (mem_iff _).mpr ⟨?_, finds_of_trimmed (l := 'I') ?_ ?_ ?_⟩
    · rw [records]
      exact List.mem_cons_self
    all_goals decide
  cases found with
  | nil => cases title
  | cons best rest => exact ⟨best, rest, answered⟩

/-- They do not on a query that was searched for, with blanks around it, while dangling hits were
skipped, once they may be skipped no more: `search` still prints what it found, the others fail. -/
theorem not_agree_of_remembered :
    let store : Store := .ofDistinct [⟨"Guide", "", "/guide/"⟩] (by decide) (by decide)
    let index := Index.build .default [⟨"Gone", "", "/gone/"⟩]
    let c := Config.default
    let a := (Adapter.opened store index .skip 1).used [.search " Gone ", .policy .fail]
    let search := ((run c (.search " Gone " 10)).run a).1
    let suggest := ((run c (.suggest " Gone ")).run a).1
    let visit pick := ((run c (.visit " Gone " pick)).run a).1
    c.settings.minLength ≤ (trimmed " Gone ").toList.length ∧
      search = .ok (unfound " Gone " (a.didYouMean " Gone " mostHints)) ∧
      suggest = .error (.failed (.danglingReference "/gone/")) ∧
      (∀ pick, visit pick = .error (.failed (.danglingReference "/gone/"))) ∧
      ¬ Agree c " Gone " 10 (a.didYouMean " Gone " mostHints) (a.search " Gone ").1
        search suggest visit := by
  intro store index c a search suggest visit
  have enough : c.settings.minLength ≤ (trimmed " Gone ").toList.length := by decide
  have asked := Settings.tooShort_eq_false_iff.mpr enough
  have absent : ¬ store.Holds "/gone/" := by decide
  have finds : Index.Finds " Gone ".toList ⟨"Gone", "", "/gone/"⟩ :=
    finds_of_trimmed (l := 'G') (by decide) (by decide) (by decide)
  obtain ⟨hits, ranked, some, gone⟩ : ∃ hits, index.search " Gone " = .ok hits ∧ hits ≠ [] ∧
      ∀ hit ∈ hits, hit.reference = "/gone/" := Adapter.exists_search_only finds
  have fresh : (Adapter.opened store index .skip 1).Lenient :=
    Adapter.lenient_opened store index .skip 1
  obtain ⟨lenient, sameStore, sameIndex⟩ : a.Lenient ∧ a.store = store ∧ a.index = index :=
    fresh.used [.search " Gone ", .policy .fail]
  have source (policy : DanglingPolicy) :
      Adapter.SameSource (a.withPolicy policy) (Adapter.opened store index policy 1) :=
    ⟨sameStore, sameIndex, rfl⟩
  have resolved (policy : DanglingPolicy) :=
    Adapter.resolve_of_departed (a := Adapter.opened store index policy 1) ranked some gone absent
  -- `search` asks with the blanks, and is given what it was given before the change.
  obtain ⟨hit, mem⟩ := List.exists_mem_of_ne_nil hits some
  have outdated : a.Outdated " Gone " :=
    (fresh.reconfigured 1).repeated " Gone " ⟨hits, ranked, hit, mem, by rwa [gone hit mem]⟩
      Nat.one_pos
  have found : (a.search " Gone ").1 = .ok [] := by
    rw [(lenient.search " Gone ").1, outdated.remembered, if_pos rfl, (source .skip).resolve_eq,
      resolved]
    rfl
  -- The others ask without them, which is not remembered.
  have recent : a.recent = (Recent.empty 1).put " Gone " [] := by
    show ((Adapter.opened store index .skip 1).search " Gone ").2.recent = _
    rw [Adapter.search_eq, resolved]
    rfl
  have failed : (a.search (trimmed " Gone ")).1 = .error (.danglingReference "/gone/") := by
    have current : ¬ a.Outdated (trimmed " Gone ") := fun outdated => by
      have remembered := outdated.remembered
      rw [recent] at remembered
      exact absurd remembered (by decide)
    have strict : a.resolve " Gone " = .error (.danglingReference "/gone/") :=
      ((source .fail).resolve_eq " Gone ").trans (resolved .fail)
    rw [lenient.search_of_not_outdated current, trimmed, Adapter.resolve_trim, strict]
    rfl
  have suggests : suggest = .error (.failed (.danglingReference "/gone/")) :=
    runSuggest_of_danglingReference asked failed
  refine ⟨enough, ?_, suggests, runVisit_of_error asked failed, fun agree => ?_⟩
  · show ((runSearch " Gone " 10).run a).1 = _
    rw [runSearch_fst (by decide), found]
    exact congrArg Except.ok (ofMatches_nil _ _)
  · rw [suggests] at agree
    cases (agree.nothing found).2

end Command
end PageSearch
