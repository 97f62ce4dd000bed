import Mathlib.Tactic.Lemma
import PageSearch.Proofs.Text.Runs
import PageSearch.Suggest.Session

/-!
# What is shown for a response

A typeahead and a session make the same dropdown of a response: the first results up to the limit.
A typeahead then leads to a suggestion that is shown and has a url, and to nothing else.
-/

namespace PageSearch

/-- The query of a typed text is the text without the blanks at its ends. -/
lemma trims_trimmed (typed : String) : Text.Trims typed.toList (trimmed typed).toList := by
  rw [trimmed, String.toList_ofList]
  exact Text.trims_trim _

namespace Settings

variable {s : Settings} {query : List Char}

/-- Too short is what has less than the least number of characters. -/
lemma tooShort_iff : s.tooShort query = true ↔ query.length < s.minLength := by
  simp [tooShort]

/-- What has the least number of characters is not too short. -/
lemma tooShort_eq_false_iff : s.tooShort query = false ↔ s.minLength ≤ query.length := by
  simp [tooShort]

end Settings

namespace Dropdown

/-- A dropdown is open and has a suggestion at a position. -/
def Shows (d : Dropdown) (position : Nat) (s : Suggestion) : Prop :=
  ∃ listed, d = .suggestions listed ∧ listed[position]? = some s

/-- What is shown is what a selection looks at. -/
lemma shows_iff {d : Dropdown} {position : Nat} {s : Suggestion} :
    d.Shows position s ↔ d.shown[position]? = some s := by
  cases d with
  | hidden => simp [Shows, shown]
  | noMatches => simp [Shows, shown]
  | suggestions listed => simp [Shows, shown]

/-- A hidden dropdown shows nothing. -/
lemma not_shows_hidden {position : Nat} {s : Suggestion} : ¬ hidden.Shows position s := by
  rintro ⟨listed, eq, -⟩
  cases eq

/-- Of some results the first ones are shown, up to the limit. -/
lemma shown_ofResults (results : List Suggestion) (limit : Nat) :
    (ofResults results limit).shown = results.take limit := by
  unfold ofResults
  split
  · rename_i none
    simp [shown, List.isEmpty_iff.mp none]
  · rfl

end Dropdown

namespace Response

variable {r : Response}

/-- A search that ends in an error has it as its outcome. -/
lemma outcome_of_error {e : SearchError} (error : r.ending = .error e) : r.outcome = .error e := by
  rw [outcome, error]
  rfl

/-- Otherwise the last list that was given counts, or an empty one. -/
lemma outcome_of_ok (ok : r.ending = .ok ()) : r.outcome = .ok (r.given.getLast?.getD []) := by
  rw [outcome, ok]
  rfl

end Response

namespace Typeahead

variable {N : Type} [Navigator N] {t : Typeahead N} {i : Nat}

/-- Selecting a suggestion that is shown and has a url visits the url and closes the dropdown. -/
lemma select_of_shown {s : Suggestion} (shown : t.dropdown.shown[i]? = some s)
    (url : s.url ≠ "") :
    t.select i =
      (true,
        { t with navigator := Navigator.navigate t.navigator s.url, dropdown := .hidden }) := by
  simp [select, PageSearch.select, shown, url]

/-- Where no suggestion with a url is shown, selecting changes nothing. -/
lemma select_of_no_url (none : ∀ s, t.dropdown.shown[i]? = some s → s.url = "") :
    t.select i = (false, t) := by
  cases shown : t.dropdown.shown[i]? with
  | none => simp [select, PageSearch.select, shown]
  | some s => simp [select, PageSearch.select, shown, none s shown]

/-- To select what is not shown changes nothing. -/
lemma select_of_not_shown (none : t.dropdown.shown[i]? = none) : t.select i = (false, t) :=
  select_of_no_url (by simp [none])

section input

variable {m : Type → Type} [Monad m] {N : Type} {t : Typeahead N} {typed : String}

/-- A text that is too short hides the dropdown and asks nobody. -/
lemma input_of_short (ask : String → m Response)
    (short : t.settings.tooShort (trimmed typed).toList = true) :
    t.input ask typed = pure (.ok .hidden, { t with dropdown := .hidden }) := by
  simp only [input, short]
  rfl

/-- Any other is trimmed and asked for, and its answer received. -/
lemma input_of_asked (ask : String → m Response)
    (asked : t.settings.tooShort (trimmed typed).toList = false) :
    t.input ask typed = ask (trimmed typed) >>= fun r => pure (t.receive r) := by
  simp only [input, asked]
  rfl

end input

end Typeahead

namespace Session

section query

variable {m : Type → Type} [Monad m] {s : Session} {typed : String}

/-- For a text that is too short, a query settles at once. -/
lemma query_of_short (ask : String → m Response)
    (short : s.settings.tooShort (trimmed typed).toList = true) :
    s.query ask typed = pure (.ok (s.begin.2.settleShort s.begin.1), s.begin.2) := by
  have question : (s.start typed).1.query = none := if_pos short
  simp only [query, question]
  rfl

/-- Any other is asked for under the ticket that was taken before. -/
lemma query_of_asked (ask : String → m Response)
    (asked : s.settings.tooShort (trimmed typed).toList = false) :
    s.query ask typed =
      ask (trimmed typed) >>= fun r => pure (s.begin.2.settle s.begin.1 r, s.begin.2) := by
  have question : (s.start typed).1.query = some (trimmed typed) :=
    if_neg (ne_true_of_eq_false asked)
  simp only [query, question]
  rfl

end query

/-- A ticket is current when it is taken. -/
lemma isCurrent_begin (s : Session) : s.begin.2.isCurrent s.begin.1 = true := by
  simp [begin, isCurrent]

/-- A provider that breaks down is reported as a task that failed, current ticket or not. -/
lemma settle_of_brokenDown {s : Session} {t : Ticket} {r : Response}
    (broken : r.ending = .error .brokenDown) : s.settle t r = .error .taskFailed := by
  simp only [settle, broken]

/-- Any other response counts while its ticket is current, and is dropped afterwards. -/
lemma settle_of_ne_brokenDown {s : Session} {t : Ticket} {r : Response}
    (whole : r.ending ≠ .error .brokenDown) :
    s.settle t r =
      if s.isCurrent t then
        r.outcome.map fun results => some (Dropdown.ofResults results s.settings.limit)
      else .ok none := by
  unfold settle
  split
  · rename_i broken
    exact absurd broken whole
  · rfl

/-- A response gives a dropdown only while its ticket is current, and only if it ends well. The
dropdown is then the one for what the response came to. -/
lemma settle_eq_ok_some_iff {s : Session} {t : Ticket} {r : Response} {d : Dropdown} :
    s.settle t r = .ok (some d) ↔
      s.isCurrent t = true ∧ ∃ results, r.outcome = .ok results ∧
        d = Dropdown.ofResults results s.settings.limit := by
  by_cases broken : r.ending = .error .brokenDown
  · rw [settle_of_brokenDown broken, Response.outcome, broken]
    simp [Except.map]
  · rw [settle_of_ne_brokenDown broken]
    cases s.isCurrent t with
    | false => simp
    | true => cases r.outcome <;> simp [Except.map, eq_comm]

/-- A response is dropped only after its ticket has been superseded. -/
lemma isCurrent_of_settle_eq_ok_none {s : Session} {t : Ticket} {r : Response}
    (dropped : s.settle t r = .ok none) : s.isCurrent t = false := by
  by_cases broken : r.ending = .error .brokenDown
  · rw [settle_of_brokenDown broken] at dropped
    cases dropped
  · rw [settle_of_ne_brokenDown broken] at dropped
    cases current : s.isCurrent t with
    | false => rfl
    | true =>
      rw [current] at dropped
      cases outcome : r.outcome with
      | ok results =>
        rw [outcome] at dropped
        cases dropped
      | error e =>
        rw [outcome] at dropped
        cases dropped

/-- A query that is too short closes the dropdown while its ticket is current. -/
lemma settleShort_eq_some_iff {s : Session} {t : Ticket} {d : Dropdown} :
    s.settleShort t = some d ↔ s.isCurrent t = true ∧ d = .hidden := by
  cases current : s.isCurrent t with
  | false => simp [settleShort, current]
  | true => simp [settleShort, current, eq_comm]

/-- A short text is dropped only if its ticket is overtaken. -/
lemma isCurrent_of_settleShort_eq_none {s : Session} {t : Ticket}
    (dropped : s.settleShort t = none) : s.isCurrent t = false := by
  cases current : s.isCurrent t with
  | false => rfl
  | true => simp [settleShort, current] at dropped

end Session
end PageSearch
