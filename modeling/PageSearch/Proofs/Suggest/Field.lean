import Mathlib.Data.List.Induction
import Mathlib.Tactic.Lemma
import PageSearch.Proofs.Suggest.Dropdown

/-!
# A field over time

What is done with a field is a list of inputs and selections in any order. The provider answers each
query as it likes, and is asked only for inputs that are long enough. After an input the dropdown
depends on that input alone: nothing is left of what an earlier query showed.

A selection leads somewhere only if a suggestion with a url is shown at its position, and then it
closes the dropdown. So between two navigations something is typed, and every url that is visited
was shown for the last thing that was typed.
-/

namespace PageSearch

/-- Something that is done with a field. -/
inductive Action where
  | input (typed : String)
  | select (position : Nat)

/-- What the provider is asked for an action, if it is asked at all. -/
def Action.question? (settings : Settings) : Action → Option String
  | input typed =>
    if (trimmed typed).toList.length < settings.minLength then none else some (trimmed typed)
  | select _ => none

/-- A field whose navigations are recorded, and the queries that its provider was asked, oldest
first. -/
structure SearchField where
  typeahead : Typeahead Visits
  asked : List String

namespace SearchField

/-- Asks a provider a query, of which a note is made. -/
def consult (provider : String → Response) (query : String) : StateM (List String) Response :=
  fun asked => (provider query, asked ++ [query])

def new (settings : Settings) : SearchField :=
  ⟨.new settings ⟨[]⟩, []⟩

/-- What the dropdown shows. -/
def dropdown (f : SearchField) : Dropdown :=
  f.typeahead.dropdown

/-- The urls that have been visited, oldest first. -/
def visited (f : SearchField) : List String :=
  f.typeahead.navigator.urls

/-- Types into the field. -/
def input (provider : String → Response) (f : SearchField) (typed : String) :
    Except SearchError Dropdown × SearchField :=
  match (f.typeahead.input (consult provider) typed).run f.asked with
  | ((result, typeahead), asked) => (result, ⟨typeahead, asked⟩)

/-- Selects the suggestion at a position, and tells whether that led anywhere. -/
def select (f : SearchField) (position : Nat) : Bool × SearchField :=
  match f.typeahead.select position with
  | (led, typeahead) => (led, { f with typeahead })

/-- The field after something has been done with it. -/
def act (provider : String → Response) (f : SearchField) : Action → SearchField
  | .input typed => (f.input provider typed).2
  | .select position => (f.select position).2

/-- A new field after some actions. -/
def after (settings : Settings) (provider : String → Response) (actions : List Action) :
    SearchField :=
  actions.foldl (act provider) (new settings)

section input

variable {provider : String → Response} {f : SearchField} {typed : String}

/-- A query that is too short closes the dropdown, and nothing is asked. -/
lemma input_of_short (short : f.typeahead.settings.tooShort (trimmed typed).toList = true) :
    f.input provider typed =
      (.ok .hidden, { f with typeahead := { f.typeahead with dropdown := .hidden } }) := by
  rw [input, Typeahead.input_of_short _ short]
  rfl

/-- Any other query is asked, and the response to it taken in. -/
lemma input_of_asked (asked : f.typeahead.settings.tooShort (trimmed typed).toList = false) :
    f.input provider typed =
      ((f.typeahead.receive (provider (trimmed typed))).1,
        ⟨(f.typeahead.receive (provider (trimmed typed))).2, f.asked ++ [trimmed typed]⟩) := by
  rw [input, Typeahead.input_of_asked _ asked]
  rfl

/-- An input leaves the settings and the navigations as they are, and asks its question. -/
lemma input_frame (provider : String → Response) (f : SearchField) (typed : String) :
    (f.input provider typed).2.typeahead.settings = f.typeahead.settings ∧
      (f.input provider typed).2.visited = f.visited ∧
      (f.input provider typed).2.asked =
        f.asked ++ ((Action.input typed).question? f.typeahead.settings).toList := by
  cases short : f.typeahead.settings.tooShort (trimmed typed).toList with
  | true =>
    have less := Settings.tooShort_iff.mp short
    rw [input_of_short short]
    simp [Action.question?, less, visited]
  | false =>
    have enough := Settings.tooShort_eq_false_iff.mp short
    rw [input_of_asked short, Typeahead.receive]
    cases (provider (trimmed typed)).outcome <;>
      simp [Action.question?, Nat.not_lt.mpr enough, visited]

end input

/-- What typing into a field does. -/
structure Typed (settings : Settings) (provider : String → Response) (f : SearchField)
    (typed : String) (result : Except SearchError Dropdown) (f' : SearchField) : Prop where
  /-- A query that is too short closes the dropdown. -/
  short : (trimmed typed).toList.length < settings.minLength →
    result = .ok .hidden ∧ f'.dropdown = .hidden
  /-- An error of the provider closes the dropdown, whatever was given before it. -/
  failed : settings.minLength ≤ (trimmed typed).toList.length →
    ∀ e, (provider (trimmed typed)).ending = .error e →
      result = .error e ∧ f'.dropdown = .hidden
  /-- The dropdown says that nothing was found if the last list that was given is empty, or if none
  was given. -/
  nothing : settings.minLength ≤ (trimmed typed).toList.length →
    (provider (trimmed typed)).ending = .ok () →
      (∀ results, (provider (trimmed typed)).given.getLast? = some results → results = []) →
        result = .ok .noMatches ∧ f'.dropdown = .noMatches
  /-- Otherwise the dropdown shows the first suggestions of the last list, in order. -/
  found : settings.minLength ≤ (trimmed typed).toList.length →
    (provider (trimmed typed)).ending = .ok () →
      ∀ results, (provider (trimmed typed)).given.getLast? = some results → results ≠ [] →
        result = .ok (.suggestions (results.take settings.limit)) ∧
          f'.dropdown = .suggestions (results.take settings.limit)
  /-- Nothing is visited. -/
  visited : f'.visited = f.visited

/-- A typed text does what is said of it. -/
lemma typed_input (provider : String → Response) (f : SearchField) (typed : String) :
    Typed f.typeahead.settings provider f typed (f.input provider typed).1
      (f.input provider typed).2 := by
  constructor
  case short =>
    intro short
    rw [input_of_short (Settings.tooShort_iff.mpr short)]
    exact ⟨rfl, rfl⟩
  case failed =>
    intro enough e error
    have asked := Settings.tooShort_eq_false_iff.mpr enough
    rw [input_of_asked asked, Typeahead.receive, Response.outcome_of_error error]
    exact ⟨rfl, rfl⟩
  case nothing =>
    intro enough ok none
    have asked := Settings.tooShort_eq_false_iff.mpr enough
    have empty : (provider (trimmed typed)).given.getLast?.getD [] = [] := by
      cases last : (provider (trimmed typed)).given.getLast? with
      | none => rfl
      | some results => exact none results last
    rw [input_of_asked asked, Typeahead.receive, Response.outcome_of_ok ok, empty]
    exact ⟨rfl, rfl⟩
  case found =>
    intro enough ok results last some
    have asked := Settings.tooShort_eq_false_iff.mpr enough
    have shown : Dropdown.ofResults results f.typeahead.settings.limit =
        .suggestions (results.take f.typeahead.settings.limit) := by
      simp [Dropdown.ofResults, some]
    rw [input_of_asked asked, Typeahead.receive, Response.outcome_of_ok ok, last, ← shown]
    exact ⟨rfl, rfl⟩
  case visited => exact (input_frame provider f typed).2.1

/-- The field after a url has been visited. -/
def visiting (f : SearchField) (url : String) : SearchField :=
  { f with
    typeahead := { f.typeahead with navigator := ⟨f.visited ++ [url]⟩, dropdown := .hidden } }

/-- A selection visits the url of the suggestion that is shown at its position, or it changes
nothing because there is no url there. -/
lemma select_cases (f : SearchField) (position : Nat) :
    (∃ s, f.dropdown.Shows position s ∧ s.url ≠ "" ∧
        f.select position = (true, f.visiting s.url)) ∨
      (∀ s, f.dropdown.Shows position s → s.url = "") ∧
        f.select position = (false, f) := by
  simp only [Dropdown.shows_iff]
  cases shown : f.dropdown.shown[position]? with
  | none =>
    refine .inr ⟨by simp, ?_⟩
    rw [select, Typeahead.select_of_not_shown shown]
  | some s =>
    -- A suggestion without a url is shown, but it leads nowhere.
    by_cases url : s.url = ""
    · refine .inr ⟨by simp [url], ?_⟩
      rw [select, Typeahead.select_of_no_url]
      intro s' shown'
      rw [dropdown] at shown
      rw [shown] at shown'
      cases shown'
      exact url
    · refine .inl ⟨s, rfl, url, ?_⟩
      rw [select, Typeahead.select_of_shown shown url]
      rfl

/-- What a selection does to a field. -/
structure Selected (f : SearchField) (position : Nat) (led : Bool) (f' : SearchField) : Prop where
  /-- A selection leads somewhere if the dropdown has a suggestion with a url at its position, and
  only then. -/
  led_iff : led = true ↔ ∃ s, f.dropdown.Shows position s ∧ s.url ≠ ""
  /-- It visits that url, closes the dropdown, and changes nothing else. -/
  visiting : led = true → ∀ s, f.dropdown.Shows position s → f' = f.visiting s.url
  /-- A selection that leads nowhere changes nothing. -/
  still : led = false → f' = f

/-- So does a selection. -/
lemma selected_select (f : SearchField) (position : Nat) :
    Selected f position (f.select position).1 (f.select position).2 := by
  cases select_cases f position with
  | inl leads =>
    obtain ⟨s, shows, url, eq⟩ := leads
    rw [eq]
    refine ⟨⟨fun _ => ⟨s, shows, url⟩, fun _ => rfl⟩, ?_, nofun⟩
    intro _ s' shows'
    -- A position has one suggestion.
    have same := (Dropdown.shows_iff.mp shows).symm.trans (Dropdown.shows_iff.mp shows')
    cases same
    rfl
  | inr still =>
    obtain ⟨none, eq⟩ := still
    rw [eq]
    refine ⟨⟨nofun, ?_⟩, nofun, fun _ => rfl⟩
    intro h
    obtain ⟨s, shows, url⟩ := h
    exact absurd (none s shows) url

section after

variable {settings : Settings} {provider : String → Response} {actions : List Action}

/-- The last action comes after the others. -/
lemma after_concat (a : Action) :
    after settings provider (actions ++ [a]) =
      act provider (after settings provider actions) a := by
  simp [after]

/-- A selection changes neither the settings nor what has been asked. -/
lemma select_frame (f : SearchField) (position : Nat) :
    (f.select position).2.typeahead.settings = f.typeahead.settings ∧
      (f.select position).2.asked = f.asked := by
  obtain ⟨s, -, -, eq⟩ | ⟨-, eq⟩ := select_cases f position
  · rw [eq]
    exact ⟨rfl, rfl⟩
  · rw [eq]
    exact ⟨rfl, rfl⟩

/-- An action keeps the settings, and asks at most its own question. -/
lemma act_frame (provider : String → Response) (f : SearchField) (a : Action) :
    (act provider f a).typeahead.settings = f.typeahead.settings ∧
      (act provider f a).asked = f.asked ++ (a.question? f.typeahead.settings).toList := by
  cases a with
  | input typed =>
    obtain ⟨same, -, asked⟩ := input_frame provider f typed
    exact ⟨same, asked⟩
  | select position =>
    obtain ⟨same, asked⟩ := select_frame f position
    exact ⟨same, by simpa [act, Action.question?] using asked⟩

/-- The settings stay, and the questions of the actions are asked in their order. -/
lemma frame_after (settings : Settings) (provider : String → Response) (actions : List Action) :
    (after settings provider actions).typeahead.settings = settings ∧
      (after settings provider actions).asked =
        actions.filterMap (Action.question? settings) := by
  induction actions using List.reverseRecOn with
  | nil => exact ⟨rfl, rfl⟩
  | append_singleton actions a ih =>
    obtain ⟨same, asked⟩ := act_frame provider (after settings provider actions) a
    rw [ih.1] at same asked
    rw [after_concat]
    refine ⟨same, ?_⟩
    rw [asked, ih.2, List.filterMap_append]
    cases question : a.question? settings <;> simp [question]

/-- Where nothing is shown, selections change nothing, however many there are. -/
lemma foldl_act_of_hidden {f : SearchField} (hidden : f.dropdown = .hidden)
    (selections : ∀ typed, .input typed ∉ actions) : actions.foldl (act provider) f = f := by
  -- A selection from a hidden dropdown changes nothing, so the field need not vary.
  induction actions with
  | nil => rfl
  | cons a rest ih =>
    have still : act provider f a = f := by
      cases a with
      | input typed => exact absurd List.mem_cons_self (selections typed)
      | select position =>
        obtain ⟨s, shows, -, -⟩ | ⟨-, eq⟩ := select_cases f position
        · rw [hidden] at shows
          exact absurd shows Dropdown.not_shows_hidden
        · rw [act, eq]
    rw [List.foldl_cons, still]
    exact ih fun typed mem => selections typed (List.mem_cons_of_mem a mem)

/-- The dropdown is closed, or it is the one that the last input has left. -/
lemma dropdown_after (settings : Settings) (provider : String → Response) (actions : List Action) :
    (after settings provider actions).dropdown = .hidden ∨
      ∃ earlier typed later, actions = earlier ++ .input typed :: later ∧
        (∀ typed', .input typed' ∉ later) ∧
        (after settings provider actions).dropdown =
          (after settings provider (earlier ++ [.input typed])).dropdown := by
  -- By the last action: an input fills the dropdown, a selection leaves it or closes it.
  induction actions using List.reverseRecOn with
  | nil => exact .inl rfl
  | append_singleton actions a ih =>
    cases a with
    | input typed => exact .inr ⟨actions, typed, [], rfl, by simp, rfl⟩
    | select position =>
      rw [after_concat, act]
      obtain ⟨s, -, -, eq⟩ | ⟨-, eq⟩ := select_cases (after settings provider actions) position
      · rw [eq]
        exact .inl rfl
      · rw [eq]
        refine ih.imp_right ?_
        intro h
        obtain ⟨earlier, typed, later, rfl, selections, same⟩ := h
        exact ⟨earlier, typed, later ++ [.select position], by simp, by simpa using selections,
          same⟩

end after

/-- After some actions the selection of a position leads to a suggestion, which the last input
before it has put there. -/
structure LeadsTo (settings : Settings) (provider : String → Response) (before : List Action)
    (position : Nat) (s : Suggestion) : Prop where
  led : ((after settings provider before).select position).1 = true
  shows : (after settings provider before).dropdown.Shows position s
  last : ∃ earlier typed later, before = earlier ++ .input typed :: later ∧
    (∀ typed', .input typed' ∉ later) ∧
    (after settings provider (earlier ++ [.input typed])).dropdown.Shows position s

/-- What is true of a field after some actions, for all that may be done with it next and for all
that has been done. -/
structure Behaves (settings : Settings) (provider : String → Response) (actions : List Action) :
    Prop where
  /-- The query of an input is what is typed without the blanks at its ends. -/
  query : ∀ typed, Text.Trims typed.toList (trimmed typed).toList
  /-- The provider has been asked the query of each input that is long enough, and nothing else. -/
  asked : (after settings provider actions).asked = actions.filterMap (Action.question? settings)
  typed : ∀ typed, Typed settings provider (after settings provider actions) typed
    ((after settings provider actions).input provider typed).1
    ((after settings provider actions).input provider typed).2
  selected : ∀ position, Selected (after settings provider actions) position
    ((after settings provider actions).select position).1
    ((after settings provider actions).select position).2
  /-- Something is typed between two selections that lead somewhere. -/
  separated : ∀ before i mid j rest,
    actions = before ++ .select i :: (mid ++ .select j :: rest) →
    ((after settings provider before).select i).1 = true →
    ((after settings provider (before ++ .select i :: mid)).select j).1 = true →
    ∃ typed, .input typed ∈ mid
  /-- Every url that has been visited is that of a suggestion which a selection led to. -/
  visited : ∀ (k : Nat) url, (after settings provider actions).visited[k]? = some url →
    ∃ before i rest s, actions = before ++ .select i :: rest ∧
      (after settings provider before).visited.length = k ∧
      LeadsTo settings provider before i s ∧ s.url = url

section behaves

variable {settings : Settings} {provider : String → Response} {actions : List Action}

/-- A suggestion with a url can be selected, and was shown for the last input. -/
lemma leadsTo_of_shows {position : Nat} {s : Suggestion}
    (shows : (after settings provider actions).dropdown.Shows position s)
    (url : s.url ≠ "") : LeadsTo settings provider actions position s := by
  constructor
  case led => exact (selected_select _ position).led_iff.mpr ⟨s, shows, url⟩
  case shows => exact shows
  case last =>
    cases dropdown_after settings provider actions with
    | inl hidden =>
      rw [hidden] at shows
      exact absurd shows Dropdown.not_shows_hidden
    | inr last =>
      obtain ⟨earlier, typed, later, eq, selections, same⟩ := last
      exact ⟨earlier, typed, later, eq, selections, same ▸ shows⟩

/-- A selection that leads somewhere leaves nothing to select until something is typed. -/
lemma exists_input_between {before mid : List Action} {i j : Nat}
    (led : ((after settings provider before).select i).1 = true)
    (led' : ((after settings provider (before ++ .select i :: mid)).select j).1 = true) :
    ∃ typed, .input typed ∈ mid := by
  -- The first selection hides the dropdown, and only typing can bring one up again.
  by_contra none
  have selections : ∀ typed, .input typed ∉ mid := fun typed mem => none ⟨typed, mem⟩
  have hidden : ((after settings provider before).select i).2.dropdown = .hidden := by
    obtain ⟨s, -, -, eq⟩ | ⟨-, eq⟩ := select_cases (after settings provider before) i
    · rw [eq]
      rfl
    · rw [eq] at led
      cases led
  have still : after settings provider (before ++ .select i :: mid) =
      ((after settings provider before).select i).2 := by
    rw [after, List.foldl_append, List.foldl_cons]
    exact foldl_act_of_hidden hidden selections
  obtain ⟨s, shows, -⟩ := (selected_select _ j).led_iff.mp led'
  rw [still, hidden] at shows
  exact absurd shows Dropdown.not_shows_hidden

/-- Where a visited url came from. -/
lemma exists_of_visited {k : Nat} {url : String}
    (at' : (after settings provider actions).visited[k]? = some url) :
    ∃ before i rest s, actions = before ++ .select i :: rest ∧
      (after settings provider before).visited.length = k ∧
      LeadsTo settings provider before i s ∧ s.url = url := by
  induction actions using List.reverseRecOn with
  | nil => cases at'
  | append_singleton actions a ih =>
    -- What was visited before the last action is known to have come from an earlier one.
    have earlier (old : (after settings provider actions).visited[k]? = some url) :
        ∃ before i rest s, actions ++ [a] = before ++ .select i :: rest ∧
          (after settings provider before).visited.length = k ∧
          LeadsTo settings provider before i s ∧ s.url = url := by
      obtain ⟨before, i, rest, s, eq, length, leads, same⟩ := ih old
      exact ⟨before, i, rest ++ [a], s, by simp [eq], length, leads, same⟩
    rw [after_concat] at at'
    cases a with
    | input typed =>
      rw [act, (input_frame provider _ typed).2.1] at at'
      exact earlier at'
    | select i =>
      rw [act] at at'
      obtain ⟨s, shows, hasUrl, eq⟩ | ⟨-, eq⟩ := select_cases (after settings provider actions) i
      · rw [eq] at at'
        have grown : ((after settings provider actions).visited ++ [s.url])[k]? = some url := at'
        -- The url was visited before, or it is the one that this selection adds.
        by_cases old : k < (after settings provider actions).visited.length
        · rw [List.getElem?_append_left old] at grown
          exact earlier grown
        · have last : (after settings provider actions).visited.length = k := by
            have inside := (List.getElem?_eq_some_iff.mp grown).1
            rw [List.length_append, List.length_singleton] at inside
            omega
          rw [← last, List.getElem?_concat_length] at grown
          exact ⟨actions, i, [], s, rfl, last, leadsTo_of_shows shows hasUrl, Option.some.inj grown⟩
      · rw [eq] at at'
        exact earlier at'

end behaves

/-- A field behaves, whatever its settings are, whatever the provider does and whatever is typed and
selected. -/
theorem behaves_after (settings : Settings) (provider : String → Response)
    (actions : List Action) : Behaves settings provider actions := by
  obtain ⟨same, asked⟩ := frame_after settings provider actions
  constructor
  case query => exact trims_trimmed
  case asked => exact asked
  case typed =>
    intro typed
    have typed := typed_input provider (after settings provider actions) typed
    rw [same] at typed
    exact typed
  case selected => exact selected_select _
  case separated =>
    intro before i mid j rest _ led led'
    exact exists_input_between led led'
  case visited =>
    intro k url at'
    exact exists_of_visited at'

end SearchField
end PageSearch
