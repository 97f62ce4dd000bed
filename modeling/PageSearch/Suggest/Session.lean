import PageSearch.Suggest.Typeahead

/-!
# Sessions

In a session suggestions are worked out in the background, so that queries overlap. Every query
takes a ticket, and only the latest ticket is current. When the provider is done, the response to a
query whose ticket is not current any more is dropped, be it suggestions or an error of the search;
a provider that breaks down is reported in any case.

A query is made of steps, between which others may come: it takes a ticket; unless it is too short
the provider works on it; and then it is settled.
-/

namespace PageSearch

/-- The number of a query, in the order in which queries were begun. -/
structure Ticket where
  generation : UInt64
  deriving DecidableEq

/-- The ticket in one word. -/
def Ticket.describe (t : Ticket) : String :=
  "Ticket(" ++ Nat.repr t.generation.toNat ++ ")"

/-- Settings for a field, and the number of the latest query. -/
structure Session where
  settings : Settings
  generation : UInt64

/-- A query under way: its ticket, and what the provider is asked, if it is asked at all. -/
structure Question where
  ticket : Ticket
  query : Option String

namespace Session

def new (settings : Settings) : Session :=
  ⟨settings, 0⟩

/-- Takes a new ticket, after which no earlier one is current. -/
def begin (s : Session) : Ticket × Session :=
  (⟨s.generation + 1⟩, { s with generation := s.generation + 1 })

/-- Whether no later ticket has been taken. -/
def isCurrent (s : Session) (t : Ticket) : Bool :=
  s.generation == t.generation

/-- Begins a query. -/
def start (s : Session) (typed : String) : Question × Session :=
  let query := trimmed typed
  (⟨s.begin.1, if s.settings.tooShort query.toList then none else some query⟩, s.begin.2)

/-- Settles a query that was too short to ask the provider. -/
def settleShort (s : Session) (t : Ticket) : Option Dropdown :=
  if s.isCurrent t then some .hidden else none

/-- Settles a query that the provider has responded to; no dropdown if it has been superseded. -/
def settle (s : Session) (t : Ticket) (r : Response) : Except SearchError (Option Dropdown) :=
  match r.ending with
  | .error .brokenDown => .error .taskFailed
  | _ =>
    if s.isCurrent t then
      r.outcome.map fun results => some (Dropdown.ofResults results s.settings.limit)
    else .ok none

/-- Answers a query that no other overlaps. -/
def query {m : Type → Type} [Monad m] (ask : String → m Response) (s : Session) (typed : String) :
    m (Except SearchError (Option Dropdown) × Session) := do
  let (question, s) := s.start typed
  match question.query with
  | none => return (.ok (s.settleShort question.ticket), s)
  | some query => return (s.settle question.ticket (← ask query), s)

end Session

end PageSearch
