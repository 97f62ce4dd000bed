import PageSearch.Proofs.Adapter.Titles
import PageSearch.Proofs.Command.FrontEnds

/-!
# Where a visit leads

A visit prints one line for the record that is selected. If a base url is configured, the record's
url is joined onto it with one slash between them, unless the url has `://` in it. That is meant to
tell absolute urls, but holds as well of a url of the site that carries another one in its query: it
is printed without the base.
-/

namespace PageSearch

namespace TargetPrinter

variable {base url : String}

/-- A url joined onto a base: the base without the slashes at its end, one slash, and the url
without the slashes at its start. -/
inductive Joined (base url : String) : String → Prop where
  | intro {start rest : List Char} {m n : Nat} {line : String} :
    base.toList = start ++ List.replicate m '/' → start.getLast? ≠ some '/' →
    url.toList = List.replicate n '/' ++ rest → rest.head? ≠ some '/' →
    line.toList = start ++ '/' :: rest → Joined base url line

/-- Slashes are dropped from the beginning, and none is left there. -/
lemma dropSlashes_eq (s : List Char) :
    ∃ n, s = List.replicate n '/' ++ s.dropWhile (· == '/') ∧
      (s.dropWhile (· == '/')).head? ≠ some '/' := by
  refine ⟨(s.takeWhile (· == '/')).length, ?_, ?_⟩
  · have slashes : s.takeWhile (· == '/') = List.replicate (s.takeWhile (· == '/')).length '/' := by
      rw [List.eq_replicate_iff]
      refine ⟨rfl, fun c mem => ?_⟩
      exact beq_iff_eq.mp (List.mem_takeWhile_imp (p := (· == '/')) mem)
    rw [← slashes, List.takeWhile_append_dropWhile]
  · intro first
    have := List.head?_dropWhile_not (· == '/') s
    simp [first] at this

/-- Slashes are dropped from the end, and none is left there. -/
lemma dropSlashesEnd_eq (s : List Char) :
    ∃ n, s = dropSlashesEnd s ++ List.replicate n '/' ∧ (dropSlashesEnd s).getLast? ≠ some '/' := by
  obtain ⟨n, eq, first⟩ := dropSlashes_eq s.reverse
  refine ⟨n, ?_, by rwa [dropSlashesEnd, List.getLast?_reverse]⟩
  rw [← List.reverse_inj, dropSlashesEnd, List.reverse_append, List.reverse_replicate,
    List.reverse_reverse, ← eq]

/-- A url is joined onto the base with one slash between them. -/
lemma joined_join (base url : String) : Joined base url (join base url) := by
  obtain ⟨m, baseEq, last⟩ := dropSlashesEnd_eq base.toList
  obtain ⟨n, urlEq, first⟩ := dropSlashes_eq url.toList
  exact .intro baseEq last urlEq first (by simp [join])

/-- A url counts as absolute if `://` is anywhere in it. -/
lemma hasScheme_iff {s : List Char} : hasScheme s = true ↔ "://".toList <:+: s := by
  induction s with
  | nil => simp [hasScheme]
  | cons c rest ih =>
    rw [hasScheme, Bool.or_eq_true, List.isPrefixOf_iff_prefix, ih, List.infix_cons_iff]

/-- Where a url leads from a base. -/
structure LeadsTo (base url line : String) : Prop where
  joined : ¬ "://".toList <:+: url.toList → Joined base url line
  /-- The `://` may stand after the name of a scheme or anywhere else. -/
  kept : "://".toList <:+: url.toList → line = url

/-- A url is printed as it is or joined onto the base, by that test. -/
lemma leadsTo_resolve {S ε : Type} {p : TargetPrinter S ε} (based : p.base = some base)
    (url : String) : LeadsTo base url (p.resolve url) := by
  simp only [resolve, based]
  constructor
  case joined =>
    intro absent
    rw [if_neg (mt hasScheme_iff.mp absent)]
    exact joined_join base url
  case kept =>
    intro present
    exact if_pos (hasScheme_iff.mpr present)

end TargetPrinter

namespace Command

open TargetPrinter (LeadsTo Joined)

/-- A query is long enough, and a pick, counted from one, selects a record among the matches that
are shown for it. -/
structure Selects (c : Config) (a : Adapter) (query : String) (pick : Nat) (r : Record) : Prop where
  asked : c.settings.tooShort (trimmed query).toList = false
  shown : ∃ found i m, (a.search query).1 = .ok found ∧ pick = i + 1 ∧
    (found.take c.settings.limit)[i]? = some m ∧ m.record = r

/-- A visit prints the line for the url of the selected record. -/
lemma visit_of_selects {c : Config} {a : Adapter} {query : String} {pick : Nat} {r : Record}
    (faithful : a.Faithful) (selects : Selects c a query pick r) :
    ((run c (.visit query pick)).run a).1 = .ok (target c r.url ++ "\n") := by
  obtain ⟨asked, found, i, m, ok, rfl, shown, rfl⟩ := selects
  have urls : ∀ m ∈ found, m.record.url ≠ "" := fun m mem => Adapter.url_ne_of_search ok mem
  -- A visit asks without the blanks around the query.
  have trimmedToo : (a.search (trimmed query)).1 = .ok found := by
    rw [(faithful.search _).1, trimmed, Adapter.resolve_trim, ← (faithful.search query).1, ok]
  show ((runVisit c query (i + 1)).run a).1 = _
  rw [runVisit_of_ok asked trimmedToo urls]
  simp only [shown]

/-- The only record of a store is selected by a query that finds it. -/
lemma selects_only {c : Config} {store : Store} {boosts : Boosts} {policy : DanglingPolicy}
    {capacity : Nat} {earlier : List String} {query : String} {r : Record}
    (only : store.records = [r]) (limit_pos : c.settings.limit ≠ 0)
    (asked : c.settings.tooShort (trimmed query).toList = false)
    (finds : Index.Finds query.toList r) :
    Selects c ((Adapter.opened store (Index.build boosts store.records) policy capacity).after
      earlier) query 1 r := by
  have le : store.records.length ≤ Index.mostDocuments := by
    rw [only]
    show 1 ≤ Index.mostDocuments
    decide
  have faithful :=
    Adapter.faithful_opened store (Index.build boosts store.records) policy capacity
  generalize opened : Adapter.opened store (Index.build boosts store.records) policy capacity = a
    at faithful ⊢
  have sameStore : a.store = store := by rw [← opened]; rfl
  have own : a.index = Index.build boosts a.store.records := by rw [← opened]; rfl
  obtain ⟨found, ok, mem_iff⟩ := Adapter.exists_matches_own own (by rwa [sameStore]) query
  rw [sameStore, only] at mem_iff
  -- There is a match, since the record is found, and every match is of the one record.
  cases found with
  | nil => cases (mem_iff r).mpr ⟨List.mem_cons_self, finds⟩
  | cons m rest =>
    have first : m.record = r :=
      List.mem_singleton.mp ((mem_iff m.record).mp List.mem_cons_self).1
    refine ⟨asked, m :: rest, 0, m, by rw [faithful.search_after, ok], rfl, ?_, first⟩
    rw [List.getElem?_take_of_lt (Nat.pos_of_ne_zero limit_pos)]
    rfl

/-- A visit prints where the url of the selected record leads. A url of the site is joined onto the
base if there is no `://` in it, and a url that begins with a scheme is kept. -/
theorem leadsTo_visit (store : Store) (index : Index) (policy : DanglingPolicy) (capacity : Nat)
    {c : Config} {base : String} (based : c.baseUrl = some base) (earlier : List String)
    {query : String} {pick : Nat} {r : Record}
    (selects :
      Selects c ((Adapter.opened store index policy capacity).after earlier) query pick r) :
    ∃ line,
      ((run c (.visit query pick)).run
        ((Adapter.opened store index policy capacity).after earlier)).1 = .ok (line ++ "\n") ∧
      LeadsTo base r.url line := by
  have faithful := ((Adapter.faithful_opened store index policy capacity).after earlier).1
  exact ⟨target c r.url, visit_of_selects faithful selects,
    TargetPrinter.leadsTo_resolve based r.url⟩

/-- So a visit to a page of the site by its title, after something else was asked for. -/
theorem leadsTo_visit_guide :
    let r : Record := ⟨"Guide", "<p>Read it</p>", "//guide/?from=index#top"⟩
    let store : Store := .ofDistinct [r] (by decide) (by decide)
    let c := { Config.default with baseUrl := some "https://example.org/docs/" }
    let a := (Adapter.opened store (Index.build c.boosts store.records) c.policy c.capacity).after
      ["read", "guide"]
    c.baseUrl = some "https://example.org/docs/" ∧ Selects c a "Guide" 1 r ∧
      ∃ line, ((run c (.visit "Guide" 1)).run a).1 = .ok (line ++ "\n") ∧
        LeadsTo "https://example.org/docs/" r.url line := by
  intro r store c a
  have selects : Selects c a "Guide" 1 r :=
    selects_only rfl (by decide) (by decide)
      (Index.finds_title (r := r) (c := 'G') (by decide) (by decide))
  exact ⟨rfl, selects, leadsTo_visit store _ c.policy c.capacity rfl _ selects⟩

/-- A url of the site that carries another url in its query is printed as it is: it begins with a
slash, and the line is not that url joined onto the base. -/
theorem not_joined_of_other_url :
    let r : Record := ⟨"Leave", "", "/go?to=https://other.org/"⟩
    let store : Store := .ofDistinct [r] (by decide) (by decide)
    let c := { Config.default with baseUrl := some "https://example.org" }
    let a := Adapter.opened store (Index.build c.boosts store.records) c.policy c.capacity
    c.baseUrl = some "https://example.org" ∧ r.url.toList.head? = some '/' ∧
      Selects c a "Leave" 1 r ∧ ((run c (.visit "Leave" 1)).run a).1 = .ok (r.url ++ "\n") ∧
      ¬ ∃ line, ((run c (.visit "Leave" 1)).run a).1 = .ok (line ++ "\n") ∧
        Joined "https://example.org" r.url line := by
  intro r store c a
  have selects : Selects c (a.after []) "Leave" 1 r :=
    selects_only rfl (by decide) (by decide)
      (Index.finds_title (r := r) (c := 'L') (by decide) (by decide))
  have slash : r.url.toList.head? = some '/' := by decide
  have kept : target c r.url = r.url := by decide
  have visited := visit_of_selects (Adapter.faithful_opened store _ c.policy c.capacity) selects
  rw [kept] at visited
  refine ⟨rfl, slash, selects, visited, ?_⟩
  rintro ⟨line, printed, joined⟩
  rw [visited, Except.ok.injEq, String.append_left_inj] at printed
  subst printed
  -- The line would begin as the base does.
  cases joined with
  | @intro start rest m n _ baseEq _ _ _ lineEq =>
    cases start with
    | nil => cases m <;> simp [List.replicate_succ] at baseEq
    | cons c' start =>
      rw [List.cons_append] at baseEq lineEq
      have letter : some 'h' = some c' := congrArg List.head? baseEq
      rw [lineEq, List.head?_cons, ← letter] at slash
      exact absurd slash (by decide)

end Command
end PageSearch
