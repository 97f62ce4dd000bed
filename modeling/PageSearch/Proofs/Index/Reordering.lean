import Mathlib.Algebra.BigOperators.Group.List.Basic
import PageSearch.Proofs.Index.Ranking

/-!
# What the order of the records decides

The weight of a term in a record depends on the record, and on the other records only through
numbers that their order does not change. So a query gives a record the same score wherever the
record stands, and two indexes of the same records in different orders have the same hits. What the
order of the records decides is the order of hits with equal scores.
-/

namespace PageSearch
namespace Index

/-- The score of a record among others, if it has any of the terms. -/
def scoreAmong (boosts : Boosts) (records : List Record) (terms : List (List Char)) (r : Record) :
    Option Single :=
  let weights := terms.filterMap fun t => weightUnder boosts records (termHash t) r
  if weights = [] then none else some (total weights)

section perm

variable {boosts : Boosts} {records records' : List Record}

/-- The order of the records does not matter for their average length. -/
lemma averageLength_perm {lengths lengths' : List Nat} (perm : lengths.Perm lengths') :
    averageLength lengths = averageLength lengths' := by
  have counted : (lengths.filter (0 < ·)).Perm (lengths'.filter (0 < ·)) := perm.filter _
  have sum := counted.sum_eq
  have length := counted.length_eq
  have empty : (lengths.filter (0 < ·)).isEmpty = (lengths'.filter (0 < ·)).isEmpty := by
    rw [Bool.eq_iff_iff, List.isEmpty_iff_length_eq_zero, List.isEmpty_iff_length_eq_zero, length]
  simp only [averageLength, ← List.sum_eq_foldl, sum, length, empty]

/-- It does not matter for the weight of a record under a hash. -/
lemma weightUnder_perm (perm : records.Perm records') :
    weightUnder boosts records = weightUnder boosts records' := by
  funext hash r
  have average := averageLength_perm (perm.map fun r => (Tally.of boosts r).length)
  have holders : holderCount boosts records hash = holderCount boosts records' hash :=
    perm.countP_eq _
  rw [weightUnder, weightUnder, average, perm.length_eq, holders]

/-- So it does not for the score of a record. -/
lemma scoreAmong_perm (perm : records.Perm records') (terms : List (List Char)) :
    scoreAmong boosts records terms = scoreAmong boosts records' terms := by
  funext r
  rw [scoreAmong, scoreAmong, weightUnder_perm perm]

end perm

section build

variable {boosts : Boosts} {records : List Record} {terms : List (List Char)}

/-- The weight of a document for a term is that of its record. -/
lemma weight?_build (le : records.length ≤ mostDocuments) (doc : Nat) (t : List Char) :
    (build boosts records).weight? doc t =
      records[doc]?.bind (weightUnder boosts records (termHash t)) := by
  ext w
  rw [weight?_eq_some_iff (ascending_build boosts records), getD_postings_build le,
    mem_postingsUnder, Option.bind_eq_some_iff]

/-- The score of a document is that of its record. -/
lemma score?_build (le : records.length ≤ mostDocuments) (doc : Nat) :
    (build boosts records).score? terms doc =
      records[doc]?.bind (scoreAmong boosts records terms) := by
  simp only [score?, weight?_build le]
  cases records[doc]? with
  | none => simp
  | some r => rfl

/-- The ranked documents are the records that have a score, and have that score. -/
lemma mem_rankingBy_build (le : records.length ≤ mostDocuments) {d : Nat × Single} :
    d ∈ (build boosts records).rankingBy terms ↔
      ∃ r, records[d.1]? = some r ∧ scoreAmong boosts records terms r = some d.2 := by
  rw [mem_rankingBy_iff (ascending_build boosts records), score?_build le, Option.bind_eq_some_iff]

/-- The documents with one score are ranked in the order of their numbers. -/
lemma filter_rankingBy_build (le : records.length ≤ mostDocuments) (s : Single) :
    ((build boosts records).rankingBy terms).filter (·.2 = s) =
      (records.zipIdx.filter fun e => scoreAmong boosts records terms e.1 = some s).map
        fun e => (e.2, s) := by
  -- Both lists ascend, so it is enough that they have the same members.
  apply eq_of_ascending Prod.fst
  · refine ((pairwise_rankingBy _ _).filter _).imp_of_mem ?_
    intro a b memA memB before
    have scoreA : a.2 = s := of_decide_eq_true (List.mem_filter.mp memA).2
    have scoreB : b.2 = s := of_decide_eq_true (List.mem_filter.mp memB).2
    cases before with
    | inl higher =>
      rw [scoreA, scoreB] at higher
      exact absurd higher (Int.lt_irrefl _)
    | inr equal => exact equal.2
  · exact List.pairwise_map.mpr ((pairwise_zipIdx records).filter _)
  · intro d
    obtain ⟨doc, score⟩ := d
    simp only [List.mem_filter, decide_eq_true_eq, mem_rankingBy_build le, List.mem_map,
      Prod.exists, List.mem_zipIdx_iff_getElem?, Prod.mk.injEq]
    constructor
    · intro h
      obtain ⟨⟨r, at', scored⟩, rfl⟩ := h
      exact ⟨r, doc, ⟨at', scored⟩, rfl, rfl⟩
    · intro h
      obtain ⟨r, doc', ⟨at', scored⟩, rfl, rfl⟩ := h
      exact ⟨⟨r, at', scored⟩, rfl⟩

end build

section hits

variable {index : Index} {ranked : List (Nat × Single)} {hits : List Hit}

/-- A hit has the reference of its document and the score. -/
lemma hits_eq_of_hitsOf (ok : index.hitsOf ranked = .ok hits) :
    hits = ranked.filterMap fun d => (index.refs[d.1]?).map (Hit.mk · d.2) := by
  have matched := hitsOf_eq_ok_iff.mp ok
  clear ok
  induction matched with
  | nil => rfl
  | @cons d hit ranked hits first _ ih =>
    obtain ⟨held, score⟩ := first
    obtain ⟨reference, score'⟩ := hit
    simp only at score held
    rw [List.filterMap_cons, held, score, ih]
    rfl

/-- The hits with one score are those of the documents with that score. -/
lemma filter_hits (ok : index.hitsOf ranked = .ok hits) (s : Single) :
    hits.filter (·.score = s) =
      (ranked.filter (·.2 = s)).filterMap fun d => (index.refs[d.1]?).map (Hit.mk · d.2) := by
  rw [hits_eq_of_hitsOf ok, List.filter_filterMap, List.filterMap_filter]
  congr
  funext d
  cases index.refs[d.1]? with
  | none => simp
  | some reference => by_cases own : d.2 = s <;> simp [own]

/-- Hits go from high scores to low ones. -/
lemma pairwise_hits {terms : List (List Char)}
    (ok : index.hitsOf (index.rankingBy terms) = .ok hits) :
    hits.Pairwise fun a b => b.score.rank ≤ a.score.rank := by
  rw [hits_eq_of_hitsOf ok, List.pairwise_filterMap]
  refine (pairwise_rankingBy index terms).imp ?_
  intro a b before hit eq hit' eq'
  obtain ⟨-, -, rfl⟩ := Option.map_eq_some_iff.mp eq
  obtain ⟨-, -, rfl⟩ := Option.map_eq_some_iff.mp eq'
  cases before with
  | inl higher => exact Int.le_of_lt higher
  | inr equal => exact Int.le_of_eq (congrArg Single.rank equal.1.symm)

/-- Of two hits with different scores the one with the higher score comes first. -/
lemma pair_sublist_iff {a b : Hit} (sorted : hits.Pairwise fun a b => b.score.rank ≤ a.score.rank)
    (other : a.score ≠ b.score) :
    [a, b].Sublist hits ↔ a ∈ hits ∧ b ∈ hits ∧ b.score.rank < a.score.rank := by
  constructor
  · intro sub
    have le : b.score.rank ≤ a.score.rank := by simpa using sorted.sublist sub
    have ne : b.score.rank ≠ a.score.rank := fun eq => other (Single.rank_injective eq.symm)
    exact ⟨sub.subset (by simp), sub.subset (by simp), by omega⟩
  · intro h
    obtain ⟨memA, memB, lt⟩ := h
    obtain ⟨before, after, rfl⟩ := List.append_of_mem memA
    -- `b` cannot stand before `a`, where no lower score does.
    have later : b ∈ after := by
      rcases List.mem_append.mp memB with earlier | rest
      · have le := (List.pairwise_append.mp sorted).2.2 b earlier a List.mem_cons_self
        omega
      · cases rest with
        | head => exact absurd lt (Int.lt_irrefl _)
        | tail _ later => exact later
    have pair : [a, b].Sublist (a :: after) := .cons_cons a (List.singleton_sublist.mpr later)
    exact pair.trans (List.sublist_append_right before _)

end hits

/-- Each record has its score, and records with equal scores are hit in their order. -/
def InTurn (score? : Record → Option Single) (records : List Record) (hits : List Hit) : Prop :=
  ∀ s, hits.filter (·.score = s) =
    (records.filter (score? · = some s)).map fun r => ⟨r.url, s⟩

/-- The hits of a built index come in turn by the scores of their records. -/
lemma inTurn_build {boosts : Boosts} {records : List Record} {terms : List (List Char)}
    {hits : List Hit} (le : records.length ≤ mostDocuments)
    (ok : (build boosts records).hitsOf ((build boosts records).rankingBy terms) = .ok hits) :
    InTurn (scoreAmong boosts records terms) records hits := by
  intro s
  have fst : records.zipIdx.map Prod.fst = records := List.zipIdx_map_fst 0 records
  rw [filter_hits ok, filter_rankingBy_build le, refs_build le, List.filterMap_map]
  calc
    _ = (records.zipIdx.filter fun e => scoreAmong boosts records terms e.1 = some s).filterMap
          (some ∘ fun e => ⟨e.1.url, s⟩) := by
      apply List.filterMap_congr
      intro e mem
      have at' : records[e.2]? = some e.1 :=
        List.mem_zipIdx_iff_getElem?.mp (List.mem_filter.mp mem).1
      simp [at']
    _ = ((records.zipIdx.map Prod.fst).filter fun r =>
          scoreAmong boosts records terms r = some s).map fun r => ⟨r.url, s⟩ := by
      rw [List.filterMap_eq_map, List.filter_map, List.map_map]
      rfl
    _ = _ := by rw [fst]

/-- Hits have the same multiset if the records are the same up to their order. -/
lemma InTurn.perm {score? : Record → Option Single} {records records' : List Record}
    {hits hits' : List Hit} (turn : InTurn score? records hits)
    (turn' : InTurn score? records' hits') (perm : records.Perm records') : hits.Perm hits' := by
  rw [List.perm_iff_count]
  intro hit
  -- A hit occurs as often as among those with its own score.
  have own (hits : List Hit) : hits.count hit = (hits.filter (·.score = hit.score)).count hit :=
    (List.count_filter (by simp)).symm
  rw [own hits, own hits', turn, turn']
  exact ((perm.filter _).map _).count_eq hit

/-- Hits on the same records in two orders differ in nothing but the order of equal scores. -/
structure SameButTies (records records' : List Record) (hits hits' : List Hit) : Prop where
  /-- They are the same hits. -/
  perm : hits.Perm hits'
  /-- Two of them with different scores come in the same order. -/
  ordered : ∀ a b : Hit, a.score ≠ b.score → ([a, b].Sublist hits ↔ [a, b].Sublist hits')
  /-- Those with equal scores come in the order of the records, which have the same scores. -/
  ties : ∃ score? : Record → Option Single,
    InTurn score? records hits ∧ InTurn score? records' hits'

/-- Indexes of the same records in two orders have hits that are the same but for ties, whatever
order a search goes through terms in. -/
theorem sameButTies_build (order : TermOrder) (boosts : Boosts) {records records' : List Record}
    (perm : records.Perm records') (le : records.length ≤ mostDocuments) (query : String) :
    ∃ hits hits', (build boosts records).searchIn order query = .ok hits ∧
      (build boosts records').searchIn order query = .ok hits' ∧
      SameButTies records records' hits hits' := by
  have le' : records'.length ≤ mostDocuments := by rwa [← perm.length_eq]
  obtain ⟨hits, ok⟩ := exists_searchIn_build order boosts records query
  obtain ⟨hits', ok'⟩ := exists_searchIn_build order boosts records' query
  have turn := inTurn_build le ok
  have turn' := inTurn_build le' ok'
  rw [← scoreAmong_perm perm] at turn'
  refine ⟨hits, hits', ok, ok', turn.perm turn' perm, ?_, _, turn, turn'⟩
  intro a b other
  rw [pair_sublist_iff (pairwise_hits ok) other, pair_sublist_iff (pairwise_hits ok') other,
    (turn.perm turn' perm).mem_iff, (turn.perm turn' perm).mem_iff]

/-- So they have where two pages have the same words and one of these shares its url with a third
one, and the order of the three is turned round. -/
theorem sameButTies_build_reverse :
    let records : List Record := [⟨"Install", "<p>Run it</p>", "/install/"⟩,
      ⟨"Install", "<p>Run it</p>", "/setup/"⟩, ⟨"Run", "<p>Install first</p>", "/install/"⟩]
    records.Perm records.reverse ∧ records.length ≤ mostDocuments ∧
      ∃ hits hits', (build .default records).search "run install" = .ok hits ∧
        (build .default records.reverse).search "run install" = .ok hits' ∧
        SameButTies records records.reverse hits hits' := by
  intro records
  have perm : records.Perm records.reverse := (List.reverse_perm records).symm
  exact ⟨perm, by decide, sameButTies_build .sorted .default perm (by decide) "run install"⟩

end Index
end PageSearch
