import PageSearch.Proofs.Index.Search

/-!
# How a search ranks

The score of a document is the sum of its weights under the different terms of the query, zero first
and then one term after the other. A search may go through the terms in any order: the order decides
how the sum is rounded, and nothing else. Hits are in strict order: a higher score goes first, and
of two equal scores that of the lower document. So a search whose order of terms depends on their
set alone has the same hits for every query with these terms.
-/

namespace PageSearch

/-- An order in which a search goes through different terms. -/
structure TermOrder where
  arrange : List (List Char) → List (List Char)
  perm : ∀ terms, (arrange terms).Perm terms

namespace TermOrder

/-- The order depends on the set of the terms alone. -/
def OfSet (order : TermOrder) : Prop :=
  ∀ s t, s.Perm t → order.arrange s = order.arrange t

/-- The order of the characters. -/
def sorted : TermOrder :=
  ⟨fun terms => terms.mergeSort termLE, fun _ => List.mergeSort_perm _ _⟩

end TermOrder

section termLE

variable {s t u : List Char} {c d : Char}

/-- Terms are compared letter by letter. -/
lemma termLE_cons :
    termLE (c :: s) (d :: t) = true ↔ c.toNat < d.toNat ∨ c = d ∧ termLE s t = true := by
  by_cases same : c = d
  · simp [termLE, same]
  · simp [termLE, same]

/-- Of two terms one comes first. -/
lemma termLE_total (s t : List Char) : (termLE s t || termLE t s) = true := by
  induction s generalizing t with
  | nil => rfl
  | cons c s ih =>
    cases t with
    | nil => rfl
    | cons d t =>
      rw [Bool.or_eq_true, termLE_cons, termLE_cons]
      rcases Nat.lt_trichotomy c.toNat d.toNat with less | same | greater
      · exact .inl (.inl less)
      · have eq : c = d := Char.toNat_inj.mp same
        exact (Bool.or_eq_true _ _ ▸ ih t).imp (.inr ⟨eq, ·⟩) (.inr ⟨eq.symm, ·⟩)
      · exact .inr (.inl greater)

/-- What comes first comes before all that follows. -/
lemma termLE_trans (st : termLE s t = true) (tu : termLE t u = true) : termLE s u = true := by
  induction s generalizing t u with
  | nil => rfl
  | cons c s ih =>
    cases t with
    | nil => cases st
    | cons d t =>
      cases u with
      | nil => cases tu
      | cons e u =>
        rw [termLE_cons] at st tu ⊢
        rcases st with st | ⟨rfl, st⟩
        · rcases tu with tu | ⟨rfl, -⟩
          · exact .inl (Nat.lt_trans st tu)
          · exact .inl st
        · rcases tu with tu | ⟨rfl, tu⟩
          · exact .inl tu
          · exact .inr ⟨rfl, ih st tu⟩

/-- Only one term is at each place of the order. -/
lemma termLE_antisymm (st : termLE s t = true) (ts : termLE t s = true) : s = t := by
  induction s generalizing t with
  | nil =>
    cases t with
    | nil => rfl
    | cons _ _ => cases ts
  | cons c s ih =>
    cases t with
    | nil => cases st
    | cons d t =>
      rw [termLE_cons] at st ts
      rcases st with st | ⟨rfl, st⟩
      · rcases ts with ts | ⟨rfl, -⟩
        · exact absurd ts (Nat.lt_asymm st)
        · exact absurd st (Nat.lt_irrefl _)
      · rcases ts with ts | ⟨-, ts⟩
        · exact absurd ts (Nat.lt_irrefl _)
        · rw [ih st ts]

end termLE

/-- The sorted order depends on which terms there are, and on nothing else. -/
lemma TermOrder.sorted_ofSet : TermOrder.sorted.OfSet := by
  intro s t perm
  have ascending (terms : List (List Char)) :
      (terms.mergeSort termLE).Pairwise fun s t => termLE s t = true := by
    apply List.pairwise_mergeSort
    · exact fun _ _ _ => termLE_trans
    · exact termLE_total
  -- Two sorted lists of the same terms are one list, since the order is antisymmetric.
  refine List.Perm.eq_of_pairwise ?_ (ascending s) (ascending t) ?_
  · intro a b _ _
    exact termLE_antisymm
  · exact (sorted.perm s).trans (perm.trans (sorted.perm t).symm)

/-- The different terms of a query, in the order in which they are first read. -/
def differentTerms (query : List Char) : List (List Char) :=
  let terms := Term.ofText .dropStopWords query
  (if terms.isEmpty then Term.ofText .keepStopWords query else terms).eraseDups

/-- The different terms of a query, in the order of a search. -/
def termsIn (order : TermOrder) (query : List Char) : List (List Char) :=
  order.arrange (differentTerms query)

section terms

variable {order : TermOrder} {query query' t : List Char}

/-- No term of a query is counted twice. -/
lemma nodup_termsIn : (termsIn order query).Nodup :=
  (order.perm _).nodup_iff.mpr (nodup_eraseDups _)

/-- The terms are those that the query wants. -/
lemma mem_termsIn : t ∈ termsIn order query ↔ Wanted query t := by
  have perm : (termsIn order query).Perm (queryTerms query) :=
    (order.perm _).trans (TermOrder.sorted.perm _).symm
  rw [perm.mem_iff, mem_queryTerms]

/-- Where the order depends on the set alone, so does the list of terms. -/
lemma termsIn_congr (ofSet : order.OfSet) (same : ∀ t, Wanted query' t ↔ Wanted query t) :
    termsIn order query' = termsIn order query := by
  apply ofSet
  apply (List.perm_ext_iff_of_nodup (nodup_eraseDups _) (nodup_eraseDups _)).mpr
  intro t
  have wanted (query : List Char) : t ∈ differentTerms query ↔ Wanted query t := by
    rw [← mem_queryTerms]
    exact (TermOrder.sorted.perm _).mem_iff.symm
  exact (wanted query').trans ((same t).trans (wanted query).symm)

end terms

/-- Weights added to zero, one after the other. -/
def total (weights : List Single) : Single :=
  weights.foldl (· + ·) Single.zero

namespace Index

/-- The weight of a term in a document, if the document is filed under the hash of the term. -/
def weight? (index : Index) (doc : Nat) (t : List Char) : Option Single :=
  (((index.postings.get? (termHash t)).getD []).find? (·.doc == doc)).map Posting.weight

/-- A document is found once at most under each hash. -/
def Ascending (index : Index) : Prop :=
  ∀ hash, ((index.postings.get? hash).getD []).Pairwise fun p q => p.doc < q.doc

/-- The score of a document, if it has any of the terms: the sum of their weights in it. -/
def score? (index : Index) (terms : List (List Char)) (doc : Nat) : Option Single :=
  let weights := terms.filterMap (index.weight? doc)
  if weights = [] then none else some (total weights)

section scores

variable {index : Index} {terms : List (List Char)} {doc : Nat}

/-- The documents under every hash of a built index ascend. -/
lemma ascending_build (boosts : Boosts) (records : List Record) :
    (build boosts records).Ascending := by
  intro hash
  rw [← build_take, getD_postings_build length_take_mostDocuments]
  exact pairwise_postingsUnder

/-- A posting adds its weight to the score of its document. -/
lemma lookup_addPosting (scores : List (Nat × Single)) (p : Posting) :
    (addPosting scores p).lookup doc =
      if p.doc == doc then some ((scores.lookup doc).getD Single.zero + p.weight)
      else scores.lookup doc := by
  induction scores with
  | nil =>
    by_cases own : p.doc = doc
    · simp [addPosting, own]
    · simp [addPosting, List.lookup_cons, own, beq_eq_false_iff_ne.mpr (Ne.symm own)]
  | cons x rest ih =>
    obtain ⟨d, score⟩ := x
    simp only [addPosting]
    -- The first score is that of the posting's document, or that which is looked up, or neither.
    by_cases same : d = p.doc
    · by_cases own : p.doc = doc
      · simp [same, own]
      · simp [same, own, List.lookup_cons, beq_eq_false_iff_ne.mpr (Ne.symm own)]
    · by_cases first : doc = d
      · simp [same, first, Ne.symm same]
      · simp [same, List.lookup_cons, beq_eq_false_iff_ne.mpr first, ih]

/-- A document's score is built up from the weights of its own postings, in their order. -/
lemma lookup_foldl_addPosting (postings : List Posting) (scores : List (Nat × Single)) :
    (postings.foldl addPosting scores).lookup doc =
      ((postings.filter (·.doc == doc)).map Posting.weight).foldl
        (fun score w => some (score.getD Single.zero + w)) (scores.lookup doc) := by
  induction postings generalizing scores with
  | nil => rfl
  | cons p rest ih =>
    rw [List.foldl_cons, ih, lookup_addPosting]
    by_cases own : p.doc = doc
    · simp [own]
    · simp [own]

/-- Weights that are added one by one add up to their total, if there is any. -/
lemma foldl_eq_total (weights : List Single) :
    weights.foldl (fun score w => some (score.getD Single.zero + w)) none =
      if weights = [] then none else some (total weights) := by
  -- From the first weight on the score is a number, so the sum is the usual one.
  have from' (x : Single) (weights : List Single) :
      weights.foldl (fun score w => some (score.getD Single.zero + w)) (some x) =
        some (weights.foldl (· + ·) x) := by
    induction weights generalizing x with
    | nil => rfl
    | cons w rest ih => exact ih (x + w)
  cases weights with
  | nil => rfl
  | cons w rest => exact from' (Single.zero + w) rest

/-- In ascending order no document comes twice. -/
lemma filter_doc {postings : List Posting}
    (ascending : postings.Pairwise fun p q => p.doc < q.doc) :
    postings.filter (·.doc == doc) = (postings.find? (·.doc == doc)).toList := by
  induction postings with
  | nil => rfl
  | cons p rest ih =>
    obtain ⟨lower, ascending⟩ := List.pairwise_cons.mp ascending
    by_cases own : p.doc = doc
    · have others : rest.filter (·.doc == doc) = [] := by
        rw [List.filter_eq_nil_iff]
        intro q mem
        have lt := lower q mem
        rw [beq_iff_eq]
        omega
      simp [own, others]
    · simp [own, ih ascending]

/-- In an association list without repeated keys every entry is found. -/
lemma mem_iff_lookup {β : Type} {l : List (Nat × β)} (nodup : (l.map Prod.fst).Nodup) {b : β} :
    (doc, b) ∈ l ↔ l.lookup doc = some b := by
  induction l with
  | nil => simp
  | cons x rest ih =>
    obtain ⟨d, b'⟩ := x
    obtain ⟨new, nodup⟩ := List.nodup_cons.mp nodup
    by_cases own : doc = d
    · subst own
      have absent : (doc, b) ∉ rest := fun mem => new (List.mem_map.mpr ⟨_, mem, rfl⟩)
      simp [absent, eq_comm]
    · simp [own, List.lookup_cons, beq_eq_false_iff_ne.mpr own, ih nodup]

/-- The score of a document is made of its weights, in the order of the terms. -/
lemma lookup_scores (ascending : index.Ascending) :
    (index.scores terms).lookup doc = index.score? terms doc := by
  -- The postings of a document are found term by term, one at most for each.
  have weights : ((terms.flatMap fun t => (index.postings.get? (termHash t)).getD []).filter
      (·.doc == doc)).map Posting.weight = terms.filterMap (index.weight? doc) := by
    rw [List.filter_flatMap, List.map_flatMap, List.filterMap_eq_flatMap_toList]
    congr
    funext t
    rw [filter_doc (ascending (termHash t)), weight?]
    cases ((index.postings.get? (termHash t)).getD []).find? (·.doc == doc) <;> rfl
  rw [scores, lookup_foldl_addPosting, weights]
  exact foldl_eq_total _

/-- A document is ranked by its score, if it has one. -/
lemma mem_rankingBy_iff (ascending : index.Ascending) {d : Nat × Single} :
    d ∈ index.rankingBy terms ↔ index.score? terms d.1 = some d.2 := by
  have nodup : ((index.scores terms).map Prod.fst).Nodup := nodup_map_fst_foldl_addPosting .nil
  rw [rankingBy_perm.mem_iff, ← lookup_scores ascending]
  exact mem_iff_lookup nodup

/-- A document has a score if it has some weight, and then the score is their total. -/
lemma score?_eq_some_iff {score : Single} :
    index.score? terms doc = some score ↔
      terms.filterMap (index.weight? doc) ≠ [] ∧
        score = total (terms.filterMap (index.weight? doc)) := by
  simp only [score?, Option.ite_none_left_eq_some, Option.some.injEq]
  exact and_congr_right fun _ => eq_comm

/-- In ascending order a document's weight under a hash is that of its one posting. -/
lemma weight?_eq_some_iff (ascending : index.Ascending) {t : List Char} {w : Single} :
    index.weight? doc t = some w ↔
      ⟨doc, w⟩ ∈ (index.postings.get? (termHash t)).getD [] := by
  have posting (p : Posting) :
      p ∈ (((index.postings.get? (termHash t)).getD []).find? (·.doc == doc)).toList ↔
        p ∈ (index.postings.get? (termHash t)).getD [] ∧ p.doc = doc := by
    rw [← filter_doc (ascending (termHash t)), List.mem_filter, beq_iff_eq]
  simp only [Option.mem_toList] at posting
  simp only [weight?, Option.map_eq_some_iff, posting]
  constructor
  · intro h
    obtain ⟨p, ⟨mem, rfl⟩, rfl⟩ := h
    exact mem
  · intro mem
    exact ⟨_, ⟨mem, rfl⟩, rfl⟩

end scores

/-- A document goes before another: its score is higher, or equal and its number lower. -/
def GoesBefore (a b : Nat × Single) : Prop :=
  b.2.rank < a.2.rank ∨ a.2 = b.2 ∧ a.1 < b.1

/-- A document ranks before another by its score, and by its number where these are equal. -/
lemma ranksBefore_iff {a b : Nat × Single} :
    ranksBefore a b = true ↔ b.2.rank < a.2.rank ∨ a.2.rank = b.2.rank ∧ a.1 ≤ b.1 := by
  simp [ranksBefore]

/-- A ranking is in strict order, whatever the scores are. -/
lemma pairwise_rankingBy (index : Index) (terms : List (List Char)) :
    (index.rankingBy terms).Pairwise GoesBefore := by
  have ranked : (index.rankingBy terms).Pairwise fun a b => ranksBefore a b = true := by
    apply List.pairwise_mergeSort
    · intro a b c ab bc
      rw [ranksBefore_iff] at ab bc ⊢
      omega
    · intro a b
      rw [Bool.or_eq_true, ranksBefore_iff, ranksBefore_iff]
      omega
  -- The comparison lets a document go before itself, so it alone gives no strict order.
  have nodup : (index.rankingBy terms).Pairwise fun a b => a.1 ≠ b.1 :=
    List.pairwise_map.mp nodup_rankingBy
  refine (ranked.and nodup).imp ?_
  intro a b h
  obtain ⟨before, other⟩ := h
  cases ranksBefore_iff.mp before with
  | inl higher => exact .inl higher
  | inr equal => exact .inr ⟨Single.rank_injective equal.1, Nat.lt_of_le_of_ne equal.2 other⟩

/-- The ranking of a query by a search that goes through its terms in a given order. -/
def rankingIn (order : TermOrder) (index : Index) (query : List Char) : List (Nat × Single) :=
  index.rankingBy (termsIn order query)

/-- The hits of such a search. -/
def searchIn (order : TermOrder) (index : Index) (query : String) :
    Except SearchError (List Hit) :=
  index.hitsOf (index.rankingIn order query.toList)

/-- The search takes the terms in their sorted order. -/
lemma search_eq_searchIn (index : Index) (query : String) :
    index.search query = index.searchIn .sorted query := rfl

/-- A built index answers every query, whatever the order is. -/
lemma exists_searchIn_build (order : TermOrder) (boosts : Boosts) (records : List Record)
    (query : String) : ∃ hits, (build boosts records).searchIn order query = .ok hits :=
  exists_hitsOf_eq_ok fun _ ranked => inRange_build.lt_of_ranked ranked

/-- How a search ranks the documents of an index. -/
structure Ranked (order : TermOrder) (index : Index) (query : String) : Prop where
  /-- It goes through the terms of the query once each. -/
  once : (termsIn order query.toList).Nodup
  terms_iff : ∀ t, t ∈ termsIn order query.toList ↔ Wanted query.toList t
  /-- The weight of a term in a document is that of the only posting there is for them. -/
  weights : ∀ doc t w, index.weight? doc t = some w ↔
    ⟨doc, w⟩ ∈ (index.postings.get? (termHash t)).getD []
  /-- The score of a document is zero with the weights of the terms that it has added to it, and it
  is ranked if it has any. -/
  scores : ∀ doc score, (doc, score) ∈ index.rankingIn order query.toList ↔
    (termsIn order query.toList).filterMap (index.weight? doc) ≠ [] ∧
      score = total ((termsIn order query.toList).filterMap (index.weight? doc))
  /-- Higher scores go first, and of equal scores that of the lower document. -/
  sorted : (index.rankingIn order query.toList).Pairwise GoesBefore
  /-- The hits are the ranked documents, with their references and scores. -/
  hits : ∃ hits, index.searchIn order query = .ok hits ∧
    List.Forall₂ (fun (d : Nat × Single) hit => index.refs[d.1]? = some hit.reference ∧
      hit.score = d.2) (index.rankingIn order query.toList) hits
  /-- Another query with the same terms has the same hits, if their set decides on the order. -/
  sameTerms : order.OfSet → ∀ query' : String,
    (∀ t, Wanted query'.toList t ↔ Wanted query.toList t) →
      index.searchIn order query' = index.searchIn order query

/-- A built index is ranked so whatever order a search goes through terms in, and the order of the
search that runs depends on the set of the terms alone. -/
theorem ranked_build (boosts : Boosts) (records : List Record) (query : String) :
    (∀ order, Ranked order (build boosts records) query) ∧
      (build boosts records).search query = (build boosts records).searchIn .sorted query ∧
      TermOrder.sorted.OfSet := by
  refine ⟨fun order => ?_, search_eq_searchIn _ _, TermOrder.sorted_ofSet⟩
  have ascending : (build boosts records).Ascending := ascending_build boosts records
  constructor
  case once => exact nodup_termsIn
  case terms_iff => exact fun t => mem_termsIn
  case weights => exact fun doc t w => weight?_eq_some_iff ascending
  case scores =>
    intro doc score
    rw [rankingIn, mem_rankingBy_iff ascending, score?_eq_some_iff]
  case sorted => exact pairwise_rankingBy _ _
  case hits =>
    obtain ⟨hits, ok⟩ := exists_searchIn_build order boosts records query
    exact ⟨hits, ok, hitsOf_eq_ok_iff.mp ok⟩
  case sameTerms =>
    intro ofSet query' same
    rw [searchIn, searchIn, rankingIn, rankingIn, termsIn_congr ofSet same]

end Index

end PageSearch
