import MqueryFcs.Handler.Phases
import MqueryFcs.Handler.SpecDeps
import MqueryFcs.Result.RoundRobin

/-!
# MqueryFcs.Handler.Merge

The merge loop of `searchRetrieve` (lines 265-296), for every selector.

`transformResults_eq` is the loop's invariant, read as an equation: from `len` records
and fuel `K - len`, the loop appends one record per line `Next()` hands out, numbered on
from `len`, and leaves the selector after exactly the calls `yields` and `drive` count.
More fuel changes nothing (`transformResults_fuel`): the test `len < K` ends the loop, so
the fixed fuel `maxSearchRows` the handler runs it with is enough once line 266 has made
room for `K ≤ maxSearchRows` records.
The registry lookup inside the loop succeeds because the selector names only corpora it
was built with (`LineSelector.NamesFrom`), and those passed the same lookup in
`validateContext` (`dispatch_ok`) against the same registry.
-/

namespace MqueryFcs

/-- The URI of a registered corpus (`res.URI`). -/
def Resources.uri (r : Resources) (name : String) : String :=
  match r.getResource name with
  | .ok c => c.uri
  | .error _ => ""

/-- The records the merge loop builds from the lines it draws, numbered on from `k`. -/
def mergedRows (r : Resources) : Nat → List (String × ConcLine) → List FCSSearchRow
  | _, [] => []
  | k, (name, line) :: rest => searchRow (k + 1) name (r.uri name) line :: mergedRows r (k + 1) rest

@[simp] theorem length_mergedRows (r : Resources) (k : Nat) (ls : List (String × ConcLine)) :
    (mergedRows r k ls).length = ls.length := by
  induction ls generalizing k with
  | nil => rfl
  | cons p rest ih => simp [mergedRows, ih]

/-- The `j`-th record is the `j`-th line drawn, at position `k + j + 1`. -/
theorem getElem?_mergedRows (r : Resources) (k : Nat) (ls : List (String × ConcLine))
    (j : Nat) :
    (mergedRows r k ls)[j]? = ls[j]?.map fun p => searchRow (k + j + 1) p.1 (r.uri p.1) p.2 := by
  induction ls generalizing k j with
  | nil => rfl
  | cons p rest ih =>
    obtain ⟨name, line⟩ := p
    cases j with
    | zero => simp [mergedRows]
    | succ j =>
      simp only [mergedRows, List.getElem?_cons_succ, ih]
      congr 2; funext; congr 1; omega

section Merge

variable {σ : Type} (deps : Deps) (sel : LineSelector σ) (a : FCSSubHandlerV12)

/-- **Fuel adequacy.** From `len` records, every fuel from `K - len` on runs the loop to
the same end: once `K` records are in, the test `len < K` stops it. -/
theorem transformResults_fuel (K : Int) :
    ∀ (n fuel : Nat) (resp : FCSResponse) (s : σ), (resp.results.length : Int) + n = K →
      n ≤ fuel → transformResults deps sel a K fuel resp s = transformResults deps sel a K n resp s
  | 0, 0, _, _, _, _ => rfl
  | 0, _ + 1, resp, _, hK, _ => by
    simp [transformResults, show ¬ (resp.results.length : Int) < K by omega]
  | n + 1, fuel + 1, resp, s, hK, hn => by
    simp only [transformResults, show (resp.results.length : Int) < K by omega, if_true]
    split
    · split
      · rfl
      · exact transformResults_fuel K n fuel _ _ (by simp; omega) (by omega)
    · rfl

/-- **The merge loop.** With `len` records collected, fuel `K - len`, and every line the
next calls hand out naming a registered corpus, the loop ends with status 200, the records
of those lines appended, and the selector after those calls. -/
theorem transformResults_eq (K : Int) :
    ∀ (fuel : Nat) (resp : FCSResponse) (s : σ), (resp.results.length : Int) + fuel = K →
      (∀ p ∈ sel.yields fuel s, a.corporaConf.resources.Registered p.1) →
      transformResults deps sel a K fuel resp s =
        (statusOK, { resp with results := resp.results ++
          (mergedRows a.corporaConf.resources resp.results.length (sel.yields fuel s)) },
          sel.drive fuel s)
  | 0, resp, s, _, _ => by
    simp [transformResults, LineSelector.yields, LineSelector.drive, mergedRows]
  | fuel + 1, resp, s, hK, hreg => by
    rcases h : sel.next s with ⟨b, s'⟩
    cases b with
    | false =>
      simp [transformResults, LineSelector.yields_succ_of_next_false h,
        LineSelector.drive_succ_of_next_false h, h, show (resp.results.length : Int) < K by omega,
        mergedRows]
    | true =>
      rw [LineSelector.yields_succ_of_next_true h] at hreg ⊢
      obtain ⟨c, hc⟩ := hreg _ (List.mem_cons_self _ _)
      have ih := transformResults_eq K fuel
        { resp with results := resp.results ++
          ([searchRow (resp.results.length + 1) (sel.currRscName s') c.uri (sel.currLine s')]) } s'
        (by simp; omega) (fun p hp => hreg p (List.mem_cons_of_mem _ hp))
      simp only [transformResults, h, show (resp.results.length : Int) < K by omega,
        if_true, hc, LineSelector.drive_succ_of_next_true h]
      rw [ih]
      simp [mergedRows, Resources.uri, hc]

section Request

variable (hsel : sel.NamesFrom) {keyOrder : List String} {url : URLQuery}
  {reply : Nat → WorkerResult} {resp : FCSResponse} {d : Dispatched} {s : σ}
  (hd : dispatch deps a keyOrder url resp = .ok d)

include hsel hd in
/-- The merge loop of a dispatched request whose selector was seeded, with any fuel from
`maximumRecords` on. -/
theorem transformResults_merge
    (hs : awaitResults deps sel d.args.maximumRecords d.corpora reply = .ok s) {fuel : Nat}
    (hfuel : d.args.maximumRecords.toNat ≤ fuel) :
    transformResults deps sel a d.args.maximumRecords fuel { d.resp with results := [] } s =
      (statusOK, { d.resp with results :=
          (mergedRows a.corporaConf.resources 0 (sel.yields d.args.maximumRecords.toNat s)) },
        sel.drive d.args.maximumRecords.toNat s) := by
  obtain ⟨hargs, -, -, hreg, -⟩ := dispatch_ok deps a hd
  have hK := (readArgs_ok deps a hargs).2.2.2.2
  rw [transformResults_fuel deps sel a _ d.args.maximumRecords.toNat fuel _ s (by simp; omega)
    hfuel]
  simpa using transformResults_eq deps sel a d.args.maximumRecords
    d.args.maximumRecords.toNat { d.resp with results := [] } s (by simp; omega)
    (fun p hp => hreg _ (hsel _ _ _ (awaitResults_seeded deps sel hs) _ p hp))

include hd in
/-- A dispatched request keeps the jobs it published, whatever its replies. -/
theorem searchRetrieve_published_of_dispatch :
    (searchRetrieve deps sel a keyOrder url reply resp).published = d.published := by
  simp only [searchRetrieve, hd, awaitAndMerge]
  split
  · rfl
  · rfl
  · split <;> rfl

include hd in
/-- A dispatched request whose replies seed the selector panics at line 266 when it cannot
make room for `maximumRecords` records, and otherwise answers what the merge loop does. -/
theorem searchRetrieve_of_awaitResults_ok
    (hs : awaitResults deps sel d.args.maximumRecords d.corpora reply = .ok s) :
    searchRetrieve deps sel a keyOrder url reply resp =
      if d.args.maximumRecords.toNat ≤ maxSearchRows then
        let r := transformResults deps sel a d.args.maximumRecords maxSearchRows
          { d.resp with results := [] } s
        ⟨r.1, r.2.1, d.published, none⟩
      else ⟨statusInternalServerError, d.resp, d.published, some errMakeSliceCap⟩ := by
  have hK := (readArgs_ok deps a (dispatch_ok deps a hd).1).2.2.2.2
  simp only [searchRetrieve, hd, awaitAndMerge, hs]
  split_ifs <;> first | rfl | omega

include hsel hd in
/-- A dispatched request whose replies seed the selector ends with status 200 and the
merged records, unless line 266 cannot make room for `maximumRecords` of them. -/
theorem searchRetrieve_merge
    (hs : awaitResults deps sel d.args.maximumRecords d.corpora reply = .ok s) :
    searchRetrieve deps sel a keyOrder url reply resp =
      if d.args.maximumRecords.toNat ≤ maxSearchRows then
        ⟨statusOK, { d.resp with results :=
            (mergedRows a.corporaConf.resources 0 (sel.yields d.args.maximumRecords.toNat s)) },
          d.published, none⟩
      else ⟨statusInternalServerError, d.resp, d.published, some errMakeSliceCap⟩ := by
  rw [searchRetrieve_of_awaitResults_ok deps sel a hd hs]
  split_ifs with hcap
  · rw [transformResults_merge deps sel a hsel hd hs hcap]
  · rfl

end Request

/-- **The merge phase of a request.** For a request that reaches the merge loop with
`K = maximumRecords` and a selector that names only corpora it was built with, the
registry lookup never fails and the loop, with any fuel from `K` on, ends with status 200:
record `j` is the line the `(j+1)`-th `Next()` drew, at position `j + 1`, with the corpus
as PID, its registry URI as Ref, and the line's words and hit flags as tokens; there are
`min K m` records when `Next()` gives out after `m` lines; and the selector is left after
the calls `drive` counts, so `Next()` is not called again once `K` records are in. The
request gets that answer when line 266 can make room for `K` records, and otherwise
panics there. -/
theorem merge_phase (hsel : sel.NamesFrom) {keyOrder : List String} {url : URLQuery}
    {reply : Nat → WorkerResult} {resp : FCSResponse} {d : Dispatched} {s : σ}
    (hd : dispatch deps a keyOrder url resp = .ok d)
    (hs : awaitResults deps sel d.args.maximumRecords d.corpora reply = .ok s) :
    (∀ fuel, d.args.maximumRecords.toNat ≤ fuel →
      transformResults deps sel a d.args.maximumRecords fuel { d.resp with results := [] } s =
        (statusOK, { d.resp with results :=
            (mergedRows a.corporaConf.resources 0 (sel.yields d.args.maximumRecords.toNat s)) },
          sel.drive d.args.maximumRecords.toNat s)) ∧
    (∀ m, (sel.yields (m + 1) s).length = m →
      (mergedRows a.corporaConf.resources 0 (sel.yields d.args.maximumRecords.toNat s)).length =
        min d.args.maximumRecords.toNat m) ∧
    (∀ j, (mergedRows a.corporaConf.resources 0 (sel.yields d.args.maximumRecords.toNat s))[j]? =
      (sel.yields d.args.maximumRecords.toNat s)[j]?.map fun p =>
        ({ position := j + 1, pid := p.1, ref := a.corporaConf.resources.uri p.1,
           tokens := p.2.text.map fun t => { text := t.word, hit := t.strong } } : FCSSearchRow)) ∧
    searchRetrieve deps sel a keyOrder url reply resp =
      if d.args.maximumRecords.toNat ≤ maxSearchRows then
        ⟨statusOK, { d.resp with results :=
            (mergedRows a.corporaConf.resources 0 (sel.yields d.args.maximumRecords.toNat s)) },
          d.published, none⟩
      else ⟨statusInternalServerError, d.resp, d.published, some errMakeSliceCap⟩ :=
  ⟨fun _ => transformResults_merge deps sel a hsel hd hs,
    fun _ hm => by simpa using LineSelector.length_yields_of_stop hm _,
    fun j => by simp [getElem?_mergedRows, searchRow],
    searchRetrieve_merge deps sel a hsel hd hs⟩

end Merge

/-- A request for `x` on the one configured corpus, whose worker returns one row. -/
theorem merge_phase_one_row :
    roundRobinLineSel.NamesFrom ∧
      dispatch specDeps (exampleHandler [exampleCorpus "a" true]) [searchRetrArgQuery]
          ⟨[(searchRetrArgQuery, "x")]⟩ emptyResponse =
        .ok ⟨⟨[], "x", 1, []⟩, ⟨"x", 1, 10⟩, ["a"],
          [⟨"concExample", ⟨"/reg/a", "[word=\"x\"]", ["word"], 0, 10⟩⟩]⟩ ∧
      awaitResults specDeps roundRobinLineSel 10 ["a"] (fun _ => .decoded ⟨[⟨[⟨"x", true⟩]⟩], ""⟩) =
        .ok ⟨[⟨"a", [⟨[⟨"x", true⟩]⟩], 0, none⟩], 0, 0⟩ ∧
      searchRetrieve specDeps roundRobinLineSel (exampleHandler [exampleCorpus "a" true])
          [searchRetrArgQuery] ⟨[(searchRetrArgQuery, "x")]⟩
          (fun _ => .decoded ⟨[⟨[⟨"x", true⟩]⟩], ""⟩) emptyResponse =
        ⟨statusOK, ⟨[], "x", 1, [⟨1, "a", "urn:a", [⟨"x", true⟩]⟩]⟩,
          [⟨"concExample", ⟨"/reg/a", "[word=\"x\"]", ["word"], 0, 10⟩⟩], none⟩ :=
  by
    refine ⟨roundRobinLineSel_namesFrom, ?hd, ?hs,
      (merge_phase specDeps roundRobinLineSel _ roundRobinLineSel_namesFrom ?hd ?hs).2.2.2.trans ?_⟩
    all_goals rfl

end MqueryFcs
