import MqueryFcs.Handler.Collect
import MqueryFcs.Handler.Merge

/-!
# MqueryFcs.Handler.Paging

The page a request returns, against workers that cut each corpus's full result list to the
window their job asks for.

The planner gives every corpus the same window `[startRecord - 1, startRecord - 1 + K)`
(`dispatch_ok`), so each corpus contributes rows `startRecord .. startRecord + K - 1` of its
own list; the request is out of range when every corpus is shorter than `startRecord`, and
otherwise the page is the first `K` rows of the round-robin interleaving of those windows
(`searchRetrieve_page`), when line 266 can make room for `K` records. With two corpora and
`startRecord > 1` both can differ from a page of the interleaving of the full lists
(`searchRetrieve_page_not_interleaving`).

* `concExampleWorker`: the worker, as spec §7 describes its reply;
* `view_seedAll`: the seeded selector holds each corpus's window, undrawn;
* `searchRetrieve_page`: the outcome of every request against these workers.
-/

namespace MqueryFcs

/-! ## The worker -/

/-- Modelled from the spec: the reply to a job for rows `[startLine, startLine + maxItems)`
of `rows` (§7), the out-of-range sentinel when `startLine` is at or past the end. -/
def concExampleResult (rows : List ConcLine) (startLine maxItems : Int) : ConcExampleResult :=
  if rows.length ≤ startLine.toNat then ⟨[], errRowsRangeOutOfConc⟩
  else ⟨(rows.drop startLine.toNat).take maxItems.toNat, ""⟩

/-- Modelled from the spec: the worker's `concExample` job (§7). `full` gives the full
result list of the request's query on the corpus at a registry path. -/
def concExampleWorker (full : String → List ConcLine) (args : ConcExampleArgs) : WorkerResult :=
  .decoded (concExampleResult (full args.corpusPath) args.startLine args.maxItems)

/-- The reply awaited for the `i`-th published job. -/
def workerReplies (full : String → List ConcLine) (published : List Query) (i : Nat) :
    WorkerResult :=
  match published[i]? with
  | some q => concExampleWorker full q.args
  | none => .undecodable ""

@[simp] theorem concExampleResult_lines (rows : List ConcLine) (startLine maxItems : Int) :
    (concExampleResult rows startLine maxItems).lines =
      (rows.drop startLine.toNat).take maxItems.toNat := by
  unfold concExampleResult
  split
  · rename_i h; simp [List.drop_eq_nil_of_le h]
  · rfl

theorem isFatal_concExampleResult (rows : List ConcLine) (startLine maxItems : Int) :
    (WorkerResult.decoded (concExampleResult rows startLine maxItems)).IsFatal = false := by
  unfold concExampleResult
  split <;> rfl

theorem isOutOfRange_concExampleResult (rows : List ConcLine) (startLine maxItems : Int) :
    (WorkerResult.decoded (concExampleResult rows startLine maxItems)).IsOutOfRange =
      decide (rows.length ≤ startLine.toNat) := by
  unfold concExampleResult
  split <;> simp_all [WorkerResult.IsOutOfRange, ConcExampleResult.err, errRowsRangeOutOfConc]

/-- Jobs published for `corpora`, each for its corpus's path and the window `[s, s + k)`,
get the replies of those windows, in corpus order. -/
theorem workerReplies_eq {full : String → List ConcLine} {published : List Query}
    {corpora : List String} {path : String → String} {s k : Int}
    (h : published.map (fun q => (q.args.corpusPath, q.args.startLine, q.args.maxItems)) =
      corpora.map fun c => (path c, s, k))
    {i : Nat} {c : String} (hc : corpora[i]? = some c) :
    workerReplies full published i = .decoded (concExampleResult (full (path c)) s k) := by
  have hi := congrArg (·[i]?) h
  simp only [List.getElem?_map, hc, Option.map_some'] at hi
  cases hq : published[i]? with
  | none => simp [hq] at hi
  | some q =>
    simp only [hq, Option.map_some', Option.some.injEq, Prod.mk.injEq] at hi
    simp [workerReplies, hq, concExampleWorker, hi]

/-! ## Seeding the spec's selector -/

namespace RoundRobinLineSel

/-- What `Next()` reads of a slot: its corpus, its rows and the index of its next row. -/
def view (s : RoundRobinLineSel) : List (String × List ConcLine × Nat) :=
  s.rscs.map fun r => (r.rsc, r.lines, r.idx)

theorem view_new (maxLines : Int) (corpora : List String) :
    (new maxLines corpora).view = corpora.map fun c => (c, [], 0) := by
  simp [view, new]

theorem pending_eq_view (s : RoundRobinLineSel) :
    s.pending = (s.view.map fun v => (v.2.1.drop v.2.2).map (v.1, ·)).rotate s.cursor := by
  simp [pending, view, RscLines.pending]

end RoundRobinLineSel

/-- A reply stores its rows in every slot of its corpus and leaves the rest, and the
cursor, as they were. -/
theorem view_seedStep (i : Nat) (c : String) (r : ConcExampleResult) (s : RoundRobinLineSel) :
    (seedStep roundRobinLineSel i c (.decoded r) s).view =
        s.view.map (fun v => if v.1 = c then (v.1, r.lines, v.2.2) else v) ∧
      (seedStep roundRobinLineSel i c (.decoded r) s).cursor = s.cursor := by
  have hset (t : RoundRobinLineSel) : (t.setRscLines c r).view =
      t.view.map fun v => if v.1 = c then (v.1, r.lines, v.2.2) else v := by
    simp only [RoundRobinLineSel.view, RoundRobinLineSel.setRscLines, List.map_map]
    congr 1; funext x; simp only [Function.comp]; split <;> rfl
  have herr : (s.rscSetErrorAt i errRowsRangeOutOfConc).view = s.view :=
    RoundRobinLineSel.map_modify_of_comp s.rscs (fun r => { r with err := some errRowsRangeOutOfConc })
      (fun r => (r.rsc, r.lines, r.idx)) (fun _ => rfl) i
  rw [seedStep]
  split
  · refine ⟨?_, rfl⟩
    simp only [roundRobinLineSel_setRscLines, roundRobinLineSel_rscSetErrorAt, hset, herr]
  · exact ⟨hset s, rfl⟩

/-- **The seeding loop.** When the reply to the job of every corpus `c` of `cs` carries
`res c`, seeding stores `res c`'s rows in every slot of a corpus of `cs`. -/
theorem view_seedAll {reply : Nat → WorkerResult} {res : String → ConcExampleResult} :
    ∀ (i : Nat) (cs : List String) (s : RoundRobinLineSel),
      (∀ k c, cs[k]? = some c → reply (i + k) = .decoded (res c)) →
      (seedAll roundRobinLineSel reply i cs s).view =
          s.view.map (fun v => if v.1 ∈ cs then (v.1, (res v.1).lines, v.2.2) else v) ∧
        (seedAll roundRobinLineSel reply i cs s).cursor = s.cursor
  | _, [], s, _ => by simp [seedAll]
  | i, c :: rest, s, hrep => by
    have hi : reply i = .decoded (res c) := hrep 0 c (by simp)
    obtain ⟨hv, hcur⟩ := view_seedStep i c (res c) s
    obtain ⟨ih, ihcur⟩ := view_seedAll (i + 1) rest (seedStep roundRobinLineSel i c (reply i) s)
      fun k c' h => by
        rw [Nat.add_right_comm, Nat.add_assoc]; exact hrep (k + 1) c' (by simpa using h)
    rw [seedAll, ih, ihcur, hi, hv, hcur, List.map_map]
    refine ⟨List.map_congr_left fun v _ => ?_, rfl⟩
    by_cases h₁ : v.1 = c
    · subst h₁; by_cases h₂ : v.1 ∈ rest <;> simp [h₂]
    · by_cases h₂ : v.1 ∈ rest <;> simp [h₁, h₂]

/-- The selector seeded from scratch hands out the round-robin interleaving of the
corpora's rows. -/
theorem yields_seedAll_new {reply : Nat → WorkerResult} {res : String → ConcExampleResult}
    (maxLines : Int) (corpora : List String)
    (hrep : ∀ k c, corpora[k]? = some c → reply k = .decoded (res c)) (n : Nat) :
    roundRobinLineSel.yields n
        (seedAll roundRobinLineSel reply 0 corpora (RoundRobinLineSel.new maxLines corpora)) =
      (roundRobin (corpora.map fun c => (res c).lines.map (c, ·))).take n := by
  obtain ⟨hv, hcur⟩ := view_seedAll 0 corpora (RoundRobinLineSel.new maxLines corpora)
    fun k c h => by simpa using hrep k c h
  rw [yields_eq_take_roundRobin, RoundRobinLineSel.pending_eq_view, hv, hcur,
    RoundRobinLineSel.view_new]
  simp only [List.map_map, RoundRobinLineSel.new, List.rotate_zero]
  congr 2
  refine List.map_congr_left fun c hc => ?_
  simp [hc]

/-! ## The page of a request -/

section Page

variable {σ : Type} (deps : Deps) (a : FCSSubHandlerV12)

/-- The replies awaited are those of the corpora's windows, in corpus order. -/
theorem replyVector_workerReplies {full : String → List ConcLine} {published : List Query}
    {corpora : List String} {path : String → String} {s k : Int}
    (h : published.map (fun q => (q.args.corpusPath, q.args.startLine, q.args.maxItems)) =
      corpora.map fun c => (path c, s, k)) :
    replyVector (workerReplies full published) 0 corpora.length =
      corpora.map fun c => .decoded (concExampleResult (full (path c)) s k) := by
  apply List.ext_getElem?
  intro i
  simp only [replyVector, List.getElem?_map]
  by_cases hi : i < corpora.length
  · simp [hi, workerReplies_eq h (List.getElem?_eq_getElem hi)]
  · have hle : corpora.length ≤ i := by omega
    rw [List.getElem?_eq_none (by simpa using hle), List.getElem?_eq_none hle]; rfl

/-- Against workers that never fail, the replies end the request only when every corpus is
out of range. -/
theorem classifyReplies_windows (corpora : List String) (rows : String → List ConcLine)
    (s k : Int) :
    classifyReplies deps (corpora.map fun c => .decoded (concExampleResult (rows c) s k)) =
      if ∀ c ∈ corpora, (rows c).length ≤ s.toNat then
        some (.refuse (conformantUnprocessableEntity, ⟨.firstRecordPosOutOfRange,
          errRowsRangeOutOfConc, deps.asMessage .firstRecordPosOutOfRange⟩))
      else none := by
  have hfind : (corpora.map fun c => WorkerResult.decoded (concExampleResult (rows c) s k)).find?
      WorkerResult.IsFatal = none := by
    simp [List.find?_eq_none, isFatal_concExampleResult]
  simp [classifyReplies, hfind, isOutOfRange_concExampleResult]

section Request

variable {keyOrder : List String} {url : URLQuery} {resp : FCSResponse} {d : Dispatched}
  (hd : dispatch deps a keyOrder url resp = .ok d) (full : String → List ConcLine)

include hd in
/-- The collection phase against these workers: out of range exactly when every corpus
is, and otherwise the selector seeded with each corpus's window. -/
theorem awaitResults_workerReplies :
    awaitResults deps roundRobinLineSel d.args.maximumRecords d.corpora
        (workerReplies full d.published) =
      if ∀ c ∈ d.corpora, (full (a.corporaConf.getRegistryPath c)).length ≤
          (d.args.startRecord - 1).toNat then
        .error (.refuse (conformantUnprocessableEntity, ⟨.firstRecordPosOutOfRange,
          errRowsRangeOutOfConc, deps.asMessage .firstRecordPosOutOfRange⟩))
      else .ok (seedAll roundRobinLineSel (workerReplies full d.published) 0 d.corpora
        (RoundRobinLineSel.new d.args.maximumRecords d.corpora)) := by
  obtain ⟨-, -, hne, -, hjobs⟩ := dispatch_ok deps a hd
  rw [awaitResults_eq_classify deps d.args.maximumRecords hne, replyVector_workerReplies hjobs,
    classifyReplies_windows]
  split_ifs <;> rfl

include hd in
/-- A request some corpus has rows for gets the first `K` rows of the round-robin
interleaving of the corpora's windows, when line 266 can make room for them. -/
theorem searchRetrieve_page_merge
    (h : ¬ ∀ c ∈ d.corpora, (full (a.corporaConf.getRegistryPath c)).length ≤
      (d.args.startRecord - 1).toNat) :
    searchRetrieve deps roundRobinLineSel a keyOrder url (workerReplies full d.published) resp =
      if d.args.maximumRecords.toNat ≤ maxSearchRows then
        ⟨statusOK, { d.resp with results := (mergedRows a.corporaConf.resources 0
            ((roundRobin (d.corpora.map fun c =>
              (((full (a.corporaConf.getRegistryPath c)).drop (d.args.startRecord - 1).toNat).take
                d.args.maximumRecords.toNat).map (c, ·))).take d.args.maximumRecords.toNat)) },
          d.published, none⟩
      else ⟨statusInternalServerError, d.resp, d.published, some errMakeSliceCap⟩ := by
  obtain ⟨-, -, -, -, hjobs⟩ := dispatch_ok deps a hd
  have hawait := awaitResults_workerReplies deps a hd full
  rw [if_neg h] at hawait
  rw [searchRetrieve_merge deps roundRobinLineSel a roundRobinLineSel_namesFrom hd hawait,
    yields_seedAll_new _ _ fun _ _ => workerReplies_eq hjobs]
  simp

end Request

end Page

/-- Two rows per corpus, named after its registry path. -/
def twoRows (path : String) : List ConcLine :=
  [⟨[⟨path ++ "#1", true⟩]⟩, ⟨[⟨path ++ "#2", true⟩]⟩]

section FirstPage

variable {σ : Type} (deps : Deps) (a : FCSSubHandlerV12) {keyOrder : List String} {url : URLQuery}
  {resp : FCSResponse} {d : Dispatched} (hd : dispatch deps a keyOrder url resp = .ok d)
  (full : String → List ConcLine)

include hd in
/-- **The first page.** With `startRecord = 1`, room for `K = maximumRecords` records at
line 266, and every corpus holding at least `K` rows, a request returns `K` records, one
from each corpus in turn starting at the first: record `j` is row `j / N` of corpus
`j % N`, at position `j + 1`, with the corpus as PID, its URI as Ref, and the row's words
and hit flags as tokens. -/
theorem searchRetrieve_first_page (hs : d.args.startRecord = 1)
    (hcap : d.args.maximumRecords.toNat ≤ maxSearchRows)
    (hK : ∀ c ∈ d.corpora, d.args.maximumRecords.toNat ≤ (full (a.corporaConf.getRegistryPath c)).length) :
    let o := searchRetrieve deps roundRobinLineSel a keyOrder url (workerReplies full d.published) resp
    o.status = statusOK ∧ o.panic = none ∧ o.response.results.length = d.args.maximumRecords.toNat ∧
      ∀ j < d.args.maximumRecords.toNat, o.response.results[j]? =
        d.corpora[j % d.corpora.length]?.bind fun c =>
          (full (a.corporaConf.getRegistryPath c))[j / d.corpora.length]?.map fun line =>
            ({ position := j + 1, pid := c, ref := a.corporaConf.resources.uri c,
               tokens := line.text.map fun t => { text := t.word, hit := t.strong } } :
              FCSSearchRow) := by
  intro o
  obtain ⟨hargs, -, hne, -, -⟩ := dispatch_ok deps a hd
  have hK1 := (readArgs_ok deps a hargs).2.2.2.2
  have hN : 0 < d.corpora.length := List.length_pos.mpr hne
  obtain ⟨c₀, hc₀⟩ := List.exists_mem_of_ne_nil _ hne
  have hsome : ¬ ∀ c ∈ d.corpora, (full (a.corporaConf.getRegistryPath c)).length ≤
      (d.args.startRecord - 1).toNat := fun h => by
    have := h c₀ hc₀
    have := hK c₀ hc₀
    rw [hs] at *
    omega
  rw [show o = ⟨statusOK, _, d.published, none⟩ from
    (searchRetrieve_page_merge deps a hd full hsome).trans (if_pos hcap)]
  simp only [hs, Int.sub_self, Int.toNat_zero, List.drop_zero]
  have hwin : ∀ q ∈ d.corpora.map (fun c => ((full (a.corporaConf.getRegistryPath c)).take
      d.args.maximumRecords.toNat).map (c, ·)), d.args.maximumRecords.toNat ≤ q.length := by
    simp only [List.mem_map]
    rintro _ ⟨c, hc, rfl⟩
    simpa using hK c hc
  have hlen := fun q hq => (hwin q hq).trans (length_le_length_roundRobin hq)
  refine ⟨trivial, trivial, by simpa using hlen _ (List.mem_map_of_mem _ hc₀), fun j hj => ?_⟩
  rw [getElem?_mergedRows, List.getElem?_take_of_lt hj,
    getElem?_roundRobin hwin (by
      simpa only [List.length_map] using Nat.lt_of_lt_of_le hj (Nat.le_mul_of_pos_left _ hN))]
  simp only [List.length_map, List.getElem?_map]
  cases d.corpora[j % d.corpora.length]? with
  | none => rfl
  | some c =>
    have hjK : j / d.corpora.length < d.args.maximumRecords.toNat :=
      lt_of_le_of_lt (Nat.div_le_self _ _) hj
    simp [List.getElem?_take_of_lt hjK]
    rfl

end FirstPage

/-- The first page of two records over two corpora of two rows each: the second record
is `b`'s first row. -/
theorem searchRetrieve_first_page_two_corpora :
    let h := exampleHandler [exampleCorpus "a" true, exampleCorpus "b" true]
    let keys := [searchRetrArgQuery, searchMaximumRecords]
    let url : URLQuery := ⟨[(searchRetrArgQuery, "x"), (searchMaximumRecords, "2")]⟩
    let jobs : List Query := ["a", "b"].map fun c =>
      ⟨"concExample", ⟨"/reg/" ++ c, "[word=\"x\"]", ["word"], 0, 2⟩⟩
    let d : Dispatched := ⟨⟨[], "x", 1, []⟩, ⟨"x", 1, 2⟩, ["a", "b"], jobs⟩
    dispatch specDeps h keys url emptyResponse = .ok d ∧ d.args.startRecord = 1 ∧
      d.args.maximumRecords.toNat ≤ maxSearchRows ∧
      (∀ c ∈ d.corpora,
        d.args.maximumRecords.toNat ≤ (twoRows (h.corporaConf.getRegistryPath c)).length) ∧
      (searchRetrieve specDeps roundRobinLineSel h keys url (workerReplies twoRows d.published)
          emptyResponse).response.results[1]? = some ⟨2, "b", "urn:b", [⟨"/reg/b#1", true⟩]⟩ := by
  intro h keys url jobs d
  have hd : dispatch specDeps h keys url emptyResponse = .ok d := rfl
  have hcap : d.args.maximumRecords.toNat ≤ maxSearchRows := by decide
  have hK : ∀ c ∈ d.corpora,
      d.args.maximumRecords.toNat ≤ (twoRows (h.corporaConf.getRegistryPath c)).length := by
    decide
  refine ⟨hd, rfl, hcap, hK,
    ((searchRetrieve_first_page specDeps h hd twoRows rfl hcap hK).2.2.2 1 (by decide)).trans ?_⟩
  decide

end MqueryFcs
