import MqueryFcs.Handler.SpecDeps

/-!
# MqueryFcs.Handler.Collect

The collection phase of `searchRetrieve` (lines 220-263): the replies are awaited in index
order, each either ends the request or seeds the selector, and the seeded selector is then
checked for "every corpus out of range" and for a fatal error.

The loop is read once, for every selector (`collectResults_eq`): it stops at the lowest
fatal reply, a reply that does not decode or carries an error other than the out-of-range
sentinel, and otherwise seeds the selector with every reply. On the selector of spec §4.5
the seeded error slots are exactly the out-of-range replies (`errs_seedAll_new`), so
the classification that follows is decided by the replies alone (`awaitResults_classify`),
and the fatal-error branch is dead: the loop records only the sentinel. Nor can
`GetFirstError().Error()` panic there: when every slot holds the sentinel, the first does.
-/

namespace MqueryFcs

/-! ## Replies -/

namespace WorkerResult

/-- A reply the collection loop cannot go on from: it does not decode, or it carries an
error other than the out-of-range sentinel. -/
def IsFatal : WorkerResult → Bool
  | .undecodable _ => true
  | .decoded r => match r.err with
    | some e => e != errRowsRangeOutOfConc
    | none => false

/-- A reply that carries the out-of-range sentinel. -/
def IsOutOfRange : WorkerResult → Bool
  | .undecodable _ => false
  | .decoded r => r.err == some errRowsRangeOutOfConc

end WorkerResult

variable {σ : Type} (deps : Deps) (sel : LineSelector σ)

/-- The diagnostic a fatal reply ends the request with. -/
def fatalDiagnostic : WorkerResult → Nat × FCSError
  | .undecodable e => (statusInternalServerError, ⟨.generalSystemError, e, deps.asMessage .generalSystemError⟩)
  | .decoded r => (statusInternalServerError, ⟨.queryCannotProcess, r.error, deps.asMessage .queryCannotProcess⟩)

/-- What a non-fatal reply does to the selector: record the sentinel in slot `i` when it
carries it, and store its rows under the corpus name. -/
def seedStep (i : Nat) (rsc : String) : WorkerResult → σ → σ
  | .undecodable _, s => s
  | .decoded r, s =>
    if r.err = some errRowsRangeOutOfConc then sel.setRscLines rsc r (sel.rscSetErrorAt i errRowsRangeOutOfConc s)
    else sel.setRscLines rsc r s

/-- The selector seeded with the replies from the `i`-th on. -/
def seedAll (reply : Nat → WorkerResult) : Nat → List String → σ → σ
  | _, [], s => s
  | i, rsc :: rest, s => seedAll reply (i + 1) rest (seedStep sel i rsc (reply i) s)

/-- The replies awaited for `n` corpora from the `i`-th, in index order. -/
def replyVector (reply : Nat → WorkerResult) (i n : Nat) : List WorkerResult :=
  (List.range' i n).map reply

theorem collectStep_eq (i : Nat) (rsc : String) (raw : WorkerResult) (s : σ) :
    collectStep deps sel i rsc raw s =
      if raw.IsFatal then .error (fatalDiagnostic deps raw) else .ok (seedStep sel i rsc raw s) := by
  cases raw with
  | undecodable e => rfl
  | decoded r =>
    simp only [collectStep, deserializeConcExampleResult, WorkerResult.IsFatal, seedStep]
    cases h : r.err with
    | none => simp
    | some e =>
      by_cases he : e = errRowsRangeOutOfConc
      · simp [he]
      · have : r.error = e := by
          unfold ConcExampleResult.err at h; split at h <;> simp_all
        simp [he, fatalDiagnostic, this]

/-- **The loop, for every selector.** It ends at the lowest fatal reply with that reply's
diagnostic, and otherwise seeds the selector with every reply. -/
theorem collectResults_eq (reply : Nat → WorkerResult) (i : Nat) (cs : List String) (s : σ) :
    collectResults deps sel reply i cs s =
      match (replyVector reply i cs.length).find? WorkerResult.IsFatal with
      | some r => .error (fatalDiagnostic deps r)
      | none => .ok (seedAll sel reply i cs s) := by
  induction cs generalizing i s with
  | nil => rfl
  | cons rsc rest ih =>
    simp only [collectResults, collectStep_eq, replyVector, List.length_cons,
      List.range'_succ, List.map_cons, List.find?_cons]
    cases hf : (reply i).IsFatal
    · simp only [if_false, seedAll]
      exact ih (i + 1) _
    · rfl

/-- The classification of the replies: the lowest fatal reply decides; failing that,
every corpus out of range ends the request naming the sentinel; otherwise the request goes
on to the merge (`none`). -/
def classifyReplies (replies : List WorkerResult) : Option Stop :=
  match replies.find? WorkerResult.IsFatal with
  | some r => some (.refuse (fatalDiagnostic deps r))
  | none =>
    if replies.all WorkerResult.IsOutOfRange then
      some (.refuse (conformantUnprocessableEntity, ⟨.firstRecordPosOutOfRange,
        errRowsRangeOutOfConc, deps.asMessage .firstRecordPosOutOfRange⟩))
    else none

/-! ## The error slots of the spec's selector -/

namespace RoundRobinLineSel

/-- The error slots, in corpus-list order. -/
def errs (s : RoundRobinLineSel) : List (Option String) :=
  s.rscs.map (·.err)

@[simp] theorem errs_new (maxLines : Int) (corpora : List String) :
    (new maxLines corpora).errs = List.replicate corpora.length none := by
  simp only [errs, new, List.map_map]
  exact List.map_const' _ _

@[simp] theorem errs_setRscLines (rsc : String) (r : ConcExampleResult) (s : RoundRobinLineSel) :
    (setRscLines rsc r s).errs = s.errs := by
  simp only [errs, setRscLines, List.map_map]
  congr 1; funext r'; simp only [Function.comp]; split <;> rfl

@[simp] theorem errs_rscSetErrorAt (i : Nat) (e : String) (s : RoundRobinLineSel) :
    (rscSetErrorAt i e s).errs = s.errs.set i (some e) := by
  apply List.ext_getElem?
  intro j
  simp only [errs, rscSetErrorAt, List.getElem?_map, List.getElem?_modify, List.getElem?_set]
  by_cases hij : i = j
  · subst hij
    by_cases hl : i < s.rscs.length
    · simp [List.getElem?_eq_getElem hl, hl]
    · simp [List.getElem?_eq_none (Nat.le_of_not_lt hl), hl]
  · simp [hij]

theorem allHasOutOfRangeError_eq (s : RoundRobinLineSel) :
    s.allHasOutOfRangeError = s.errs.all (· = some errRowsRangeOutOfConc) := by
  simp only [allHasOutOfRangeError, errs]
  induction s.rscs <;> simp_all

theorem hasFatalError_eq (s : RoundRobinLineSel) :
    s.hasFatalError = s.errs.any fun e => e.isSome && e != some errRowsRangeOutOfConc := by
  simp only [hasFatalError, errs]
  induction s.rscs <;> simp_all

theorem getFirstError_eq (s : RoundRobinLineSel) : s.getFirstError = s.errs.findSome? id := by
  simp [getFirstError, errs, List.findSome?_map, Function.comp_def]

end RoundRobinLineSel

/-- The error slots once the replies below `k` are seeded: the sentinel exactly where a
reply carried it. -/
def seededErrs (reply : Nat → WorkerResult) (n k : Nat) : List (Option String) :=
  (List.range n).map fun j => if j < k ∧ (reply j).IsOutOfRange then some errRowsRangeOutOfConc else none

theorem errs_seedStep (i : Nat) (rsc : String) (raw : WorkerResult) (s : RoundRobinLineSel) :
    (seedStep roundRobinLineSel i rsc raw s).errs =
      if raw.IsOutOfRange then s.errs.set i (some errRowsRangeOutOfConc) else s.errs := by
  cases raw with
  | undecodable => rfl
  | decoded r =>
    by_cases h : r.err = some errRowsRangeOutOfConc <;>
      simp [seedStep, WorkerResult.IsOutOfRange, h, roundRobinLineSel]

theorem seededErrs_succ (reply : Nat → WorkerResult) {n k : Nat} (hk : k < n) :
    seededErrs reply n (k + 1) =
      if (reply k).IsOutOfRange then (seededErrs reply n k).set k (some errRowsRangeOutOfConc)
      else seededErrs reply n k := by
  apply List.ext_getElem (by split <;> simp [seededErrs])
  intro j h₁ h₂
  by_cases hjk : j = k
  · subst hjk
    split <;> simp_all [seededErrs, List.getElem_set]
  · have hlt : j < k + 1 ↔ j < k := by omega
    split <;> simp [seededErrs, List.getElem_set, hlt, Ne.symm hjk]

/-- **The loop invariant on the error slots.** -/
theorem errs_seedAll (reply : Nat → WorkerResult) (n : Nat) :
    ∀ (i : Nat) (cs : List String) (s : RoundRobinLineSel), i + cs.length ≤ n →
      s.errs = seededErrs reply n i →
      (seedAll roundRobinLineSel reply i cs s).errs = seededErrs reply n (i + cs.length)
  | i, [], s, _, hs => hs
  | i, rsc :: rest, s, hlen, hs => by
    simp only [List.length_cons] at hlen
    rw [seedAll, errs_seedAll reply n (i + 1) rest _ (by omega), List.length_cons]
    · congr 1; omega
    · rw [errs_seedStep, hs, seededErrs_succ reply (by omega)]

theorem errs_seedAll_new (reply : Nat → WorkerResult) (maxLines : Int) (corpora : List String) :
    (seedAll roundRobinLineSel reply 0 corpora (RoundRobinLineSel.new maxLines corpora)).errs =
      seededErrs reply corpora.length corpora.length := by
  simpa using errs_seedAll reply corpora.length 0 corpora _ (by simp)
    (by simp [seededErrs, List.map_const'])

theorem seededErrs_all (reply : Nat → WorkerResult) (n : Nat) :
    (seededErrs reply n n).all (· = some errRowsRangeOutOfConc) =
      (replyVector reply 0 n).all WorkerResult.IsOutOfRange := by
  rw [Bool.eq_iff_iff, List.all_eq_true, List.all_eq_true, replyVector, ← List.range_eq_range']
  simp only [seededErrs, List.mem_map, List.mem_range, forall_exists_index, and_imp,
    forall_apply_eq_imp_iff₂]
  exact forall₂_congr fun j hj => by simp [hj]

theorem seededErrs_not_fatal (reply : Nat → WorkerResult) (n k : Nat) :
    (seededErrs reply n k).any (fun e => e.isSome && e != some errRowsRangeOutOfConc) = false := by
  simp only [seededErrs, List.any_eq_false, List.mem_map]
  rintro e ⟨j, -, rfl⟩
  split <;> simp

theorem seededErrs_findSome {reply : Nat → WorkerResult} {n : Nat} (hn : 0 < n)
    (h : (replyVector reply 0 n).all WorkerResult.IsOutOfRange) :
    (seededErrs reply n n).findSome? id = some errRowsRangeOutOfConc := by
  obtain ⟨m, rfl⟩ := Nat.exists_eq_add_of_lt hn
  have h0 : (reply 0).IsOutOfRange := by
    simpa [replyVector, List.range'_succ] using (List.all_eq_true.mp h) (reply 0)
  simp [seededErrs, List.range_succ_eq_map, h0]

/-- The seeded selector never holds a fatal error. -/
theorem hasFatalError_seedAll_new (reply : Nat → WorkerResult) (maximumRecords : Int)
    (corpora : List String) :
    (seedAll roundRobinLineSel reply 0 corpora
      (RoundRobinLineSel.new maximumRecords corpora)).hasFatalError = false := by
  rw [RoundRobinLineSel.hasFatalError_eq, errs_seedAll_new, seededErrs_not_fatal]

/-- Collection and classification on the spec's selector, as `classifyReplies` states it. -/
theorem awaitResults_eq_classify (maximumRecords : Int) {corpora : List String}
    (hN : corpora ≠ []) (reply : Nat → WorkerResult) :
    awaitResults deps roundRobinLineSel maximumRecords corpora reply =
      match classifyReplies deps (replyVector reply 0 corpora.length) with
      | some e => .error e
      | none => .ok (seedAll roundRobinLineSel reply 0 corpora
          (RoundRobinLineSel.new maximumRecords corpora)) := by
  have herrs := errs_seedAll_new reply maximumRecords corpora
  have hfatal := hasFatalError_seedAll_new reply maximumRecords corpora
  unfold awaitResults classifyReplies
  rw [collectResults_eq]
  cases hf : (replyVector reply 0 corpora.length).find? WorkerResult.IsFatal with
  | some r => rfl
  | none =>
    have hall := RoundRobinLineSel.allHasOutOfRangeError_eq
      (seedAll roundRobinLineSel reply 0 corpora (RoundRobinLineSel.new maximumRecords corpora))
    rw [herrs, seededErrs_all] at hall
    simp only [roundRobinLineSel_allHasOutOfRangeError, roundRobinLineSel_hasFatalError,
      roundRobinLineSel_getFirstError, roundRobinLineSel_newRoundRobinLineSel] at hall hfatal ⊢
    rw [hall, hfatal]
    split
    · rename_i hout
      rw [firstErrorStop, roundRobinLineSel_getFirstError, RoundRobinLineSel.getFirstError_eq,
        herrs, seededErrs_findSome (List.length_pos.mpr hN) hout]
    · rfl

/-- **Collection and classification on the spec's selector.** For `N ≥ 1` corpora, the
outcome is decided by the reply vector alone, as `classifyReplies` states it: the lowest
fatal reply, else "all out of range", else the merge with the seeded selector; and that
selector never holds a fatal error, so the `HasFatalError` branch is never taken. -/
theorem awaitResults_classify (maximumRecords : Int) (corpora : List String) (hN : corpora ≠ [])
    (reply : Nat → WorkerResult) :
    awaitResults deps roundRobinLineSel maximumRecords corpora reply =
      (match classifyReplies deps (replyVector reply 0 corpora.length) with
       | some e => .error e
       | none => .ok (seedAll roundRobinLineSel reply 0 corpora
          (RoundRobinLineSel.new maximumRecords corpora))) ∧
    (seedAll roundRobinLineSel reply 0 corpora
      (RoundRobinLineSel.new maximumRecords corpora)).hasFatalError = false :=
  ⟨awaitResults_eq_classify deps maximumRecords hN reply,
    hasFatalError_seedAll_new reply maximumRecords corpora⟩

/-- Two corpora that both report out of range end the request with the sentinel. -/
theorem awaitResults_classify_both_out_of_range :
    ["a", "b"] ≠ [] ∧
      awaitResults specDeps roundRobinLineSel 10 ["a", "b"]
          (fun _ => .decoded ⟨[], errRowsRangeOutOfConc⟩) =
        .error (.refuse (conformantUnprocessableEntity, ⟨.firstRecordPosOutOfRange,
          errRowsRangeOutOfConc, "DCFirstRecordPosOutOfRange"⟩)) :=
  ⟨by decide, by rw [(awaitResults_classify specDeps 10 ["a", "b"] (by decide) _).1]; rfl⟩

end MqueryFcs
