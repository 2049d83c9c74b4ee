import MqueryFcs.General

/-!
# MqueryFcs.Result.LineSel

The round-robin line selector `searchRetrieve` seeds with the workers' replies and then
drains page by page (`result.RoundRobinLineSel`).

The selector's package is not among the sources. The handler is therefore modelled over
`LineSelector`, the operations it calls on the selector, so that what is proved of the
handler holds for every selector; `roundRobinLineSel` is the selector spec §4.5 describes,
the instance the results about error slots and interleaving are stated for.

* `LineSelector.yields`, `LineSelector.drive`: what `n` calls of `Next()` hand out, and the
  state they leave;
* `LineSelector.Seeded`: the states a freshly built selector reaches before it is drained,
  and `LineSelector.NamesFrom`, "a selector yields only names from the corpora list it
  was built with";
* `RoundRobinLineSel`: one slot per corpus (rows, row index, error) and the global cursor.
-/

namespace MqueryFcs

/-- The selector operations `searchRetrieve` calls, over the selector's state `σ`. -/
structure LineSelector (σ : Type) where
  /-- `NewRoundRobinLineSel(maxLines, corpora...)`. -/
  newRoundRobinLineSel : Int → List String → σ
  /-- `RscSetErrorAt(i, err)`: record an error in the `i`-th corpus's slot. -/
  rscSetErrorAt : Nat → String → σ → σ
  /-- `SetRscLines(rsc, result)`: store a corpus's reply. -/
  setRscLines : String → ConcExampleResult → σ → σ
  allHasOutOfRangeError : σ → Bool
  hasFatalError : σ → Bool
  /-- `GetFirstError()`, `none` standing for a nil error. -/
  getFirstError : σ → Option String
  /-- `Next()`: whether a line was found, and the state after the call. -/
  next : σ → Bool × σ
  currRscName : σ → String
  currLine : σ → ConcLine

namespace LineSelector

variable {σ : Type} (sel : LineSelector σ)

/-- The lines `n` calls of `Next()` hand out, each with the corpus current after its call;
the calls stop at the first `false`. -/
def yields : Nat → σ → List (String × ConcLine)
  | 0, _ => []
  | n + 1, s =>
    let r := sel.next s
    if r.1 then (sel.currRscName r.2, sel.currLine r.2) :: yields n r.2 else []

/-- The state after `n` calls of `Next()`, stopping after the first call that returns
`false`. -/
def drive : Nat → σ → σ
  | 0, s => s
  | n + 1, s =>
    let r := sel.next s
    if r.1 then drive n r.2 else r.2

/-- The states a selector built from `corpora` is in before it is drained: the new
selector, updated by any number of `RscSetErrorAt` and `SetRscLines`. -/
inductive Seeded (maxLines : Int) (corpora : List String) : σ → Prop
  | new : Seeded maxLines corpora (sel.newRoundRobinLineSel maxLines corpora)
  | setError {s : σ} (i : Nat) (e : String) :
      Seeded maxLines corpora s → Seeded maxLines corpora (sel.rscSetErrorAt i e s)
  | setLines {s : σ} (rsc : String) (r : ConcExampleResult) :
      Seeded maxLines corpora s → Seeded maxLines corpora (sel.setRscLines rsc r s)

/-- The selector only ever yields names from the corpora list it was built with. -/
def NamesFrom : Prop :=
  ∀ maxLines corpora s, sel.Seeded maxLines corpora s →
    ∀ n, ∀ p ∈ sel.yields n s, p.1 ∈ corpora

variable {sel}

theorem yields_succ_of_next_true {s s' : σ} {n : Nat} (h : sel.next s = (true, s')) :
    sel.yields (n + 1) s = (sel.currRscName s', sel.currLine s') :: sel.yields n s' := by
  simp [yields, h]

theorem yields_succ_of_next_false {s s' : σ} {n : Nat} (h : sel.next s = (false, s')) :
    sel.yields (n + 1) s = [] := by
  simp [yields, h]

theorem drive_succ_of_next_true {s s' : σ} {n : Nat} (h : sel.next s = (true, s')) :
    sel.drive (n + 1) s = sel.drive n s' := by
  simp [drive, h]

theorem drive_succ_of_next_false {s s' : σ} {n : Nat} (h : sel.next s = (false, s')) :
    sel.drive (n + 1) s = s' := by
  simp [drive, h]

theorem length_yields_le (n : Nat) (s : σ) : (sel.yields n s).length ≤ n := by
  induction n generalizing s with
  | zero => simp [yields]
  | succ n ih =>
    rcases h : sel.next s with ⟨b, s'⟩
    cases b
    · simp [yields_succ_of_next_false h]
    · simpa [yields_succ_of_next_true h] using ih s'

/-- Fewer calls hand out a prefix of what more calls hand out. -/
theorem yields_add_take (n k : Nat) (s : σ) :
    (sel.yields (n + k) s).take n = sel.yields n s := by
  induction n generalizing s with
  | zero => simp [yields]
  | succ n ih =>
    rcases h : sel.next s with ⟨b, s'⟩
    cases b
    · rw [Nat.succ_add, yields_succ_of_next_false h, yields_succ_of_next_false h]; rfl
    · rw [Nat.succ_add, yields_succ_of_next_true h, yields_succ_of_next_true h]
      simp [ih]

/-- If `Next()` returns `false` after `m` lines, then `n` calls hand out `min n m` lines. -/
theorem length_yields_of_stop {m : Nat} {s : σ} (hm : (sel.yields (m + 1) s).length = m)
    (n : Nat) : (sel.yields n s).length = min n m := by
  induction m generalizing s n with
  | zero =>
    rcases h : sel.next s with ⟨b, s'⟩
    cases b
    · cases n with
      | zero => simp [yields]
      | succ n => simp [yields_succ_of_next_false h]
    · simp [yields_succ_of_next_true h] at hm
  | succ m ih =>
    rcases h : sel.next s with ⟨b, s'⟩
    cases b
    · simp [yields_succ_of_next_false h] at hm
    · rw [yields_succ_of_next_true h] at hm
      cases n with
      | zero => simp [yields]
      | succ n =>
        rw [yields_succ_of_next_true h, List.length_cons, ih (by simpa using hm) n]
        omega

end LineSelector

/-! ## The round-robin selector of spec §4.5 -/

/-- Modelled from the spec: one corpus's slot of `result.RoundRobinLineSel` (§4.5): the
corpus, its rows, the index of its next row, and its error. -/
structure RscLines where
  rsc : String
  lines : List ConcLine
  idx : Nat
  err : Option String
  deriving Repr, DecidableEq

/-- Modelled from the spec: `result.RoundRobinLineSel` (§4.5): the slots in corpus-list
order, the global cursor `g`, and the slot the last `Next()` drew from. -/
structure RoundRobinLineSel where
  rscs : List RscLines
  cursor : Nat
  curr : Nat
  deriving Repr, DecidableEq

namespace RoundRobinLineSel

/-- Modelled from the spec: `NewRoundRobinLineSel(maxLines, corpora...)`, an empty slot per
corpus, cursor at `0`. The page size is not read by any operation of §4.5. -/
def new (_maxLines : Int) (corpora : List String) : RoundRobinLineSel :=
  ⟨corpora.map fun c => ⟨c, [], 0, none⟩, 0, 0⟩

/-- Modelled from the spec: `RscSetErrorAt(i, err)`, the error of slot `i`. -/
def rscSetErrorAt (i : Nat) (e : String) (s : RoundRobinLineSel) : RoundRobinLineSel :=
  { s with rscs := s.rscs.modify (fun r => { r with err := some e }) i }

/-- Modelled from the spec: `SetRscLines(rsc, result)`, the rows of every slot of that
corpus. -/
def setRscLines (rsc : String) (res : ConcExampleResult) (s : RoundRobinLineSel) :
    RoundRobinLineSel :=
  { s with rscs := s.rscs.map fun r => if r.rsc = rsc then { r with lines := res.lines } else r }

/-- Modelled from the spec: `AllHasOutOfRangeError()`, every slot holds the out-of-range
error. -/
def allHasOutOfRangeError (s : RoundRobinLineSel) : Bool :=
  s.rscs.all (·.err = some errRowsRangeOutOfConc)

/-- Modelled from the spec: `HasFatalError()`, some slot holds an error other than
out-of-range. -/
def hasFatalError (s : RoundRobinLineSel) : Bool :=
  s.rscs.any fun r => r.err.isSome && r.err != some errRowsRangeOutOfConc

/-- Modelled from the spec: `GetFirstError()`, the error of the lowest slot that has one
(`none` for Go's nil). -/
def getFirstError (s : RoundRobinLineSel) : Option String :=
  s.rscs.findSome? (·.err)

/-- Modelled from the spec: whether slot `j` still has a row to hand out. -/
def hasLineAt (s : RoundRobinLineSel) (j : Nat) : Bool :=
  match s.rscs[j]? with
  | some r => r.idx < r.lines.length
  | none => false

/-- Modelled from the spec: `Next()`, from the cursor, step forward (mod the number of
slots) to the first slot with a row left; draw from it and move the cursor past it.
`false` after a full pass finds none. -/
def next (s : RoundRobinLineSel) : Bool × RoundRobinLineSel :=
  let n := s.rscs.length
  match ((List.range n).map fun k => (s.cursor + k) % n).find? s.hasLineAt with
  | none => (false, s)
  | some j => (true, ⟨s.rscs.modify (fun r => { r with idx := r.idx + 1 }) j, (j + 1) % n, j⟩)

/-- Modelled from the spec: `CurrRscName()`, the corpus of the last `Next()`. -/
def currRscName (s : RoundRobinLineSel) : String :=
  (s.rscs[s.curr]?.map (·.rsc)).getD ""

/-- Modelled from the spec: `CurrLine()`, the row the last `Next()` drew. -/
def currLine (s : RoundRobinLineSel) : ConcLine :=
  (s.rscs[s.curr]?.bind fun r => r.lines[r.idx - 1]?).getD ⟨[]⟩

end RoundRobinLineSel

/-- Modelled from the spec: the selector of §4.5 as the handler sees it. -/
@[simps] def roundRobinLineSel : LineSelector RoundRobinLineSel where
  newRoundRobinLineSel := RoundRobinLineSel.new
  rscSetErrorAt := RoundRobinLineSel.rscSetErrorAt
  setRscLines := RoundRobinLineSel.setRscLines
  allHasOutOfRangeError := RoundRobinLineSel.allHasOutOfRangeError
  hasFatalError := RoundRobinLineSel.hasFatalError
  getFirstError := RoundRobinLineSel.getFirstError
  next := RoundRobinLineSel.next
  currRscName := RoundRobinLineSel.currRscName
  currLine := RoundRobinLineSel.currLine

end MqueryFcs
