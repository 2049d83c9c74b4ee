import Mathlib.Data.List.Basic

/-!
# MqueryFcs.Main.Lifecycle

**How a running server or worker stops** (`main.go`: `main`, lines 233-264, and
`runApiServer`, lines 86-102). The older `main.go` has the same relay and channels (lines
189-223); between the test and `runApiServer` it also opens a database, which can only
add one more `log.Fatal`.

Once the configuration is validated, `main` subscribes the one-slot channel `syscallChan`
to `os.Interrupt` and `SIGTERM` and starts a relay goroutine:

    evt := <-syscallChan; testConnCancel <- true; close(testConnCancel); exitEvent <- evt

Both `testConnCancel` and `exitEvent` are unbuffered. `main` then runs
`radapter.TestConnection(20*time.Second, testConnCancel)`. When that returns `nil`,
`runApiServer` starts the listener goroutine (`srv.ListenAndServe()`, then
`syscallChan <- syscall.SIGTERM`) and waits in `select` on `exitEvent` before it calls
`srv.Shutdown`; the worker action hands `exitEvent` to the worker instead.

The model is a step function on the three goroutines and the buffer of `syscallChan`,
with one `Event` for each thing that can happen next, so a run is any interleaving:

* an unbuffered send is one joint step of sender and receiver;
* `signal.Notify` never blocks: a signal that finds the buffer full is dropped;
* `TestConnection` is not among the sources. It may return by itself, with `nil` or an
  error, or take the relay's value from `testConnCancel` and then return; it reads the
  channel only while it runs;
* once `main` returns or `log.Fatal` exits, no goroutine moves again.

The results:

* `Inv` holds in every reachable state (`Inv.run`): the relay is past `testConnCancel`
  only if `TestConnection` took its value, and `main` stops only after the relay has
  delivered on `exitEvent`.
* `run_main_of_started`: once the server (or worker) runs after a test that was not
  cancelled, no continuation moves `main` again. A signal is taken by the relay, which
  then blocks on `testConnCancel` for good, so `exitEvent` is never sent and
  `srv.Shutdown` never runs; the listener's own `SIGTERM` meets the same relay.
* `cancelled_of_stopped`: a run ends in a graceful stop only if `TestConnection` returned
  `nil` after taking the relay's value.
-/

namespace MqueryFcs

namespace Lifecycle

/-! ## Goroutines, channels and events -/

/-- The signals `syscallChan` is subscribed to (lines 235-236). -/
inductive Signal
  | interrupt
  | sigterm
  deriving Repr, DecidableEq

/-- The two actions that reach the connection test (lines 250-261). -/
inductive Role
  | server
  | worker
  deriving Repr, DecidableEq

/-- Where `main`'s goroutine is. -/
inductive MainAt
  /-- In `radapter.TestConnection(20*time.Second, testConnCancel)`. -/
  | testing
  /-- In `runApiServer`'s `select` on `exitEvent`. -/
  | serving
  /-- In `runWorker`: the worker runs, holding `exitEvent`. -/
  | working
  /-- `exitEvent` received: the server shut down or the worker stopped; `main` returned. -/
  | stopped
  /-- `log.Fatal` ended the process. -/
  | fatal
  deriving Repr, DecidableEq

/-- Where the relay goroutine of lines 239-245 is. -/
inductive RelayAt
  /-- `evt := <-syscallChan`. -/
  | awaitSignal
  /-- `testConnCancel <- true`, holding `evt`. -/
  | sendCancel (evt : Signal)
  /-- `exitEvent <- evt`. -/
  | sendExit (evt : Signal)
  | done
  deriving Repr, DecidableEq

/-- Whether the relay has got past `testConnCancel <- true`. -/
def RelayAt.pastCancel : RelayAt → Bool
  | .sendExit _ | .done => true
  | _ => false

/-- Where the listener goroutine of `runApiServer` (lines 86-92) is. -/
inductive ListenerAt
  /-- Not started: `runApiServer` has not run. -/
  | idle
  /-- In `srv.ListenAndServe()`. -/
  | listening
  /-- `syscallChan <- syscall.SIGTERM`. -/
  | sendTerm
  | done
  deriving Repr, DecidableEq

/-- The process from the connection test on. -/
structure Proc where
  main : MainAt
  relay : RelayAt
  listener : ListenerAt
  /-- The one slot of `syscallChan := make(chan os.Signal, 1)`. -/
  syscallChan : Option Signal
  /-- Whether `TestConnection` took the relay's value from `testConnCancel`: a history
  variable, which no code reads. -/
  cancelTaken : Bool
  deriving Repr, DecidableEq

/-- What can happen next. -/
inductive Event
  /-- The runtime delivers a signal to `syscallChan` (`signal.Notify`). -/
  | notify (sig : Signal)
  /-- The relay receives from `syscallChan`. -/
  | relayRecv
  /-- `TestConnection` returns by itself: `nil` when `ok`, else an error. -/
  | testReturns (ok : Bool)
  /-- `TestConnection` receives from `testConnCancel`, then returns (`nil` when `ok`). -/
  | testCancelled (ok : Bool)
  /-- `srv.ListenAndServe()` returns. -/
  | listenReturns
  /-- The listener sends `SIGTERM` to `syscallChan`. -/
  | listenerSend
  /-- `main`, or the worker, receives from `exitEvent`. -/
  | exitRecv
  deriving Repr, DecidableEq

/-- Whether `main` takes part in the event. -/
def Event.movesMain : Event → Bool
  | .testReturns _ | .testCancelled _ | .exitRecv => true
  | _ => false

namespace Proc

/-- Lines 234-251: the state when the connection test starts. -/
def init : Proc := ⟨.testing, .awaitSignal, .idle, none, false⟩

/-- Whether the process still runs: `main` has neither returned nor called `log.Fatal`. -/
def running (p : Proc) : Bool :=
  match p.main with
  | .stopped | .fatal => false
  | _ => true

/-- Lines 251-261: `TestConnection` returned. On `nil` the role's work starts
(`runApiServer` starts the listener); on an error `log.Fatal` ends the process. -/
def afterTest (r : Role) (ok : Bool) (p : Proc) : Proc :=
  if ok then
    match r with
    | .server => { p with main := .serving, listener := .listening }
    | .worker => { p with main := .working }
  else { p with main := .fatal }

/-- One event, when it can happen; otherwise nothing changes. -/
def step (r : Role) (p : Proc) : Event → Proc
  | .notify sig =>
    match p.running, p.syscallChan with
    | true, none => { p with syscallChan := some sig }
    | _, _ => p
  | .relayRecv =>
    match p.running, p.relay, p.syscallChan with
    | true, .awaitSignal, some evt => { p with relay := .sendCancel evt, syscallChan := none }
    | _, _, _ => p
  | .testReturns ok =>
    match p.main with
    | .testing => afterTest r ok p
    | _ => p
  | .testCancelled ok =>
    match p.main, p.relay with
    | .testing, .sendCancel evt =>
      afterTest r ok { p with relay := .sendExit evt, cancelTaken := true }
    | _, _ => p
  | .listenReturns =>
    match p.running, p.listener with
    | true, .listening => { p with listener := .sendTerm }
    | _, _ => p
  | .listenerSend =>
    match p.running, p.listener, p.syscallChan with
    | true, .sendTerm, none => { p with listener := .done, syscallChan := some .sigterm }
    | _, _, _ => p
  | .exitRecv =>
    match p.main, p.relay with
    | .serving, .sendExit _ | .working, .sendExit _ => { p with main := .stopped, relay := .done }
    | _, _ => p

/-- A run: the events, in order. -/
def run (r : Role) (p : Proc) (trace : List Event) : Proc :=
  trace.foldl (step r) p

@[simp] theorem run_nil (r : Role) (p : Proc) : run r p [] = p := rfl

@[simp] theorem run_cons (r : Role) (p : Proc) (e : Event) (trace : List Event) :
    run r p (e :: trace) = run r (step r p e) trace := rfl

theorem run_append (r : Role) (p : Proc) (t₁ t₂ : List Event) :
    run r p (t₁ ++ t₂) = run r (run r p t₁) t₂ :=
  List.foldl_append _ _ _ _

/-! ## The invariant -/

/-- What holds in every reachable state. -/
structure Inv (p : Proc) : Prop where
  /-- The relay is past `testConnCancel` only if `TestConnection` took its value. -/
  handed : p.relay.pastCancel = true → p.cancelTaken = true
  /-- `main` stops only once the relay has delivered on `exitEvent`. -/
  stopped : p.main = .stopped → p.relay = .done

theorem inv_init : Inv init := ⟨nofun, nofun⟩

/-! ## What one step can do -/

section Step

variable {r : Role} {ok : Bool} {p : Proc}

@[simp] theorem afterTest_relay : (afterTest r ok p).relay = p.relay := by
  cases ok <;> cases r <;> rfl

@[simp] theorem afterTest_cancelTaken : (afterTest r ok p).cancelTaken = p.cancelTaken := by
  cases ok <;> cases r <;> rfl

@[simp] theorem afterTest_false : afterTest r false p = { p with main := .fatal } := rfl

theorem afterTest_main_ne_stopped : (afterTest r ok p).main ≠ .stopped := by
  cases ok <;> cases r <;> simp [afterTest]

/-- A step that `main` takes part in needs `main` at that point; the others need the
process running. So a stopped or failed process stays as it is. -/
theorem step_of_not_running (h : p.running = false) (e : Event) : step r p e = p := by
  have hm : p.main ≠ .testing ∧ p.main ≠ .serving ∧ p.main ≠ .working := by
    unfold running at h; split at h <;> simp_all
  obtain ⟨ht, hs, hw⟩ := hm
  cases e <;> simp only [step, h] <;> split <;> simp_all

/-- Every step keeps the invariant. -/
theorem Inv.step (h : Inv p) (e : Event) : Inv (step r p e) := by
  cases e with
  | relayRecv =>
    simp only [Proc.step]; split
    · exact ⟨nofun, fun hs => by simp_all [running]⟩
    · exact h
  | testReturns ok =>
    simp only [Proc.step]; split
    · exact ⟨by simpa using h.handed, fun hs => absurd hs afterTest_main_ne_stopped⟩
    · exact h
  | testCancelled ok =>
    simp only [Proc.step]; split
    · exact ⟨fun _ => by simp, fun hs => absurd hs afterTest_main_ne_stopped⟩
    · exact h
  | exitRecv =>
    simp only [Proc.step]; split
    all_goals first
      | exact h
      | exact ⟨fun _ => h.handed (by simp_all [RelayAt.pastCancel]), fun _ => rfl⟩
  | _ => simp only [Proc.step]; split <;> exact ⟨h.handed, h.stopped⟩

/-- **Frame.** An event `main` takes no part in moves neither `main` nor the history. -/
theorem step_frame {e : Event} (he : e.movesMain = false) :
    (step r p e).main = p.main ∧ (step r p e).cancelTaken = p.cancelTaken := by
  cases e <;> cases he <;> simp only [Proc.step] <;> split <;> exact ⟨rfl, rfl⟩

/-- **Guard.** Out of the test, and with the relay short of `exitEvent`, no event that
`main` takes part in can happen. -/
theorem step_eq_self_of_guard (hnt : p.main ≠ .testing) (hr : p.relay.pastCancel = false)
    {e : Event} (he : e.movesMain = true) : step r p e = p := by
  cases e <;> cases he <;> simp only [Proc.step] <;> split <;> simp_all [RelayAt.pastCancel]

/-- Once the server or worker runs with the cancel not taken, no event moves `main`:
the test is over, and `exitEvent` has no sender. -/
theorem step_of_started (h : Inv p) (hm : p.main = .serving ∨ p.main = .working)
    (hc : p.cancelTaken = false) (e : Event) :
    (step r p e).main = p.main ∧ (step r p e).cancelTaken = false := by
  cases he : e.movesMain
  · exact hc ▸ step_frame he
  have hnt : p.main ≠ .testing := by rcases hm with hm | hm <;> simp [hm]
  have hr : p.relay.pastCancel = false := by
    cases hp : p.relay.pastCancel
    · rfl
    · simp [h.handed hp] at hc
  rw [step_eq_self_of_guard hnt hr he]
  exact ⟨rfl, hc⟩

/-- Without a cancelled test that returns `nil`, a taken cancel stays with a failed
process. -/
theorem step_clean (h : p.cancelTaken = true → p.main = .fatal) {e : Event}
    (he : e ≠ .testCancelled true) :
    (step r p e).cancelTaken = true → (step r p e).main = .fatal := by
  cases hc : p.cancelTaken
  · cases e <;> simp only [Proc.step] <;> split <;> simp_all
  · rw [step_of_not_running (by simp [running, h hc])]
    exact h

end Step

/-! ## Runs -/

section Runs

variable {r : Role}

theorem Inv.run {p : Proc} (h : Inv p) : ∀ trace, Inv (Proc.run r p trace)
  | [] => h
  | e :: es => (h.step e).run es

/-- From a running server or worker with the cancel not taken, `main` never moves. -/
theorem run_of_started {p : Proc} (h : Inv p) (hm : p.main = .serving ∨ p.main = .working)
    (hc : p.cancelTaken = false) : ∀ trace, (Proc.run r p trace).main = p.main
  | [] => rfl
  | e :: es => by
    obtain ⟨hm', hc'⟩ := step_of_started (r := r) h hm hc e
    rw [run_cons, run_of_started (h.step e) (hm' ▸ hm) hc' es, hm']

/-- Without a cancelled test that returns `nil`, a taken cancel stays with a failed process
along the whole run. -/
theorem run_clean {p : Proc} (h : p.cancelTaken = true → p.main = .fatal) :
    ∀ trace, Event.testCancelled true ∉ trace →
      (Proc.run r p trace).cancelTaken = true → (Proc.run r p trace).main = .fatal
  | [] => fun _ => h
  | _ :: es => fun hn =>
    run_clean (step_clean h fun he => hn (he ▸ List.mem_cons_self _ _)) es
      fun h' => hn (List.mem_cons_of_mem _ h')

end Runs

/-- **A graceful stop needs a cancelled test that returned `nil`.** In every run from the
start of the connection test, `main` receives from `exitEvent` only if `TestConnection`
took the relay's value from `testConnCancel` and still returned `nil`. -/
theorem cancelled_of_stopped (r : Role) (trace : List Event)
    (h : (run r init trace).main = .stopped) : Event.testCancelled true ∈ trace := by
  by_contra hn
  have hinv := inv_init.run (r := r) trace
  have hfatal := run_clean (p := init) nofun trace hn
    (hinv.handed (by rw [hinv.stopped h]; rfl))
  rw [h] at hfatal
  cases hfatal

/-- A signal during the test, a cancelled test that returns `nil`, and the server stops. -/
theorem stopped_after_cancelled_test :
    let trace := [.notify .sigterm, .relayRecv, .testCancelled true, .exitRecv]
    (run .server init trace).main = .stopped ∧ Event.testCancelled true ∈ trace :=
  ⟨rfl, cancelled_of_stopped .server _ rfl⟩

/-- **Once running, never stopped.** After a run in which the connection test was not
cancelled and the server (or worker) started, no continuation moves `main` again, whatever
signals arrive and whatever the listener does: the relay takes the first signal and blocks
on `testConnCancel`, which nothing reads any more, so `exitEvent` is never sent and
`srv.Shutdown` never runs. -/
theorem run_main_of_started (r : Role) (trace more : List Event)
    (hm : (run r init trace).main = .serving ∨ (run r init trace).main = .working)
    (hc : Event.testCancelled true ∉ trace) :
    (run r init (trace ++ more)).main = (run r init trace).main := by
  have hinv := inv_init.run (r := r) trace
  have hc' : (run r init trace).cancelTaken = false := by
    cases h : (run r init trace).cancelTaken
    · rfl
    · have := run_clean (p := init) nofun trace hc h
      rcases hm with hm | hm <;> rw [hm] at this <;> cases this
  rw [run_append]
  exact run_of_started hinv hm hc' more

/-- The server starts; then SIGTERM, the relay's receive, the listener's failure and its
own SIGTERM, an interrupt and a receive on `exitEvent`: the server still serves. -/
theorem serving_after_signals :
    let trace := [.testReturns true]
    let more := [.notify .sigterm, .relayRecv, .listenReturns, .listenerSend,
      .notify .interrupt, .exitRecv]
    (run .server init trace).main = .serving ∧ Event.testCancelled true ∉ trace ∧
      (run .server init (trace ++ more)).main = .serving :=
  ⟨rfl, by decide, run_main_of_started .server _ _ (.inl rfl) (by decide)⟩

end Proc

end Lifecycle

end MqueryFcs
