import Mathlib.Data.List.Rotate
import Mathlib.Data.List.Perm.Basic
import MqueryFcs.Result.LineSel

/-!
# MqueryFcs.Result.RoundRobin

What the selector of spec §4.5 is for: it hands out the corpora's rows in **round-robin
order**. `roundRobin` is that order on a list of queues, in its textbook form: take the
head of the first queue and send the rest of that queue to the back; an empty queue drops
out. On the corpora's row lists it yields the first row of each corpus in corpus-list
order, then the second row of each corpus that has one, and so on.

The refinement `yields_eq_take_roundRobin` is a simulation. A selector state is abstracted
to the queues of rows its slots have still to hand out, rotated to start at the cursor
(`RoundRobinLineSel.pending`), and each `Next()` is one step of `roundRobin` on them
(`roundRobin_pending_of_next_true`). Two facts carry it: the cyclic search of `Next()`
over `(cursor + k) % n` is a rotation of `List.range n` (`map_cyclic_eq_rotate`), and the
queues a search skips are empty, so they can sit anywhere in the rotation without changing
the order (`roundRobin_append_nils_append`).
-/

namespace MqueryFcs

section RoundRobin

variable {α : Type}

/-- Round-robin interleaving of queues with `fuel` steps: the head of the first non-empty
queue, then the interleaving of the other queues followed by the rest of that one. -/
def roundRobinFuel : Nat → List (List α) → List α
  | 0, _ => []
  | _ + 1, [] => []
  | fuel + 1, [] :: qs => roundRobinFuel fuel qs
  | fuel + 1, (x :: q) :: qs => x :: roundRobinFuel fuel (qs ++ [q])

/-- Round-robin interleaving of queues. Each step drops an empty queue or hands out an
element, so `qs.flatten.length + qs.length` steps finish it. -/
def roundRobin (qs : List (List α)) : List α :=
  roundRobinFuel (qs.flatten.length + qs.length) qs

@[simp] theorem roundRobin_nil : roundRobin ([] : List (List α)) = [] := rfl

@[simp] theorem roundRobin_nil_cons (qs : List (List α)) :
    roundRobin ([] :: qs) = roundRobin qs := by
  rw [roundRobin, show ([] :: qs).flatten.length + ([] :: qs).length =
    qs.flatten.length + qs.length + 1 by simp; omega]
  rfl

@[simp] theorem roundRobin_cons_cons (x : α) (q : List α) (qs : List (List α)) :
    roundRobin ((x :: q) :: qs) = x :: roundRobin (qs ++ [q]) := by
  rw [roundRobin, show ((x :: q) :: qs).flatten.length + ((x :: q) :: qs).length =
    (qs ++ [q]).flatten.length + (qs ++ [q]).length + 1 by simp; omega]
  rfl

/-- Empty queues in front do not change the interleaving. -/
theorem roundRobin_nils_append {ys zs : List (List α)} (h : ∀ y ∈ ys, y = []) :
    roundRobin (ys ++ zs) = roundRobin zs := by
  induction ys with
  | nil => rfl
  | cons y ys ih =>
    obtain rfl := h y (List.mem_cons_self _ _)
    simpa using ih fun y hy => h y (List.mem_cons_of_mem _ hy)

/-- Empty queues anywhere do not change the interleaving. -/
theorem roundRobin_append_nils_append {ys : List (List α)} (h : ∀ y ∈ ys, y = []) :
    ∀ xs zs : List (List α), roundRobin (xs ++ ys ++ zs) = roundRobin (xs ++ zs)
  | [], zs => by simpa using roundRobin_nils_append h
  | [] :: xs, zs => by simpa using roundRobin_append_nils_append h xs zs
  | (x :: q) :: xs, zs => by
    simpa using roundRobin_append_nils_append h xs (zs ++ [q])
termination_by xs zs => (xs ++ zs).flatten.length + (xs ++ zs).length
decreasing_by
  all_goals simp_wf
  all_goals omega

/-- Every element of every queue comes out exactly once. -/
theorem roundRobin_perm_flatten : ∀ qs : List (List α), (roundRobin qs).Perm qs.flatten
  | [] => by simp
  | [] :: qs => by simpa using roundRobin_perm_flatten qs
  | (x :: q) :: qs => by
    rw [roundRobin_cons_cons, List.flatten_cons, List.cons_append]
    refine (roundRobin_perm_flatten (qs ++ [q])).trans ?_ |>.cons x
    simpa using List.perm_append_comm
termination_by qs => qs.flatten.length + qs.length
decreasing_by
  all_goals simp_wf
  all_goals omega

/-- The schedule holds every queue's elements, so it is at least as long as any queue. -/
theorem length_le_length_roundRobin {qs : List (List α)} {q : List α} (hq : q ∈ qs) :
    q.length ≤ (roundRobin qs).length :=
  (roundRobin_perm_flatten qs).length_eq ▸ (List.sublist_flatten_of_mem hq).length_le

/-- Queues that all have an element give up their heads first, in order, and go on from
behind the queues that follow them. -/
theorem roundRobin_round : ∀ (pre post : List (List α)), (∀ q ∈ pre, q ≠ []) →
    roundRobin (pre ++ post) = pre.flatMap (·.take 1) ++ roundRobin (post ++ pre.map (·.drop 1))
  | [], post, _ => by simp
  | [] :: _, _, h => absurd rfl (h [] (List.mem_cons_self _ _))
  | (x :: q) :: pre, post, h => by
    rw [List.cons_append, roundRobin_cons_cons, List.append_assoc,
      roundRobin_round pre (post ++ [q]) fun q' hq' => h q' (List.mem_cons_of_mem _ hq')]
    simp

theorem flatMap_take_one {qs : List (List α)} (h : ∀ q ∈ qs, q ≠ []) :
    (qs.flatMap (·.take 1)).length = qs.length ∧
      ∀ j : Nat, (qs.flatMap (·.take 1))[j]? = qs[j]?.bind fun q : List α => q[0]? := by
  induction qs with
  | nil => simp
  | cons q qs ih =>
    obtain ⟨x, q, rfl⟩ := List.exists_cons_of_ne_nil (h _ (List.mem_cons_self _ _))
    obtain ⟨hlen, hget⟩ := ih fun q' hq' => h q' (List.mem_cons_of_mem _ hq')
    refine ⟨by simp [hlen], fun j => ?_⟩
    cases j with
    | zero => simp
    | succ j => simpa using hget j

/-- **Rounds.** When every one of `N` queues holds at least `m` elements, the first `N * m`
elements of the interleaving come in `m` rounds: element `j` is element `j / N` of queue
`j % N`. -/
theorem getElem?_roundRobin {m : Nat} :
    ∀ {qs : List (List α)}, (∀ q ∈ qs, m ≤ q.length) → ∀ {j : Nat}, j < qs.length * m →
      (roundRobin qs)[j]? = qs[j % qs.length]?.bind fun q : List α => q[j / qs.length]? := by
  induction m with
  | zero => intro _ _ _ hj; simp at hj
  | succ m ih =>
    intro qs hm j hj
    have hne : ∀ q ∈ qs, q ≠ [] := fun q hq => List.ne_nil_of_length_pos (by have := hm q hq; omega)
    have hN : 0 < qs.length := by
      rcases Nat.eq_zero_or_pos qs.length with h | h
      · simp [h] at hj
      · exact h
    obtain ⟨hlen, hget⟩ := flatMap_take_one hne
    have hround := roundRobin_round qs [] hne
    rw [List.append_nil, List.nil_append] at hround
    rw [hround]
    by_cases hjN : j < qs.length
    · rw [List.getElem?_append_left (by omega), hget, Nat.mod_eq_of_lt hjN, Nat.div_eq_of_lt hjN]
    · have htail : ∀ q ∈ qs.map (·.drop 1), m ≤ q.length := by
        simp only [List.mem_map, forall_exists_index, and_imp, forall_apply_eq_imp_iff₂,
          List.length_drop]
        exact fun q hq => by have := hm q hq; omega
      have hjN' : qs.length ≤ j := by omega
      have hk : j - qs.length < (qs.map (·.drop 1)).length * m := by
        rw [List.length_map]; rw [Nat.mul_succ] at hj; omega
      have hdiv : j / qs.length = (j - qs.length) / qs.length + 1 := Nat.div_eq_sub_div hN hjN'
      rw [List.getElem?_append_right (by omega), hlen, ih htail hk, List.length_map,
        List.getElem?_map, ← Nat.mod_eq_sub_mod hjN', hdiv]
      cases qs[j % qs.length]? <;> simp [Nat.add_comm]

end RoundRobin

/-! ## The selector as a round-robin -/

/-- The rows slot `r` has still to hand out, each with its corpus. -/
def RscLines.pending (r : RscLines) : List (String × ConcLine) :=
  (r.lines.drop r.idx).map (r.rsc, ·)

namespace RoundRobinLineSel

/-- The pending queues of the slots, in the order `Next()` visits them from the cursor. -/
def pending (s : RoundRobinLineSel) : List (List (String × ConcLine)) :=
  (s.rscs.map RscLines.pending).rotate s.cursor

/-- The indices `Next()` searches, `(c + k) % n` for `k < n`, are `List.range n` rotated
by `c`. -/
theorem map_cyclic_eq_rotate (n c : Nat) :
    (List.range n).map (fun k => (c + k) % n) = (List.range n).rotate c := by
  apply List.ext_getElem (by simp)
  intro k h₁ h₂
  simp [List.getElem_rotate, Nat.add_comm]

theorem map_getD_range {β : Type} (l : List β) (d : β) :
    (List.range l.length).map (l.getD · d) = l := by
  apply List.ext_getElem (by simp)
  intro k h₁ h₂
  simp only [List.getElem_map, List.getElem_range, List.getD_eq_getElem?_getD,
    List.getElem?_eq_getElem h₂, Option.getD_some]

theorem rotate_eq_map_rotate_range {β : Type} (l : List β) (d : β) (c : Nat) :
    l.rotate c = ((List.range l.length).rotate c).map (l.getD · d) := by
  rw [List.map_rotate, map_getD_range]

theorem getD_pending_eq_nil_iff (s : RoundRobinLineSel) (j : Nat) :
    (s.rscs.map RscLines.pending).getD j [] = [] ↔ s.hasLineAt j = false := by
  simp only [List.getD_eq_getElem?_getD, List.getElem?_map, hasLineAt]
  cases s.rscs[j]? with
  | none => simp
  | some r => simp [RscLines.pending]

/-- Inversion of a successful `Next()`: the search skips the slots `as` (none has a row
left) and draws from slot `j`; the new state has advanced slot `j` and moved the cursor
past it. -/
theorem next_true_inv {s s' : RoundRobinLineSel} (h : s.next = (true, s')) :
    ∃ j as bs r, (List.range s.rscs.length).rotate s.cursor = as ++ j :: bs ∧
      (∀ a ∈ as, s.hasLineAt a = false) ∧ s.rscs[j]? = some r ∧ r.idx < r.lines.length ∧
      s' = ⟨s.rscs.modify (fun r => { r with idx := r.idx + 1 }) j,
        (j + 1) % s.rscs.length, j⟩ := by
  unfold next at h
  dsimp only at h
  split at h
  · cases h
  · rename_i j hj
    cases h
    rw [map_cyclic_eq_rotate, List.find?_eq_some] at hj
    obtain ⟨hlj, as, bs, hsplit, has⟩ := hj
    unfold hasLineAt at hlj
    split at hlj
    · rename_i r hr
      exact ⟨j, as, bs, r, hsplit, fun a ha => by simpa using has a ha, hr,
        by simpa using hlj, rfl⟩
    · cases hlj

/-- Inversion of a failed `Next()`: no slot has a row left, and nothing changes. -/
theorem next_false_inv {s s' : RoundRobinLineSel} (h : s.next = (false, s')) :
    s' = s ∧ ∀ j ∈ (List.range s.rscs.length).rotate s.cursor, s.hasLineAt j = false := by
  unfold next at h
  dsimp only at h
  split at h
  · rename_i hj
    cases h
    rw [map_cyclic_eq_rotate, List.find?_eq_none] at hj
    exact ⟨rfl, fun j hj' => by simpa using hj j hj'⟩
  · cases h

theorem rotate_range_mod (n m : Nat) :
    (List.range n).rotate (m % n) = (List.range n).rotate m := by
  simpa using List.rotate_mod (List.range n) m

/-- After a draw from slot `j` found at position `as.length` of the search, the next search
starts right after `j`: the slots after it, then the skipped ones, then `j`. -/
theorem rotate_range_succ {n c j : Nat} {as bs : List Nat}
    (h : (List.range n).rotate c = as ++ j :: bs) :
    (List.range n).rotate (j + 1) = bs ++ as ++ [j] := by
  have hlen : (List.range n).length = n := List.length_range n
  have hj : j = (as.length + c) % n := by
    have hlt : as.length < ((List.range n).rotate c).length := by simp [h]
    have := List.getElem_rotate (List.range n) c as.length hlt
    simpa only [h, List.getElem_append_right (Nat.le_refl _), Nat.sub_self,
      List.getElem_cons_zero, List.getElem_range, hlen] using this
  have hmod : (j + 1) % n = (c + (as ++ [j]).length) % n := by
    rw [hj, List.length_append, List.length_singleton, Nat.add_mod, Nat.mod_mod,
      ← Nat.add_mod, Nat.add_comm as.length c, Nat.add_assoc]
  calc (List.range n).rotate (j + 1)
      = ((List.range n).rotate c).rotate (as ++ [j]).length := by
        rw [← rotate_range_mod, hmod, rotate_range_mod, List.rotate_rotate]
    _ = bs ++ as ++ [j] := by
        rw [h, List.append_cons as j bs, List.rotate_append_length_eq, List.append_assoc]

theorem pending_modify_getD (rscs : List RscLines) (j i : Nat) :
    ((rscs.modify (fun r => { r with idx := r.idx + 1 }) j).map RscLines.pending).getD i [] =
      if i = j then ((rscs.map RscLines.pending).getD i []).tail
      else (rscs.map RscLines.pending).getD i [] := by
  simp only [List.getD_eq_getElem?_getD, List.getElem?_map, List.getElem?_modify]
  cases rscs[i]? with
  | none => split <;> simp
  | some r =>
    by_cases hij : i = j
    · subst hij
      simp [RscLines.pending, ← List.map_tail, List.tail_drop]
    · simp [hij, Ne.symm hij]

/-- **One `Next()` is one step of `roundRobin`.** -/
theorem roundRobin_pending_of_next_true {s s' : RoundRobinLineSel} (h : s.next = (true, s')) :
    roundRobin s.pending = (s'.currRscName, s'.currLine) :: roundRobin s'.pending := by
  obtain ⟨j, as, bs, r, hsplit, hskip, hr, hlt, rfl⟩ := next_true_inv h
  let g : Nat → List (String × ConcLine) := ((s.rscs.map RscLines.pending).getD · [])
  have hnil : ∀ y ∈ as.map g, y = [] := by
    simp only [List.mem_map, forall_exists_index, and_imp, forall_apply_eq_imp_iff₂]
    exact fun a ha => (getD_pending_eq_nil_iff s a).mpr (hskip a ha)
  have hgj : g j = (r.rsc, r.lines[r.idx]) :: (g j).tail := by
    have : g j = r.pending := by simp [g, List.getD_eq_getElem?_getD, hr]
    rw [this, RscLines.pending, List.drop_eq_getElem_cons hlt]
    rfl
  have hnodup : (as ++ j :: bs).Nodup := hsplit ▸ List.nodup_rotate.mpr (List.nodup_range _)
  have hj : j ∉ as ∧ j ∉ bs := by
    rw [List.nodup_middle, List.nodup_cons, List.mem_append, not_or] at hnodup
    exact hnodup.1
  have hpend : s.pending = as.map g ++ g j :: bs.map g := by
    rw [pending, rotate_eq_map_rotate_range _ [], List.length_map, hsplit]
    simp [g]
  have hpend' : pending ⟨s.rscs.modify (fun r => { r with idx := r.idx + 1 }) j,
      (j + 1) % s.rscs.length, j⟩ = bs.map g ++ as.map g ++ [(g j).tail] := by
    rw [pending, rotate_eq_map_rotate_range _ [], List.length_map, List.length_modify,
      rotate_range_mod, rotate_range_succ hsplit]
    simp only [List.map_append, List.map_cons, List.map_nil, pending_modify_getD, if_pos rfl]
    congr 2 <;> apply List.map_congr_left <;> intro i hi <;> rw [if_neg] <;> rintro rfl
    exacts [hj.2 hi, hj.1 hi]
  rw [hpend, roundRobin_nils_append hnil, hgj, roundRobin_cons_cons, hpend',
    roundRobin_append_nils_append hnil]
  simp [currRscName, currLine, List.getElem?_modify, hr, hlt]

theorem roundRobin_pending_of_next_false {s s' : RoundRobinLineSel} (h : s.next = (false, s')) :
    roundRobin s.pending = [] := by
  obtain ⟨-, hnone⟩ := next_false_inv h
  have hnil : ∀ y ∈ s.pending, y = [] := by
    rw [pending, rotate_eq_map_rotate_range _ [], List.length_map]
    simp only [List.mem_map, forall_exists_index, and_imp, forall_apply_eq_imp_iff₂]
    exact fun j hj => (getD_pending_eq_nil_iff s j).mpr (hnone j hj)
  simpa using @roundRobin_nils_append _ _ [] hnil

end RoundRobinLineSel

/-- **Refinement.** `n` calls of `Next()` on any state of the spec's selector hand out the
first `n` rows of the round-robin interleaving of its pending queues. -/
theorem yields_eq_take_roundRobin (n : Nat) (s : RoundRobinLineSel) :
    roundRobinLineSel.yields n s = (roundRobin s.pending).take n := by
  induction n generalizing s with
  | zero => simp [LineSelector.yields]
  | succ n ih =>
    rcases h : s.next with ⟨b, s'⟩
    have h' : roundRobinLineSel.next s = (b, s') := h
    cases b
    · rw [LineSelector.yields_succ_of_next_false h',
        RoundRobinLineSel.roundRobin_pending_of_next_false h]
      rfl
    · rw [LineSelector.yields_succ_of_next_true h',
        RoundRobinLineSel.roundRobin_pending_of_next_true h, ih]
      rfl

/-- **Every row once.** Drained, the spec's selector hands out every row it still holds,
each exactly once. -/
theorem yields_perm_pending (s : RoundRobinLineSel) {n : Nat}
    (hn : s.pending.flatten.length ≤ n) :
    (roundRobinLineSel.yields n s).Perm s.pending.flatten := by
  rw [yields_eq_take_roundRobin,
    List.take_of_length_le ((roundRobin_perm_flatten _).length_eq ▸ hn)]
  exact roundRobin_perm_flatten _

/-- Two slots of one and two rows, drained in three calls. -/
theorem yields_perm_pending_three :
    let s : RoundRobinLineSel :=
      ⟨[⟨"a", [⟨[⟨"a1", true⟩]⟩], 0, none⟩, ⟨"b", [⟨[⟨"b1", true⟩]⟩, ⟨[⟨"b2", true⟩]⟩], 0, none⟩], 0, 0⟩
    s.pending.flatten.length ≤ 3 ∧ (roundRobinLineSel.yields 3 s).Perm s.pending.flatten :=
  ⟨by decide, yields_perm_pending _ (by decide)⟩

/-! ## Seeded states -/

namespace RoundRobinLineSel

theorem map_modify_of_comp {β : Type} (l : List RscLines) (f : RscLines → RscLines)
    (g : RscLines → β) (hf : ∀ r, g (f r) = g r) (j : Nat) : (l.modify f j).map g = l.map g := by
  apply List.ext_getElem?
  intro i
  simp only [List.getElem?_map, List.getElem?_modify]
  cases l[i]? with
  | none => rfl
  | some r => simp only [Option.map_some', Option.map_eq_map, Option.map]; split <;> simp [hf]

theorem map_setRscLines_of_comp {β : Type} (rsc : String) (res : ConcExampleResult)
    (s : RoundRobinLineSel) (g : RscLines → β) (hg : ∀ r ls, g { r with lines := ls } = g r) :
    (setRscLines rsc res s).rscs.map g = s.rscs.map g := by
  simp only [setRscLines, List.map_map]
  congr 1; funext r; simp only [Function.comp]; split <;> simp [hg]

/-- A seeded selector has one slot per corpus, none drawn from, and its cursor at `0`. -/
theorem seeded_shape {maxLines : Int} {corpora : List String} {s : RoundRobinLineSel}
    (h : roundRobinLineSel.Seeded maxLines corpora s) :
    s.rscs.map (·.rsc) = corpora ∧ s.rscs.map (·.idx) = List.replicate corpora.length 0 ∧
      s.cursor = 0 := by
  induction h with
  | new => simp [new, Function.comp_def, List.map_const']
  | setError i e _ ih =>
    simpa [rscSetErrorAt, map_modify_of_comp] using ih
  | setLines rsc res _ ih =>
    simpa [map_setRscLines_of_comp] using ih

theorem mem_flatten_pending {s : RoundRobinLineSel} {p : String × ConcLine}
    (h : p ∈ s.pending.flatten) : p.1 ∈ s.rscs.map (·.rsc) := by
  simp only [pending, List.mem_flatten, List.mem_rotate, List.mem_map] at h
  obtain ⟨_, ⟨r, hr, rfl⟩, hp⟩ := h
  simp only [RscLines.pending, List.mem_map] at hp
  obtain ⟨_, -, rfl⟩ := hp
  exact List.mem_map_of_mem _ hr

end RoundRobinLineSel

/-- The spec's selector names only corpora it was built with. -/
theorem roundRobinLineSel_namesFrom : roundRobinLineSel.NamesFrom := by
  intro maxLines corpora s hs n p hp
  rw [yields_eq_take_roundRobin] at hp
  have := RoundRobinLineSel.mem_flatten_pending
    ((roundRobin_perm_flatten _).subset (List.mem_of_mem_take hp))
  rwa [(RoundRobinLineSel.seeded_shape hs).1] at this

end MqueryFcs
