import Mathlib
import JobQuery.Proofs.FanOutSteps

/-!
# JobQuery — what a parallel read keeps

A parallel read is a scheduler state (`FanOut.State`) on top of a session. This module names
what the proofs of `fanOut` track about it, over the in-memory service with `R` rows in pages
of `P`:

* `State.ledger`: the rows received, in the channel, in a worker's hand, and still owed by the
  workers' cursors. It stays a part of the job's rows, and is all of them until a read fails.
* `State.roots` and `State.tally`: the workers whose tallies have not been merged into another's
  yet, and the sum of their tallies, which counts every worker, every row handed to the channel
  and every failed read.
* `State.potential`: a count of the steps left, which every step that goes on lowers; it bounds
  how long each loop of the scheduler runs.
* `Scheduled`: every worker that is not done is queued or waits for what will wake it.

`Inv` gathers these, and `Inv.finished` reads the result of a read off a state where the
receiver is finished.
-/

namespace JobQuery

namespace FanOut

open Json

open scoped List

/-- Who is running: nobody, worker `i`, or the receiver. -/
inductive Turn where
  | idle
  | worker (i : Nat)
  | receiver
  deriving DecidableEq

namespace Worker

/-- A worker that still holds its end of the channel: one that forks or reads. -/
def reads (wk : Worker) : Bool :=
  match wk.stage with
  | .forking _ | .reading _ => true
  | _ => false

/-- A worker that can always take a step: one that forks, or reads with no row in hand. -/
def runnable (wk : Worker) : Bool :=
  match wk.stage with
  | .forking _ | .reading none => true
  | _ => false

/-- The row a worker has in hand. -/
def pending (wk : Worker) : Option Value :=
  match wk.stage with
  | .reading row => row
  | _ => none

variable (b : Behavior) (P : Nat)

/-- The rows a worker holds: the one in its hand, then what its cursor owes. -/
def holding (wk : Worker) : List Value := wk.pending.toList ++ wk.cursor.owed b P

/-- How many steps a worker has left at most: a fork for each split its cursor has left (and
what each split adds), a read and a hand-over for each row its cursor owes, and a merge for each
sibling. -/
def cost (wk : Worker) : Nat :=
  let reading := 6 * (wk.cursor.unread b P).length + 3 + wk.siblings.length
  match wk.stage with
  | .forking _ => 11 * wk.cursor.splits b P + 1 + reading
  | .reading none => reading
  | .reading (some _) => 5 + reading
  | .joining => wk.siblings.length + 1
  | .done => 0

/-- What each worker of a state with `size` workers keeps on its own: its siblings came after
it, its cursor holds a lease exactly while it reads, it is done only once it merged every
sibling, and a worker that waits for it is one of the state's. -/
structure Sane (size i : Nat) (wk : Worker) : Prop where
  siblings : ∀ j ∈ wk.siblings, i < j ∧ j < size
  leased : wk.cursor.leased = wk.reads
  merged : wk.stage = .done → wk.siblings = []
  joiner : ∀ j, wk.joiner = some (.worker j) → j < size

end Worker

/-- How many steps the receiver has left at most. -/
def Receiving.left : Receiving → Nat
  | .rows => 3
  | .report => 2
  | .cleanup => 1
  | .finished => 0

namespace State

/-- The first worker and every sibling not merged yet: the workers whose tallies count. -/
def roots (st : State) : List Nat := 0 :: st.workers.toList.flatMap (·.siblings)

/-- The sum of one count of the tallies that count. -/
def tally (st : State) (f : ParallelReport → Nat) : Nat :=
  (st.roots.map fun i => f (st.get i).report).sum

/-- The cursors of the workers, in order. -/
def cursors (st : State) : List SplitCursor := st.workers.toList.map (·.cursor)

/-- How many workers' cursors failed. -/
def errored (st : State) : Nat := st.workers.toList.countP fun wk => wk.cursor.error.isSome

/-- How many workers still read. -/
def reading (st : State) : Nat := st.workers.toList.countP Worker.reads

variable (b : Behavior) (P : Nat)

/-- The rows the workers hold. -/
def held (st : State) : List Value := st.workers.toList.flatMap (Worker.holding b P)

/-- The rows received (newest first), in the channel, and held by the workers. -/
def ledger (st : State) : List Value := st.received ++ st.channel ++ st.held b P

/-- How many steps the read has left at most: the workers', two for each row in the channel,
one for each queued task and for waking the receiver, and the receiver's. -/
def potential (st : State) : Nat :=
  (st.workers.toList.map (Worker.cost b P)).sum + 2 * st.channel.length + st.queue.length +
    (if st.receiverWoken then 1 else 0) + st.receiving.left

end State

/-! ## Sums over the workers -/

section Sums

variable {α : Type}

/-- Replacing one element of a list changes a sum over it by that element's share only. -/
theorem sum_map_set {l : List α} {i : Nat} {a : α} (h : l[i]? = some a) (a' : α) (f : α → Nat) :
    ((l.set i a').map f).sum + f a = (l.map f).sum + f a' := by
  induction l generalizing i with
  | nil => simp at h
  | cons x l ih =>
    cases i with
    | zero =>
      simp only [List.getElem?_cons_zero, Option.some.injEq] at h
      subst h
      simp only [List.set_cons_zero, List.map_cons, List.sum_cons]
      omega
    | succ i =>
      have := ih (by simpa using h)
      simp only [List.set_cons_succ, List.map_cons, List.sum_cons]
      omega

theorem countP_set {l : List α} {i : Nat} {a : α} (h : l[i]? = some a) (a' : α) (p : α → Bool) :
    (l.set i a').countP p + (if p a then 1 else 0) = l.countP p + (if p a' then 1 else 0) := by
  induction l generalizing i with
  | nil => simp at h
  | cons x l ih =>
    cases i with
    | zero =>
      simp only [List.getElem?_cons_zero, Option.some.injEq] at h
      subst h
      simp only [List.set_cons_zero, List.countP_cons]
      omega
    | succ i =>
      have := ih (by simpa using h)
      simp only [List.set_cons_succ, List.countP_cons]
      omega

/-- Over a list without repeats, changing a function at one member changes a sum over the list
by that member's share only. -/
theorem sum_map_update {l : List Nat} (hl : l.Nodup) {i : Nat} (hi : i ∈ l) {g g' : Nat → Nat}
    (hg : ∀ k, k ≠ i → g' k = g k) : (l.map g').sum + g i = (l.map g).sum + g' i := by
  have hperm := List.perm_cons_erase hi
  have hrest : (l.erase i).map g' = (l.erase i).map g :=
    List.map_congr_left fun k hk => hg k fun h => hl.not_mem_erase (h ▸ hk)
  rw [(hperm.map g').sum_eq, (hperm.map g).sum_eq]
  simp only [List.map_cons, List.sum_cons, hrest]
  omega

end Sums

namespace State

variable {st : State} {i : Nat} {wk : Worker}

theorem getElem?_toList (hi : i < st.workers.size) : st.workers.toList[i]? = some (st.get i) := by
  simp [get, hi]

@[simp] theorem toList_put (st : State) (i : Nat) (wk : Worker) :
    (st.put i wk).workers.toList = st.workers.toList.set i wk := by
  simp [put, Array.set!]

@[simp] theorem get_put_self (hi : i < st.workers.size) (wk : Worker) : (st.put i wk).get i = wk := by
  rw [get_put st hi, if_pos rfl]

@[simp] theorem get_put_ne (wk : Worker) {j : Nat} (h : j ≠ i) : (st.put i wk).get j = st.get j := by
  simp [get, put, Array.set!, Ne.symm h]

theorem sum_put (hi : i < st.workers.size) (wk : Worker) (f : Worker → Nat) :
    ((st.put i wk).workers.toList.map f).sum + f (st.get i) =
      (st.workers.toList.map f).sum + f wk := by
  rw [toList_put]
  exact sum_map_set (getElem?_toList hi) wk f

theorem countP_put (hi : i < st.workers.size) (wk : Worker) (p : Worker → Bool) :
    (st.put i wk).workers.toList.countP p + (if p (st.get i) then 1 else 0) =
      st.workers.toList.countP p + (if p wk then 1 else 0) := by
  rw [toList_put]
  exact countP_set (getElem?_toList hi) wk p

theorem cursors_put (st : State) (i : Nat) (wk : Worker) :
    (st.put i wk).cursors = st.cursors.set i wk.cursor := by
  simp [cursors, List.map_set]

theorem getElem?_cursors (hi : i < st.workers.size) : st.cursors[i]? = some (st.get i).cursor := by
  simp [cursors, getElem?_toList hi]

theorem errored_put (hi : i < st.workers.size)
    (h : wk.cursor.error.isSome = (st.get i).cursor.error.isSome) :
    (st.put i wk).errored = st.errored := by
  have := countP_put hi wk fun wk => wk.cursor.error.isSome
  simp only [h] at this
  simp only [errored]
  omega

theorem reading_put (hi : i < st.workers.size) (h : wk.reads = (st.get i).reads) :
    (st.put i wk).reading = st.reading := by
  have := countP_put hi wk Worker.reads
  simp only [h] at this
  simp only [reading]
  omega

/-- A worker that keeps its siblings keeps the roots. -/
theorem roots_put (hi : i < st.workers.size) (h : wk.siblings = (st.get i).siblings) :
    (st.put i wk).roots = st.roots := by
  obtain ⟨A, B, h₁, h₂⟩ := Family.flatMap_set (getElem?_toList hi) wk (·.siblings)
  simp only [roots, toList_put, h₂, h₁, h]

/-- A worker that keeps its siblings and its tally keeps the tallies. -/
theorem tally_put (hi : i < st.workers.size) (hsib : wk.siblings = (st.get i).siblings)
    (hreport : wk.report = (st.get i).report) (f : ParallelReport → Nat) :
    (st.put i wk).tally f = st.tally f := by
  simp only [tally, roots_put hi hsib]
  refine congrArg List.sum (List.map_congr_left fun k _ => ?_)
  by_cases hk : k = i
  · rw [hk, get_put_self hi, hreport]
  · rw [get_put_ne wk hk]

/-- A worker that keeps its siblings changes the tallies by its own share. -/
theorem tally_put_update (hi : i < st.workers.size) (hsib : wk.siblings = (st.get i).siblings)
    (hnodup : st.roots.Nodup) (hmem : i ∈ st.roots) (f : ParallelReport → Nat) :
    (st.put i wk).tally f + f (st.get i).report = st.tally f + f wk.report := by
  have := @sum_map_update _ hnodup _ hmem (fun k => f (st.get k).report)
    (fun k => f ((st.put i wk).get k).report) fun k hk => by rw [get_put_ne wk hk]
  simp only [get_put_self hi] at this
  simpa only [tally, roots_put hi hsib] using this

/-! ### A fork -/

section Fork

variable {x : SplitCursor} {half : Nat}

@[simp] theorem size_forked : (st.forked i wk x half).workers.size = st.workers.size + 1 := by
  simp [forked, Array.set!]

theorem toList_forked (hi : i < st.workers.size) :
    (st.forked i wk x half).workers.toList =
      st.workers.toList.set i wk ++ [{ cursor := x, stage := .forking half }] := by
  simp [forked, Array.set!, List.set_append_left _ _ (by simpa using hi : i < st.workers.toList.length)]

theorem get_forked (hi : i < st.workers.size) (k : Nat) :
    (st.forked i wk x half).get k =
      if k = i then wk else if k = st.workers.size then { cursor := x, stage := .forking half }
      else st.get k := by
  simp only [get, forked_workers, Array.set!, Array.getElem?_setIfInBounds, Array.getElem?_push]
  by_cases hki : k = i
  · subst hki
    simp [Nat.lt_succ_of_lt hi]
  · by_cases hkn : k = st.workers.size
    · subst hkn
      simp [Nat.ne_of_lt hi, Ne.symm (Nat.ne_of_lt hi)]
    · simp [hki, Ne.symm hki, hkn]

theorem cursors_forked (hi : i < st.workers.size) :
    (st.forked i wk x half).cursors = st.cursors.set i wk.cursor ++ [x] := by
  rw [cursors, toList_forked hi, List.map_append, List.map_set]
  rfl

/-- The new sibling joins the roots. -/
theorem roots_forked (hi : i < st.workers.size)
    (hsib : wk.siblings = st.workers.size :: (st.get i).siblings) :
    (st.forked i wk x half).roots ~ st.workers.size :: st.roots := by
  obtain ⟨A, B, h₁, h₂⟩ := Family.flatMap_set (getElem?_toList hi) wk (·.siblings)
  simp only [roots, toList_forked hi, List.flatMap_append, h₂, h₁, hsib, List.flatMap_singleton,
    List.append_nil]
  -- the new sibling moves to the front
  simpa only [List.cons_append, List.append_assoc] using
    (@List.perm_middle _ st.workers.size (0 :: A) ((st.get i).siblings ++ B))

theorem countP_forked (hi : i < st.workers.size) (p : Worker → Bool) :
    (st.forked i wk x half).workers.toList.countP p + (if p (st.get i) then 1 else 0) =
      st.workers.toList.countP p + (if p wk then 1 else 0) +
        (if p { cursor := x, stage := .forking half } then 1 else 0) := by
  have := countP_set (getElem?_toList hi) wk p
  rw [toList_forked hi, List.countP_append, List.countP_singleton]
  omega

theorem sum_forked (hi : i < st.workers.size) (f : Worker → Nat) :
    ((st.forked i wk x half).workers.toList.map f).sum + f (st.get i) =
      (st.workers.toList.map f).sum + f wk + f { cursor := x, stage := .forking half } := by
  have := sum_map_set (getElem?_toList hi) wk f
  rw [toList_forked hi, List.map_append, List.sum_append]
  simp only [List.map_cons, List.map_nil, List.sum_cons, List.sum_nil]
  omega

end Fork

variable (b : Behavior) (P : Nat)

/-- A worker that holds the same rows keeps what the workers hold. -/
theorem held_put (hi : i < st.workers.size) (h : wk.holding b P = (st.get i).holding b P) :
    (st.put i wk).held b P = st.held b P := by
  obtain ⟨A, B, h₁, h₂⟩ := Family.flatMap_set (getElem?_toList hi) wk (Worker.holding b P)
  simp only [held, toList_put, h₂, h₁, h]

theorem potential_put (hi : i < st.workers.size) (wk : Worker) :
    (st.put i wk).potential b P + (st.get i).cost b P = st.potential b P + wk.cost b P := by
  have := sum_put hi wk (Worker.cost b P)
  simp only [potential, put_channel, put_queue, put_receiverWoken, put_receiving]
  omega

theorem held_forked (hi : i < st.workers.size) (wk : Worker) (x : SplitCursor) (half : Nat) :
    ∃ A B, st.held b P = A ++ (st.get i).holding b P ++ B ∧
      (st.forked i wk x half).held b P =
        A ++ wk.holding b P ++ B ++ Worker.holding b P { cursor := x, stage := .forking half } := by
  obtain ⟨A, B, h₁, h₂⟩ := Family.flatMap_set (getElem?_toList hi) wk (Worker.holding b P)
  exact ⟨A, B, h₁, by simp only [held, toList_forked hi, List.flatMap_append, h₂,
    List.flatMap_singleton]⟩

theorem held_put_eq (hi : i < st.workers.size) (wk : Worker) :
    ∃ A B, st.held b P = A ++ (st.get i).holding b P ++ B ∧
      (st.put i wk).held b P = A ++ wk.holding b P ++ B := by
  simpa only [held, toList_put] using Family.flatMap_set (getElem?_toList hi) wk (Worker.holding b P)

end State

/-- Worker `i` waits for its next sibling, which is not done and will wake it. -/
def Blocked (st : State) (i : Nat) : Prop :=
  ∃ j rest, (st.get i).siblings = j :: rest ∧ (st.get j).stage ≠ .done ∧
    (st.get j).joiner = some (.worker i)

/-- Worker `i`, unless it is running, is sure to run again: it is queued, or it waits for room in
the channel, or for a sibling; and when it was told to try again, it is queued. A worker put aside
with a row in hand is queued, not in the line. -/
structure Scheduled (turn : Turn) (st : State) (i : Nat) : Prop where
  runs : turn ≠ .worker i → (st.get i).runnable = true → .worker i ∈ st.queue
  waits : turn ≠ .worker i → (st.get i).pending.isSome →
    (∃ t, (i, t) ∈ st.waiting) ∨ .worker i ∈ st.queue
  joins : turn ≠ .worker i → (st.get i).stage = .joining → .worker i ∈ st.queue ∨ Blocked st i
  told : turn ≠ .worker i → (i, true) ∈ st.waiting → .worker i ∈ st.queue

/-! ## The invariant -/

variable (b : Behavior) (P : Nat) (J : String) in
/-- What a parallel read of job `J` over the in-memory service keeps at every step, with `turn`
running:

* its shape: the workers, the channel's room, a queue of worker tasks, and the roots;
* its counts: the roots' tallies count every worker, every row handed over and every failure,
  and the channel's senders are the workers that read;
* its books: the ledger is a part of the job's rows, all of them while no read failed, and the
  cursors hold the session's leases;
* its waits: the line holds workers with a row in hand, one of them told whenever the channel
  has room, and every worker is scheduled;
* its receiver: it is open exactly while it takes rows, and woken whenever it has work, unless
  it runs: it waits neither for its rows nor for the first worker's tally when it has them, nor
  ever for the leases, which are all given back. -/
structure Inv (turn : Turn) (st : State) (s : Session) (w : World) : Prop where
  size_pos : 0 < st.workers.size
  capacity_pos : 0 < st.capacity
  take : st.take = none
  releases : st.releases = 0
  queue : ∀ t ∈ st.queue, ∃ i < st.workers.size, t = .worker i
  sane : ∀ i < st.workers.size, (st.get i).Sane st.workers.size i
  roots_nodup : st.roots.Nodup
  unmerged : ∀ i < st.workers.size, (st.get i).stage ≠ .done → i ∈ st.roots
  cursors : st.tally (·.cursors) = st.workers.size
  rows : st.tally (·.rows) = st.received.length + st.channel.length
  failures : st.tally (·.failures.length) = st.errored
  senders : st.senders = st.reading
  ledger : st.ledger b P <+~ b.allRows
  exact : st.errored = 0 → st.ledger b P ~ b.allRows
  leased : Family.Leased b P J st.cursors s w
  line : ∀ p ∈ st.waiting, p.1 < st.workers.size ∧ (st.get p.1).pending.isSome
  room : st.channel.length < st.capacity → st.waiting ≠ [] → ∃ i, (i, true) ∈ st.waiting
  scheduled : ∀ i < st.workers.size, Scheduled turn st i
  opened : st.receiverOpen = (st.receiving == .rows)
  closed : st.receiving ≠ .rows → st.senders = 0 ∧ st.channel = []
  woken : turn ≠ .receiver → st.receiving = .rows → (st.channel ≠ [] ∨ st.senders = 0) →
    st.receiverWoken = true
  report : turn ≠ .receiver → st.receiving = .report →
    st.receiverWoken = true ∨ ((st.get 0).stage ≠ .done ∧ (st.get 0).joiner = some .receiver)
  cleanup : turn ≠ .receiver → st.receiving = .cleanup → st.receiverWoken = true
  rootDone : st.receiving = .cleanup ∨ st.receiving = .finished → (st.get 0).stage = .done
  quiet : turn = .receiver → st.receiverWoken = false

/-! ## Start and finish -/

/-- The state a read of cursor `c` starts from: one worker that forks, queued, and the receiver
woken. -/
def State.initial (c : SplitCursor) (parallelism capacity : Nat) (take : Option Nat) : State :=
  { workers := #[{ cursor := c, stage := .forking (max parallelism 1) }], queue := [.worker 0]
    capacity := max capacity 1, take }

theorem fanOut_eq (c : SplitCursor) (parallelism capacity : Nat) (take : Option Nat) :
    fanOut c parallelism capacity take = do
      let ((), st) ← (schedule rowBudget).run (State.initial c parallelism capacity take)
      return (st.received.reverse, ((st.workers[0]?).map (·.report)).getD {}) :=
  rfl

theorem Behavior.length_allRows (b : Behavior) : b.allRows.length = b.rows := by
  simp [Behavior.allRows, FakeService.rowsBetween]

section Ends

variable {b : Behavior} {P : Nat} {J : String} {s : Session} {w : World}

theorem State.exists_of_mem_toList {st : State} {wk : Worker} (h : wk ∈ st.workers.toList) :
    ∃ k < st.workers.size, st.get k = wk := by
  obtain ⟨k, hk⟩ := List.mem_iff_getElem?.mp h
  have hlt : k < st.workers.size := by simpa using (List.getElem?_eq_some_iff.mp hk).1
  rw [State.getElem?_toList hlt, Option.some.injEq] at hk
  exact ⟨k, hlt, hk⟩

theorem State.mem_roots {st : State} {i : Nat} :
    i ∈ st.roots ↔ i = 0 ∨ ∃ k < st.workers.size, i ∈ (st.get k).siblings := by
  rw [State.roots, List.mem_cons, List.mem_flatMap]
  refine or_congr Iff.rfl ⟨?_, ?_⟩
  · rintro ⟨wk, hwk, hi⟩
    obtain ⟨k, hk, rfl⟩ := State.exists_of_mem_toList hwk
    exact ⟨k, hk, hi⟩
  · rintro ⟨k, hk, hi⟩
    exact ⟨st.get k, List.mem_of_getElem? (State.getElem?_toList hk), hi⟩

/-- A done worker holds no row. -/
theorem Worker.holding_of_done {wk : Worker} {n i : Nat} (hs : wk.Sane n i) (hd : wk.stage = .done) :
    wk.holding b P = [] := by
  have hl : wk.cursor.leased = false := by rw [hs.leased, Worker.reads, hd]
  simp [Worker.holding, Worker.pending, hd, SplitCursor.owed, hl]

/-- A read starts with its root worker queued, holding every row of the job. -/
theorem Inv.initial {c : SplitCursor} (hc : c.Unstarted) (hl : c.leased = true)
    (h : Family.Leased b P J [c] s w) (parallelism capacity : Nat) :
    Inv b P J .idle (State.initial c parallelism capacity none) s w := by
  have herr : c.error = none := h.unerred c (by simp) hl
  have hget : ∀ i, i < 1 → (State.initial c parallelism capacity none).get i =
      { cursor := c, stage := .forking (max parallelism 1) } := by
    intro i hi
    obtain rfl : i = 0 := by omega
    rfl
  have hroots : (State.initial c parallelism capacity none).roots = [0] := rfl
  have hledger : (State.initial c parallelism capacity none).ledger b P = b.allRows := by
    simp [State.ledger, State.held, State.initial, Worker.holding, Worker.pending,
      SplitCursor.owed, hl, hc.unread_eq]
  refine
    { size_pos := by simp [State.initial]
      capacity_pos := by simp [State.initial]
      take := rfl
      releases := rfl
      queue := by simp [State.initial]
      sane := fun i hi => ?_
      roots_nodup := by simp [hroots]
      unmerged := fun i hi _ => by simp [hroots]; simpa [State.initial] using hi
      cursors := rfl
      rows := rfl
      failures := by
        rw [State.tally, hroots]
        simp [State.errored, State.initial, State.get, herr]
      senders := rfl
      ledger := hledger ▸ List.Subperm.refl _
      exact := fun _ => hledger ▸ List.Perm.refl _
      leased := h
      line := by simp [State.initial]
      room := by simp [State.initial]
      scheduled := fun i hi => ?_
      opened := rfl
      closed := fun h => absurd rfl h
      woken := fun _ _ _ => rfl
      report := fun _ h => by cases h
      cleanup := fun _ h => by cases h
      rootDone := fun h => by rcases h with h | h <;> cases h
      quiet := fun h => by cases h }
  · simp only [State.initial, List.size_toArray, List.length_singleton] at hi
    rw [hget i hi]
    exact ⟨by simp, by simp [hl, Worker.reads], by simp, fun _ h => by cases h⟩
  · simp only [State.initial, List.size_toArray, List.length_singleton] at hi
    obtain rfl : i = 0 := by omega
    refine ⟨fun _ _ => by simp [State.initial], fun _ h => ?_, fun _ h => ?_, fun _ h => ?_⟩
    · rw [hget 0 hi] at h
      simp [Worker.pending] at h
    · rw [hget 0 hi] at h
      cases h
    · simp [State.initial] at h

/-- A read starts with at most seventeen steps for each row of the job, and nine more. -/
theorem potential_initial {c : SplitCursor} (hc : c.Unstarted) (parallelism capacity : Nat) :
    (State.initial c parallelism capacity none).potential b P ≤ 17 * b.rows + 9 := by
  have hsplits : c.splits b P = b.rows / P := by simp [SplitCursor.splits, hc.pending]
  have hdiv : b.rows / P ≤ b.rows := Nat.div_le_self _ _
  simp [State.potential, State.initial, Worker.cost, hsplits, hc.unread_eq,
    Behavior.length_allRows, Receiving.left]
  omega

variable {turn : Turn} {st : State}

/-- Once the first worker is done, every worker is: the lowest one that is not done would be a
sibling of a lower one, which is done and so has merged all its siblings. -/
theorem Inv.all_done (h : Inv b P J turn st s w) (h0 : (st.get 0).stage = .done) :
    ∀ i < st.workers.size, (st.get i).stage = .done := by
  intro i
  induction i using Nat.strong_induction_on with
  | _ i ih =>
    intro hi
    by_contra hnd
    rcases State.mem_roots.mp (h.unmerged i hi hnd) with rfl | ⟨k, hk, hmem⟩
    · exact hnd h0
    · have hdone := ih k ((h.sane k hk).siblings i hmem).1 hk
      rw [(h.sane k hk).merged hdone] at hmem
      cases hmem

/-- When the receiver is finished, every lease is given back: the session has no consumer left
and holds no job, and the job is deleted with one delete. -/
theorem Inv.released (h : Inv b P J turn st s w) (hf : st.receiving = .finished) :
    s.consumers = 0 ∧ (Session.takeJobId s.phase).1 = none ∧ w.Dropped J := by
  have hall := h.all_done (h.rootDone (Or.inr hf))
  refine h.leased.dropped ?_
  simp only [State.cursors, List.mem_map]
  rintro c ⟨wk, hwk, rfl⟩
  obtain ⟨k, hk, rfl⟩ := State.exists_of_mem_toList hwk
  rw [(h.sane k hk).leased, Worker.reads, hall k hk]

/-- When the receiver is finished, every sibling is merged: the first worker is the one root. -/
theorem Inv.roots_finished (h : Inv b P J turn st s w) (hf : st.receiving = .finished) :
    st.roots = [0] := by
  have hall := h.all_done (h.rootDone (Or.inr hf))
  simp only [State.roots, List.cons.injEq, true_and, List.flatMap_eq_nil_iff]
  intro wk hwk
  obtain ⟨k, hk, rfl⟩ := State.exists_of_mem_toList hwk
  exact (h.sane k hk).merged (hall k hk)

/-- When the receiver is finished, it has received a part of the job's rows, each once, as many
as the first worker's tally counts, all of them unless a read failed; every read that failed is
in that tally, and a failure is counted at most once per worker; every lease is given back, and
the job deleted with one delete. -/
theorem Inv.finished (h : Inv b P J turn st s w) (hf : st.receiving = .finished) :
    st.received.reverse <+~ b.allRows ∧ st.received.length = (st.get 0).report.rows ∧
      (st.get 0).report.failures.length ≤ (st.get 0).report.cursors ∧
      ((st.get 0).report.failures = [] → st.received.reverse ~ b.allRows) ∧
      s.consumers = 0 ∧ w.Dropped J := by
  have hall := h.all_done (h.rootDone (Or.inr hf))
  -- every sibling is merged, so the first worker's tally is the whole tally
  have hroots := h.roots_finished hf
  have htally : ∀ f : ParallelReport → Nat, st.tally f = f (st.get 0).report := by
    simp [State.tally, hroots]
  have hchannel : st.channel = [] := (h.closed (by rw [hf]; exact fun h => by cases h)).2
  have hheld : st.held b P = [] := by
    simp only [State.held, List.flatMap_eq_nil_iff]
    intro wk hwk
    obtain ⟨k, hk, rfl⟩ := State.exists_of_mem_toList hwk
    exact Worker.holding_of_done (h.sane k hk) (hall k hk)
  have hledger : st.ledger b P = st.received := by simp [State.ledger, hchannel, hheld]
  have herrored : st.errored ≤ st.workers.size := by
    simpa [State.errored] using List.countP_le_length (l := st.workers.toList)
  obtain ⟨hcons, -, hdropped⟩ := h.released hf
  refine ⟨?_, ?_, ?_, fun hnil => ?_, hcons, hdropped⟩
  · exact (List.reverse_perm _).subperm.trans (hledger ▸ h.ledger)
  · have := h.rows
    rw [htally, hchannel] at this
    simp [this]
  · have hf' := h.failures
    have hc := h.cursors
    rw [htally] at hf' hc
    omega
  · have hf' := h.failures
    rw [htally, hnil] at hf'
    exact (List.reverse_perm _).trans (hledger ▸ h.exact hf'.symm)

/-- A worker that reads counts among the senders. -/
theorem Inv.senders_pos (h : Inv b P J turn st s w) {i : Nat} (hi : i < st.workers.size)
    (hr : (st.get i).reads = true) : 0 < st.senders := by
  rw [h.senders, State.reading]
  exact List.countP_pos_iff.mpr ⟨st.get i, List.mem_of_getElem? (State.getElem?_toList hi), hr⟩

/-- A read where nothing is queued and the receiver sleeps is finished. The highest worker that
is not done cannot fork or read (it would be queued), nor hold a row (the channel, empty since
the receiver sleeps, has room, so some waiting worker was told and is queued), nor wait for a
sibling (siblings come later, and are done); so every worker is done, and then the receiver,
asleep, has nothing left to do. -/
theorem Inv.rest (h : Inv b P J .idle st s w) (hq : st.queue = []) (hw : st.receiverWoken = false) :
    st.receiving = .finished := by
  have hnot : ∀ {i}, i < st.workers.size → .worker i ∉ st.queue := fun _ => by simp [hq]
  -- nobody holds a row: the receiver would have been woken, or a waiting worker queued
  have hnopend : ∀ i < st.workers.size, (st.get i).pending.isSome = false := by
    intro i hi
    by_contra hp
    simp only [Bool.not_eq_false] at hp
    obtain ⟨t, ht⟩ := ((h.scheduled i hi).waits (by simp) hp).resolve_right (hnot hi)
    have hreads : (st.get i).reads = true := by
      revert hp
      simp only [Worker.pending, Worker.reads]
      split <;> simp_all
    by_cases hr : st.receiving = .rows
    · have hc : st.channel = [] := by
        by_contra hc
        exact absurd (h.woken (by simp) hr (Or.inl hc)) (by simp [hw])
      obtain ⟨k, hk⟩ := h.room (by rw [hc]; exact h.capacity_pos) (List.ne_nil_of_mem ht)
      exact hnot (h.line _ hk).1 ((h.scheduled k (h.line _ hk).1).told (by simp) hk)
    · exact absurd (h.closed hr).1 (Nat.pos_iff_ne_zero.mp (h.senders_pos hi hreads))
  -- every worker is done, the highest first
  have hall : ∀ n, ∀ i < st.workers.size, st.workers.size - i ≤ n → (st.get i).stage = .done := by
    intro n
    induction n with
    | zero => intro i hi hn; omega
    | succ n ih =>
      intro i hi hn
      have hs := h.scheduled i hi
      cases hst : (st.get i).stage with
      | forking _ => exact absurd (hs.runs (by simp) (by simp [Worker.runnable, hst])) (hnot hi)
      | reading row =>
        cases row with
        | none => exact absurd (hs.runs (by simp) (by simp [Worker.runnable, hst])) (hnot hi)
        | some row => simpa [Worker.pending, hst] using hnopend i hi
      | joining =>
        rcases hs.joins (by simp) hst with hqi | ⟨j, rest, hsib, hnd, -⟩
        · exact absurd hqi (hnot hi)
        · have hj := (h.sane i hi).siblings j (by simp [hsib])
          exact absurd (ih j hj.2 (by omega)) hnd
      | done => rfl
  have hdone : ∀ i < st.workers.size, (st.get i).stage = .done := fun i hi =>
    hall st.workers.size i hi (by omega)
  have hreading : st.senders = 0 := by
    rw [h.senders, State.reading, List.countP_eq_zero]
    intro wk hwk
    obtain ⟨k, hk, rfl⟩ := State.exists_of_mem_toList hwk
    simp [Worker.reads, hdone k hk]
  cases hr : st.receiving with
  | rows => exact absurd (h.woken (by simp) hr (Or.inr hreading)) (by simp [hw])
  | report =>
    rcases h.report (by simp) hr with hw' | ⟨hnd, -⟩
    · exact absurd hw' (by simp [hw])
    · exact absurd (hdone 0 h.size_pos) hnd
  | cleanup => exact absurd (h.cleanup (by simp) hr) (by simp [hw])
  | finished => rfl

end Ends

end FanOut

end JobQuery
