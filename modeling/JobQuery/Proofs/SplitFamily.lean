import JobQuery.Proofs.SplitCursor

/-!
# JobQuery — a family of split cursors hands out every row exactly once

A reader opens a root split cursor on a session and then, in any order, asks any cursor of the
family for its next row (advancing a cursor asks the same), asks any cursor to split (a sibling
joins the family), closes a cursor, cancels the session or closes it. `Family.drive` runs such a
list of operations and keeps the answers the reads gave.

Two invariants carry the proofs, each kept by every operation and so by every run
(`Family.run_invariant`):

* `Family.Sound`, along every run over the in-memory service whatever it does: the rows handed
  out, with the rows the cursors still owe, are a part of the job's rows. No row is handed out
  twice.
* `Family.Exact`, along runs of reads and splits over a healthy service: the rows handed out,
  with the rows still owed, are the job's rows exactly; with one cursor, in order.

The main result is `Family.drive_rows_exactly_once`.
-/

namespace JobQuery

open Json InSession

open scoped List

/-- What a reader does to one cursor of a family of split cursors, or to their session. -/
inductive FamilyOp where
  /-- Ask cursor `i` for its next row; advancing a cursor asks the same. -/
  | next (i : Nat)
  /-- Ask cursor `i` to split; a sibling it splits off joins the family as its newest cursor. -/
  | split (i : Nat)
  /-- Close cursor `i`. -/
  | close (i : Nat)
  /-- Raise the session's cancellation flag. -/
  | cancel
  /-- Close the session. -/
  | closeSession
  deriving Repr, DecidableEq

/-- The operations that only read rows and split cursors. -/
def FamilyOp.reads : FamilyOp → Bool
  | .next _ | .split _ => true
  | _ => false

/-- A root split cursor with every cursor split from it, in the order they were made, and the
answers the reads gave, in order, each with the number of the cursor that gave it. -/
structure Family where
  cursors : List SplitCursor
  answers : List (Nat × Except QueryError (Option Value))

namespace Family

/-- One fresh root cursor. -/
def root : Family := { cursors := [{}], answers := [] }

/-- The rows the family handed out, in order. -/
def returned (F : Family) : List Value := F.answers.flatMap fun a => SplitCursor.handedOut a.2

/-- Cursor `i` answered that it has no more rows. -/
def Ended (F : Family) (i : Nat) : Prop := (i, .ok none) ∈ F.answers

/-- Apply one operation; an operation on a cursor the family does not have does nothing. -/
def step (F : Family) : FamilyOp → InSession Family
  | .next i =>
    match F.cursors[i]? with
    | none => pure F
    | some c => do
      let (r, c) ← c.next
      pure { cursors := F.cursors.set i c, answers := F.answers ++ [(i, r)] }
  | .split i =>
    match F.cursors[i]? with
    | none => pure F
    | some c => do
      let (sibling, c) ← c.trySplit
      pure { F with cursors := F.cursors.set i c ++ sibling.toList }
  | .close i =>
    match F.cursors[i]? with
    | none => pure F
    | some c => do
      let c ← c.close
      pure { F with cursors := F.cursors.set i c }
  | .cancel => do
    Session.cancel
    pure F
  | .closeSession => do
    Session.close
    pure F

/-- Apply operations in order. -/
def run (F : Family) : List FamilyOp → InSession Family
  | [] => pure F
  | op :: ops => do
    let F ← F.step op
    F.run ops

/-- Open a root cursor on a session, which takes a lease, then apply the operations. -/
def drive (ops : List FamilyOp) : InSession Family := do
  Session.attach
  root.run ops

/-! ## Running operations -/

variable {s : Session} {w : World}

/-- What every allowed operation keeps holds after every run of allowed operations. -/
theorem run_invariant (Inv : Family → Session → World → Prop) (allowed : FamilyOp → Prop)
    (hstep : ∀ F s w op, allowed op → Inv F s w → (F.step op).Holds s w Inv) :
    ∀ (ops : List FamilyOp) (F : Family) (s : Session) (w : World),
      (∀ op ∈ ops, allowed op) → Inv F s w → (F.run ops).Holds s w Inv := by
  intro ops
  induction ops with
  | nil => exact fun F s w _ h => h
  | cons op ops ih =>
    intro F s w hall h
    rw [run, holds_bind]
    exact (hstep F s w op (hall op (by simp)) h).mono fun F' s' w' h' =>
      ih F' s' w' (fun o ho => hall o (by simp [ho])) h'

theorem holds_step_missing {F : Family} {i : Nat} (hc : F.cursors[i]? = none)
    {Q : Family → Session → World → Prop} :
    ((F.step (.next i)).Holds s w Q ↔ Q F s w) ∧ ((F.step (.split i)).Holds s w Q ↔ Q F s w) ∧
      ((F.step (.close i)).Holds s w Q ↔ Q F s w) := by
  simp only [step, hc, holds_pure, and_self]

theorem holds_step_next {F : Family} {i : Nat} {c : SplitCursor} (hc : F.cursors[i]? = some c)
    {Q : Family → Session → World → Prop} :
    (F.step (.next i)).Holds s w Q ↔ c.next.Holds s w fun out s' w' =>
      Q { cursors := F.cursors.set i out.2, answers := F.answers ++ [(i, out.1)] } s' w' := by
  simp only [step, hc, holds_bind]
  exact Iff.rfl

theorem holds_step_split {F : Family} {i : Nat} {c : SplitCursor} (hc : F.cursors[i]? = some c)
    {Q : Family → Session → World → Prop} :
    (F.step (.split i)).Holds s w Q ↔ c.trySplit.Holds s w fun out s' w' =>
      Q { F with cursors := F.cursors.set i out.2 ++ out.1.toList } s' w' := by
  simp only [step, hc, holds_bind]
  exact Iff.rfl

theorem holds_step_close {F : Family} {i : Nat} {c : SplitCursor} (hc : F.cursors[i]? = some c)
    {Q : Family → Session → World → Prop} :
    (F.step (.close i)).Holds s w Q ↔ c.close.Holds s w fun c' s' w' =>
      Q { F with cursors := F.cursors.set i c' } s' w' := by
  simp only [step, hc, holds_bind]
  exact Iff.rfl

@[simp] theorem returned_append (F : Family) (l : List SplitCursor) (i : Nat)
    (r : Except QueryError (Option Value)) :
    ({ cursors := l, answers := F.answers ++ [(i, r)] } : Family).returned =
      F.returned ++ SplitCursor.handedOut r := by
  simp [returned]

@[simp] theorem returned_cursors (F : Family) (l : List SplitCursor) :
    ({ F with cursors := l } : Family).returned = F.returned :=
  rfl

/-! ## What the family owes -/

section Ledger

variable (b : Behavior) (P : Nat)

/-- The rows handed out, then the rows each cursor still owes. -/
def ledger (F : Family) : List Value := F.returned ++ F.cursors.flatMap (SplitCursor.owed b P)

/-- Replacing one cursor of a family replaces only what it owes. -/
theorem flatMap_set {α β : Type} {l : List α} {i : Nat} {a : α} (h : l[i]? = some a) (a' : α)
    (f : α → List β) :
    ∃ A B, l.flatMap f = A ++ f a ++ B ∧ (l.set i a').flatMap f = A ++ f a' ++ B := by
  induction l generalizing i with
  | nil => simp at h
  | cons x l ih =>
    cases i with
    | zero =>
      simp only [List.getElem?_cons_zero, Option.some.injEq] at h
      subst h
      exact ⟨[], l.flatMap f, by simp, by simp⟩
    | succ i =>
      obtain ⟨A, B, h₁, h₂⟩ := ih (by simpa using h)
      exact ⟨f x ++ A, B, by simp [h₁], by simp [h₂]⟩

/-- Rows handed out at a read move from what one cursor owes to the rows handed out. -/
theorem perm_handOut (R X A Y B : List Value) :
    R ++ (X ++ (A ++ (Y ++ B))) ~ R ++ (A ++ (X ++ (Y ++ B))) :=
  (List.perm_append_comm_assoc X A (Y ++ B)).append_left R

/-- What a new sibling owes moves next to what the cursor it split from owes. -/
theorem perm_sibling (R A Y B G : List Value) :
    R ++ (A ++ (Y ++ (B ++ G))) ~ R ++ (A ++ (Y ++ (G ++ B))) :=
  ((List.perm_append_comm.append_left Y).append_left A).append_left R

theorem nodup_of_subperm {l₁ l₂ : List Value} (h : l₁ <+~ l₂) (hnd : l₂.Nodup) : l₁.Nodup := by
  obtain ⟨l, hperm, hsub⟩ := h
  exact hperm.nodup_iff.mp (hnd.sublist hsub)

end Ledger

/-! ## Along every run -/

section Sound

variable {b : Behavior} {P : Nat}

/-- What every run of a family over the in-memory service keeps: the session is sound, every
cursor's coverage is sound, and the rows handed out with the rows still owed are a part of the
job's rows. -/
structure Sound (b : Behavior) (P : Nat) (F : Family) (s : Session) (w : World) : Prop where
  session : s.Sound b P w
  cursors : ∀ c ∈ F.cursors, c.coverage.Sound b P
  ledger : F.ledger b P <+~ b.allRows

theorem Sound.set {F : Family} {i : Nat} {c' : SplitCursor} (hF : ∀ c ∈ F.cursors, c.coverage.Sound b P)
    (hc' : c'.coverage.Sound b P) : ∀ d ∈ F.cursors.set i c', d.coverage.Sound b P := fun d hd =>
  (List.mem_or_eq_of_mem_set hd).elim (hF d) fun h => h ▸ hc'

/-- Every operation keeps a family sound, and what the family has handed out and still owes
afterwards is a part of what it had before. -/
theorem step_shrinks (hb : b.Paged P) (F : Family) (s : Session) (w : World) (op : FamilyOp)
    (h : F.Sound b P s w) :
    (F.step op).Holds s w fun G s' w' => G.Sound b P s' w' ∧ G.ledger b P <+~ F.ledger b P := by
  cases op with
  | next i =>
    rcases hc : F.cursors[i]? with _ | c
    · exact (holds_step_missing hc).1.mpr ⟨h, List.Subperm.refl _⟩
    rw [holds_step_next hc]
    refine (SplitCursor.next_sound hb h.session (h.cursors c (List.mem_of_getElem? hc))).mono ?_
    rintro ⟨r, c'⟩ s' w' ⟨hs', hc', hsub⟩
    obtain ⟨A, B, hold, hnew⟩ := flatMap_set hc c' (SplitCursor.owed b P)
    -- the row handed out leaves what the cursor owes
    have hled : ledger b P { cursors := F.cursors.set i c', answers := F.answers ++ [(i, r)] } <+~
        F.ledger b P := by
      simp only [ledger, returned_append, hnew, hold, List.append_assoc]
      refine (perm_handOut _ _ _ _ _).subperm.trans (List.Sublist.subperm ?_)
      simpa only [List.append_assoc] using
        ((hsub.append_right B).append_left A).append_left F.returned
    exact ⟨⟨hs', Sound.set h.cursors hc', hled.trans h.ledger⟩, hled⟩
  | split i =>
    rcases hc : F.cursors[i]? with _ | c
    · exact (holds_step_missing hc).2.1.mpr ⟨h, List.Subperm.refl _⟩
    rw [holds_step_split hc]
    refine (SplitCursor.trySplit_sound hb h.session
      (h.cursors c (List.mem_of_getElem? hc))).mono ?_
    rintro ⟨sib, c'⟩ s' w' ⟨hs', hc', hsib, hsub⟩
    obtain ⟨A, B, hold, hnew⟩ := flatMap_set hc c' (SplitCursor.owed b P)
    -- the sibling owes a part of what the cursor owed
    have hled : ledger b P { F with cursors := F.cursors.set i c' ++ sib.toList } <+~
        F.ledger b P := by
      simp only [ledger, returned_cursors, List.flatMap_append, hnew, hold, List.append_assoc]
      refine (perm_sibling _ _ _ _ _).subperm.trans (List.Sublist.subperm ?_)
      simpa only [List.append_assoc] using
        ((hsub.append_right B).append_left A).append_left F.returned
    refine ⟨⟨hs', fun d hd => ?_, hled.trans h.ledger⟩, hled⟩
    rcases List.mem_append.mp hd with hd | hd
    · exact Sound.set h.cursors hc' d hd
    · exact hsib d (by simpa using hd)
  | close i =>
    rcases hc : F.cursors[i]? with _ | c
    · exact (holds_step_missing hc).2.2.mpr ⟨h, List.Subperm.refl _⟩
    rw [holds_step_close hc]
    refine (SplitCursor.finish_sound h.session c).mono ?_
    rintro c' s' w' ⟨hs', rfl⟩
    obtain ⟨A, B, hold, hnew⟩ := flatMap_set hc { c with rows := [], leased := false }
      (SplitCursor.owed b P)
    -- a closed cursor owes nothing
    have hled : ledger b P
        { F with cursors := F.cursors.set i { c with rows := [], leased := false } } <+~
        F.ledger b P := by
      simp only [ledger, returned_cursors, hnew, hold]
      exact (((List.nil_sublist _).append_left A).append_right B |>.append_left _).subperm
    exact ⟨⟨hs', Sound.set h.cursors (h.cursors c (List.mem_of_getElem? hc)),
      hled.trans h.ledger⟩, hled⟩
  | cancel =>
    simp only [step, holds_bind, Session.holds_cancel, holds_pure]
    exact ⟨⟨⟨h.session.serves, h.session.pageSize, h.session.ready⟩, h.cursors, h.ledger⟩,
      List.Subperm.refl _⟩
  | closeSession =>
    simp only [step, holds_bind]
    exact (Session.close_sound h.session).mono fun _ s' w' hs' =>
      ⟨⟨hs', h.cursors, h.ledger⟩, List.Subperm.refl _⟩

/-- Every operation keeps a family sound. -/
theorem step_sound (hb : b.Paged P) (F : Family) (s : Session) (w : World) (op : FamilyOp)
    (h : F.Sound b P s w) : (F.step op).Holds s w (Sound b P) :=
  (step_shrinks hb F s w op h).mono fun _ _ _ h' => h'.1

/-- No row is handed out twice by a sound family. -/
theorem Sound.returned_nodup {F : Family} {s : Session} {w : World} (h : F.Sound b P s w) :
    F.returned.Nodup :=
  (List.nodup_append.mp (nodup_of_subperm h.ledger b.allRows_nodup)).1

/-- A root cursor owes every row. -/
theorem ledger_root : root.ledger b P = b.allRows := by
  simp [ledger, root, returned, SplitCursor.owed, SplitCursor.unread, Coverage.unfetched]

/-- Every run of a family opened on a sound session keeps it sound. -/
theorem drive_sound (hb : b.Paged P) {s : Session} {w : World} (h : s.Sound b P w)
    (ops : List FamilyOp) : (drive ops).Holds s w (Sound b P) := by
  rw [drive, holds_bind, Session.holds_attach]
  refine run_invariant (Sound b P) (fun _ => True) (fun F s w op _ hF => step_sound hb F s w op hF)
    ops root _ w (fun _ _ => trivial) ⟨h.attach, ?_, ?_⟩
  · simp [root, Coverage.Sound]
  · rw [ledger_root]

end Sound

/-! ## Along healthy reads -/

section Exact

variable {b : Behavior} {P : Nat} {J : String}

/-- How many cursors of the family hold a lease. -/
def leases (F : Family) : Nat := F.cursors.countP (·.leased)

/-- Where a healthy reading of a family's cursors stands: before the session's start, with the
root alone; reading job `J`, every cursor that holds a lease started on it; or with every
cursor released. -/
inductive Stage (b : Behavior) (P : Nat) (J : String) (cs : List SplitCursor) (s : Session)
    (w : World) : Prop
  | fresh : cs = [{}] → s.Fresh b P J w → Stage b P J cs s w
  | reading : s.Live b P J w →
      (∀ (i : Nat) (c : SplitCursor), cs[i]? = some c → c.leased = true → c.Reading b P J) →
      Stage b P J cs s w
  | drained : (∀ c ∈ cs, c.leased = false) → Stage b P J cs s w

/-- What a healthy reading of a family keeps: the session counts the leases, the rows handed out
with the rows still owed are exactly the job's rows (in order while the root is alone), the
root stays alone without a row count, and a cursor that said it has no more rows is released. -/
structure Exact (b : Behavior) (P : Nat) (J : String) (F : Family) (s : Session) (w : World) :
    Prop where
  consumers : s.consumers = F.leases
  ledger : F.ledger b P ~ b.allRows
  inOrder : F.cursors.length = 1 → F.ledger b P = b.allRows
  single : b.reportRowsInJob = false → F.cursors.length = 1
  answered : ∀ a ∈ F.answers, a.1 < F.cursors.length
  ended : ∀ i c, F.cursors[i]? = some c → F.Ended i → c.leased = false
  stage : Stage b P J F.cursors s w

theorem getElem?_set_cases {α : Type} {l : List α} {i j : Nat} {a d : α}
    (h : (l.set i a)[j]? = some d) : (j = i ∧ d = a) ∨ (j ≠ i ∧ l[j]? = some d) := by
  rw [List.getElem?_set] at h
  by_cases hij : i = j
  · subst hij
    simp only [if_true] at h
    split at h
    · exact Or.inl ⟨rfl, (Option.some.inj h).symm⟩
    · cases h
  · simp only [hij, if_false] at h
    exact Or.inr ⟨Ne.symm hij, h⟩

theorem set_self_of_getElem? {α : Type} {l : List α} {i : Nat} {a : α} (h : l[i]? = some a) :
    l.set i a = l := by
  obtain ⟨hi, rfl⟩ := List.getElem?_eq_some_iff.mp h
  exact List.set_getElem_self hi

/-- At every stage of a healthy reading, a cursor that holds a lease can be read without a
failure, and every other cursor that holds one reads the job. -/
theorem Stage.readable {cs : List SplitCursor} {s : Session} {w : World}
    (h : Stage b P J cs s w) {i : Nat} {c : SplitCursor} (hc : cs[i]? = some c)
    (hl : c.leased = true) :
    c.Readable b P J s w ∧
      ∀ j d, cs[j]? = some d → j ≠ i → d.leased = true → d.Reading b P J := by
  cases h with
  | fresh hcs hfresh =>
    rw [hcs] at hc
    have hi : i = 0 := by
      by_contra hne
      obtain ⟨hlt, -⟩ := List.getElem?_eq_some_iff.mp hc
      simp at hlt
      omega
    subst hi
    cases hc
    refine ⟨Or.inr ⟨rfl, rfl, hfresh⟩, fun j d hd hji _ => ?_⟩
    rw [hcs] at hd
    obtain ⟨hlt, -⟩ := List.getElem?_eq_some_iff.mp hd
    simp at hlt
    omega
  | reading hlive hread =>
    exact ⟨Or.inl ⟨hlive, hread i c hc hl⟩, fun j d hd _ hdl => hread j d hd hdl⟩
  | drained hall =>
    exact absurd hl (by simp [hall c (List.mem_of_getElem? hc)])

/-- A cursor of an exact family that holds a lease can be read without a failure, and every
other cursor that holds one reads the job. -/
theorem Exact.readable {F : Family} {s : Session} {w : World} (h : F.Exact b P J s w) {i : Nat}
    {c : SplitCursor} (hc : F.cursors[i]? = some c) (hl : c.leased = true) :
    c.Readable b P J s w ∧
      ∀ j d, F.cursors[j]? = some d → j ≠ i → d.leased = true → d.Reading b P J :=
  h.stage.readable hc hl

theorem eq_singleton_of_length {α : Type} {l : List α} {i : Nat} {a : α} (hl : l.length = 1)
    (h : l[i]? = some a) : i = 0 ∧ l = [a] := by
  obtain ⟨x, rfl⟩ := List.length_eq_one_iff.mp hl
  cases i with
  | zero => simpa [eq_comm] using h
  | succ i => simp at h

/-- Replacing a cursor moves the leases by what the two cursors hold. -/
theorem leases_set {l : List SplitCursor} {i : Nat} {c : SplitCursor} (hc : l[i]? = some c)
    (c' : SplitCursor) :
    (l.set i c').countP (·.leased) + (if c.leased then 1 else 0) =
      l.countP (·.leased) + (if c'.leased then 1 else 0) := by
  obtain ⟨hi, rfl⟩ := List.getElem?_eq_some_iff.mp hc
  have hpos : l[i].leased = true → 0 < l.countP (·.leased) := fun h =>
    List.countP_pos_iff.mpr ⟨l[i], List.getElem_mem hi, h⟩
  rw [List.countP_set hi]
  cases h : l[i].leased with
  | false => simp
  | true =>
    have hpos := hpos h
    simp only [if_true]
    omega

/-- A read moves the rows it hands out from what its cursor owes to the rows handed out; with
one cursor, in place. -/
theorem ledger_next {F : Family} {i : Nat} {c c' : SplitCursor} (hc : F.cursors[i]? = some c)
    {r : Except QueryError (Option Value)}
    (h : SplitCursor.handedOut r ++ c'.owed b P = c.owed b P) :
    ledger b P { cursors := F.cursors.set i c', answers := F.answers ++ [(i, r)] } ~
        F.ledger b P ∧
      (F.cursors.length = 1 →
        ledger b P { cursors := F.cursors.set i c', answers := F.answers ++ [(i, r)] } =
          F.ledger b P) := by
  obtain ⟨A, B, hold, hnew⟩ := flatMap_set hc c' (SplitCursor.owed b P)
  refine ⟨?_, fun hlen => ?_⟩
  · simp only [ledger, returned_append, hnew, hold, ← h, List.append_assoc]
    exact perm_handOut _ _ _ _ _
  · obtain ⟨rfl, hF⟩ := eq_singleton_of_length hlen hc
    simp [ledger, hF, ← h]

/-- A split moves what the sibling owes out of what its cursor owed; a split that makes no
sibling changes nothing. -/
theorem ledger_split {F : Family} {i : Nat} {c c' : SplitCursor} (hc : F.cursors[i]? = some c)
    {sib : Option SplitCursor}
    (h : c'.owed b P ++ sib.toList.flatMap (SplitCursor.owed b P) = c.owed b P) :
    ledger b P { F with cursors := F.cursors.set i c' ++ sib.toList } ~ F.ledger b P ∧
      ((F.cursors.set i c' ++ sib.toList).length = 1 →
        ledger b P { F with cursors := F.cursors.set i c' ++ sib.toList } = F.ledger b P) := by
  obtain ⟨A, B, hold, hnew⟩ := flatMap_set hc c' (SplitCursor.owed b P)
  refine ⟨?_, fun hlen => ?_⟩
  · simp only [ledger, returned_cursors, List.flatMap_append, hnew, hold, ← h,
      List.append_assoc]
    exact perm_sibling _ _ _ _ _
  · -- one cursor after a split: there was one before, and no sibling was made
    have hi : i < F.cursors.length := (List.getElem?_eq_some_iff.mp hc).1
    cases sib with
    | some x =>
      simp only [List.length_append, List.length_set, Option.toList_some,
        List.length_singleton] at hlen
      omega
    | none =>
      simp only [Option.toList_none, List.append_nil, List.length_set, List.flatMap_nil]
        at hlen h ⊢
      obtain ⟨rfl, hF⟩ := eq_singleton_of_length hlen hc
      simp [ledger, hF, h]

theorem ended_next {F : Family} {l : List SplitCursor} {i j : Nat}
    {r : Except QueryError (Option Value)}
    (h : Ended { cursors := l, answers := F.answers ++ [(i, r)] } j) :
    F.Ended j ∨ (j = i ∧ r = .ok none) := by
  simp only [Ended, List.mem_append, List.mem_singleton, Prod.mk.injEq] at h
  rcases h with h | ⟨hj, hr⟩
  · exact Or.inl h
  · exact Or.inr ⟨hj, hr.symm⟩

section Stages

variable {l : List SplitCursor} {i : Nat} {c' : SplitCursor} {s : Session} {w : World}

/-- After cursor `i` is read on a live session, the family is still reading. -/
theorem Stage.reading_set (hlive : s.Live b P J w)
    (hothers : ∀ j d, l[j]? = some d → j ≠ i → d.leased = true → d.Reading b P J)
    (hc' : c'.leased = true → c'.Reading b P J) : Stage b P J (l.set i c') s w := by
  refine .reading hlive fun j d hd hdl => ?_
  rcases getElem?_set_cases hd with ⟨-, rfl⟩ | ⟨hji, hd⟩
  · exact hc' hdl
  · exact hothers j d hd hji hdl

/-- After cursor `i` is split on a live session, the family is still reading. -/
theorem Stage.reading_split {sib : Option SplitCursor} (hlive : s.Live b P J w)
    (hothers : ∀ j d, l[j]? = some d → j ≠ i → d.leased = true → d.Reading b P J)
    (hc' : c'.Reading b P J) (hsib : ∀ x ∈ sib, x.Reading b P J) :
    Stage b P J (l.set i c' ++ sib.toList) s w := by
  refine .reading hlive fun j d hd hdl => ?_
  by_cases hj : j < l.length
  · rw [List.getElem?_append_left (by simpa using hj)] at hd
    rcases getElem?_set_cases hd with ⟨-, rfl⟩ | ⟨hji, hd⟩
    · exact hc'
    · exact hothers j d hd hji hdl
  · rw [List.getElem?_append_right (by simp; omega)] at hd
    exact hsib d (by simpa using List.mem_of_getElem? hd)

theorem Stage.drained_of_leases (h : l.countP (·.leased) = 0) : Stage b P J l s w :=
  .drained fun c hc => by simpa using List.countP_eq_zero.mp h c hc

end Stages

section Steps

variable {F : Family} {s s' : Session} {w w' : World} {i : Nat} {c c' : SplitCursor}

/-- A read keeps a family exact when the rows it hands out leave what its cursor owes, only an
answer that there are no more rows releases the cursor, and the session counts the leases. -/
theorem Exact.next_of (h : F.Exact b P J s w) (hc : F.cursors[i]? = some c)
    {r : Except QueryError (Option Value)}
    (hledger : SplitCursor.handedOut r ++ c'.owed b P = c.owed b P)
    (hend : r = .ok none → c'.leased = false) (hkeep : c.leased = false → c'.leased = false)
    (hcons : s'.consumers = (F.cursors.set i c').countP (·.leased))
    (hstage : Stage b P J (F.cursors.set i c') s' w') :
    Exact b P J { cursors := F.cursors.set i c', answers := F.answers ++ [(i, r)] } s' w' := by
  obtain ⟨hperm, hsame⟩ := ledger_next hc hledger
  have hi : i < F.cursors.length := (List.getElem?_eq_some_iff.mp hc).1
  refine ⟨hcons, hperm.trans h.ledger, fun hlen => ?_, fun hr => ?_, fun a ha => ?_,
    fun j d hd hj => ?_, hstage⟩
  · rw [List.length_set] at hlen
    rw [hsame hlen, h.inOrder hlen]
  · simpa using h.single hr
  · rcases List.mem_append.mp ha with ha | ha
    · simpa using h.answered a ha
    · rw [List.mem_singleton.mp ha]
      simpa using hi
  · rcases getElem?_set_cases hd with ⟨rfl, rfl⟩ | ⟨hji, hd⟩
    · -- cursor `i` ended before, or ends now
      rcases ended_next hj with hj | ⟨-, hr⟩
      · exact hkeep (h.ended j c hc hj)
      · exact hend hr
    · rcases ended_next hj with hj | ⟨hji', -⟩
      · exact h.ended j d hd hj
      · exact absurd hji' hji

/-- A split keeps a family exact when its cursor and the sibling owe together what the cursor
owed, the cursor keeps its lease, a sibling comes only with a row count, and the session counts
the leases. -/
theorem Exact.split_of (h : F.Exact b P J s w) (hc : F.cursors[i]? = some c)
    {sib : Option SplitCursor}
    (hledger : c'.owed b P ++ sib.toList.flatMap (SplitCursor.owed b P) = c.owed b P)
    (hleased : c'.leased = c.leased) (hsingle : b.reportRowsInJob = false → sib = none)
    (hcons : s'.consumers = (F.cursors.set i c' ++ sib.toList).countP (·.leased))
    (hstage : Stage b P J (F.cursors.set i c' ++ sib.toList) s' w') :
    Exact b P J { F with cursors := F.cursors.set i c' ++ sib.toList } s' w' := by
  obtain ⟨hperm, hsame⟩ := ledger_split hc hledger
  have hi : i < F.cursors.length := (List.getElem?_eq_some_iff.mp hc).1
  refine ⟨hcons, hperm.trans h.ledger, fun hlen => ?_, fun hr => ?_, fun a ha => ?_,
    fun j d hd hj => ?_, hstage⟩
  · have hone : F.cursors.length = 1 := by
      simp only [List.length_append, List.length_set] at hlen
      omega
    rw [hsame hlen, h.inOrder hone]
  · simpa [hsingle hr] using h.single hr
  · have := h.answered a ha
    simp only [List.length_append, List.length_set]
    omega
  · -- an ended cursor answered, so it is not the sibling
    have hj' : j < (F.cursors.set i c').length := by
      simpa using h.answered (j, .ok none) hj
    rw [List.getElem?_append_left hj'] at hd
    rcases getElem?_set_cases hd with ⟨rfl, rfl⟩ | ⟨-, hd⟩
    · rw [hleased]
      exact h.ended j c hc hj
    · exact h.ended j d hd hj

end Steps

/-- Every read and every split on a healthy service keeps a family exact. -/
theorem step_exact (hb : b.Paged P) (hh : b.Healthy) (F : Family) (s : Session) (w : World)
    (op : FamilyOp) (hop : op.reads = true) (h : F.Exact b P J s w) :
    (F.step op).Holds s w (Exact b P J) := by
  cases op with
  | next i =>
    rcases hc : F.cursors[i]? with _ | c
    · exact (holds_step_missing hc).1.mpr h
    rw [holds_step_next hc]
    have hcount := leases_set hc
    cases hl : c.leased with
    | false =>
      -- a released cursor answers that it has no more rows
      rw [SplitCursor.next_released hl, holds_pure]
      have hset := set_self_of_getElem? hc
      refine Exact.next_of h hc (by simp [SplitCursor.owed, SplitCursor.handedOut, hl])
        (fun _ => hl) id ?_ ?_
      · rw [hset]
        exact h.consumers
      · rw [hset]
        exact h.stage
    | true =>
      obtain ⟨hread, hothers⟩ := h.readable hc hl
      refine (SplitCursor.next_exact hb hh hread hl).mono ?_
      rintro ⟨r, c'⟩ s' w' hout
      dsimp only at hout ⊢
      rcases hout with ⟨row, rfl, hunread, hl', hread', hlive, hcons⟩ |
        ⟨rfl, hl', hnil, hcons, hlive⟩
      · -- a row is handed out and the cursor keeps its lease
        have hcount := hcount c'
        simp only [hl, hl', if_true] at hcount
        refine Exact.next_of h hc ?_ (by simp) (by simp [hl]) ?_
          (Stage.reading_set hlive hothers fun _ => hread')
        · simp [SplitCursor.owed, SplitCursor.handedOut, hl, hl', ← hunread]
        · rw [hcons, h.consumers, leases]
          omega
      · -- no row is left: the cursor gives its lease back
        have hcount := hcount c'
        simp only [hl, hl', if_true, Bool.false_eq_true, if_false] at hcount
        have hcons' : s'.consumers = (F.cursors.set i c').countP (·.leased) := by
          rw [hcons, h.consumers, leases]
          omega
        refine Exact.next_of h hc ?_ (fun _ => hl') (fun _ => hl') hcons' ?_
        · simp [SplitCursor.owed, SplitCursor.handedOut, hl, hl', hnil]
        · by_cases hz : s.consumers - 1 = 0
          · exact Stage.drained_of_leases (by rw [← hcons', hcons, hz])
          · exact Stage.reading_set (hlive hz) hothers fun h' => absurd h' (by simp [hl'])
  | split i =>
    rcases hc : F.cursors[i]? with _ | c
    · exact (holds_step_missing hc).2.1.mpr h
    rw [holds_step_split hc]
    cases hl : c.leased with
    | false =>
      -- a released cursor splits no more
      rw [SplitCursor.trySplit_released hl, holds_pure]
      have hset := set_self_of_getElem? hc
      refine Exact.split_of h hc (by simp) rfl (fun _ => rfl) ?_ ?_
      · simpa [hset, leases] using h.consumers
      · simpa [hset] using h.stage
    | true =>
      obtain ⟨hread, hothers⟩ := h.readable hc hl
      refine (SplitCursor.trySplit_exact hb hh hread hl).mono ?_
      rintro ⟨sib, c'⟩ s' w' hout
      dsimp only at hout ⊢
      obtain ⟨hlive, hread', hl', hcases⟩ := hout
      have hcount := leases_set hc c'
      rw [hl'] at hcount
      rcases hcases with ⟨rfl, hunread, hcons⟩ | ⟨x, rfl, hreport, hx, hxl, hunread, hcons⟩
      · -- no sibling: the cursor keeps its rows
        refine Exact.split_of h hc ?_ hl' (fun _ => rfl) ?_
          (Stage.reading_split hlive hothers hread' (by rintro y ⟨⟩))
        · simp [SplitCursor.owed, hl, hl', hunread]
        · simp only [Option.toList_none, List.append_nil]
          rw [hcons, h.consumers, leases]
          omega
      · -- a sibling takes the upper pages and a lease of its own
        refine Exact.split_of h hc ?_ hl' (fun hr => absurd hreport (by simp [hr])) ?_
          (Stage.reading_split hlive hothers hread' (by rintro y ⟨⟩; exact hx))
        · simp [SplitCursor.owed, hl, hl', hxl, hunread]
        · simp only [Option.toList_some, List.countP_append, List.countP_singleton, hxl,
            if_true]
          rw [hcons, h.consumers, leases]
          omega
  | close _ | cancel | closeSession => simp [FamilyOp.reads] at hop

/-- A root cursor opened on a fresh session with no consumer is exact. -/
theorem Exact.root_attach {s : Session} {w : World} (h : s.Fresh b P J w) (h0 : s.consumers = 0) :
    root.Exact b P J { s with consumers := s.consumers + 1 } w where
  consumers := by simp [h0, leases, root]
  ledger := by rw [ledger_root]
  inOrder _ := ledger_root
  single _ := rfl
  answered a ha := by simp [root] at ha
  ended i c _ hi := by simp [Ended, root] at hi
  stage := .fresh rfl h.attach

/-- Every run of reads and splits on a healthy service, from a fresh session, keeps the family
exact. -/
theorem drive_exact (hb : b.Paged P) (hh : b.Healthy) {s : Session} {w : World}
    (h : s.Fresh b P J w) (h0 : s.consumers = 0) (ops : List FamilyOp)
    (hops : ∀ op ∈ ops, op.reads = true) : (drive ops).Holds s w (Exact b P J) := by
  rw [drive, holds_bind, Session.holds_attach]
  exact run_invariant (Exact b P J) (fun op => op.reads = true)
    (fun F s w op hop hF => step_exact hb hh F s w op hop hF) ops root _ w hops
    (Exact.root_attach h h0)

variable {F : Family} {s : Session} {w : World}

/-- Once every cursor of an exact family has said it has no more rows, the family has handed out
exactly the job's rows. -/
theorem Exact.covers (h : F.Exact b P J s w) (hend : ∀ i < F.cursors.length, F.Ended i) :
    F.returned ~ b.allRows := by
  -- every cursor is released, so none owes a row
  have howed : F.cursors.flatMap (SplitCursor.owed b P) = [] := by
    refine List.flatMap_eq_nil_iff.mpr fun c hc => ?_
    obtain ⟨i, hi, rfl⟩ := List.getElem_of_mem hc
    simp [SplitCursor.owed, h.ended i _ (List.getElem?_eq_getElem hi) (hend i hi)]
  simpa [Family.ledger, howed] using h.ledger

/-- Without a row count the root stays alone, and once it has said it has no more rows it has
handed out the job's rows in order. -/
theorem Exact.root_in_order (h : F.Exact b P J s w) (hr : b.reportRowsInJob = false) :
    F.cursors.length = 1 ∧ (F.Ended 0 → F.returned = b.allRows) := by
  have hone := h.single hr
  refine ⟨hone, fun hend => ?_⟩
  obtain ⟨c, hc⟩ := List.length_eq_one_iff.mp hone
  have hl : c.leased = false := h.ended 0 c (by simp [hc]) hend
  simpa [Family.ledger, hc, SplitCursor.owed, hl] using h.inOrder hone

end Exact

/-! ## Every row exactly once -/

/-- A family of split cursors over the in-memory service hands out every row of the job exactly
once. Take a session made by `Session.make` with pages of `P` rows (`P` a 32-bit size), over a
new in-memory service whose `R` rows and one more page fit in 64 bits, and run any operations on
a root cursor opened on it and on every cursor split from it. Then:

* the rows handed out are pairwise distinct, whatever the service does (a failing page, a page
  without data, a job that never finishes) and whatever the reader does (closing cursors,
  cancelling or closing the session);
* on a healthy service, when the reader only reads and splits and every cursor has said it has
  no more rows, the rows handed out are the rows `0 ..< R`, each once;
* on a healthy service that reports no row count, no split is made, and once the root has said
  it has no more rows it has handed out the rows `0 ..< R` in order. -/
theorem drive_rows_exactly_once {sql : String} {config : SessionConfig} {svc : QueryService}
    {standalone : Bool} {s : Session} (hs : Session.make sql config svc standalone = .ok s)
    (hP32 : config.pageSize < Nat.pow 2 32) {b : Behavior}
    (hfit : b.rows + config.pageSize < Nat.pow 2 64) {w : World}
    (hw : w.backend = .fake { behavior := b }) (ops : List FamilyOp) :
    (drive ops).Holds s w fun F _ _ =>
      F.returned.Nodup ∧
        (b.Healthy → (∀ op ∈ ops, op.reads = true) →
          ((∀ i < F.cursors.length, F.Ended i) → F.returned ~ b.allRows) ∧
          (b.reportRowsInJob = false →
            F.cursors.length = 1 ∧ (F.Ended 0 → F.returned = b.allRows))) := by
  obtain ⟨p, hparams, -⟩ := Session.make_ok hs
  obtain ⟨-, -, hP0⟩ := SessionConfig.params_eq hparams
  have hb : b.Paged config.pageSize := ⟨hP0, hfit⟩
  have hsound := drive_sound hb (Session.make_sound hs ⟨_, hw, rfl⟩) ops
  by_cases hreads : b.Healthy ∧ ∀ op ∈ ops, op.reads = true
  · -- a healthy run of reads and splits is also exact
    obtain ⟨hh, hops⟩ := hreads
    obtain ⟨hfresh, h0⟩ := Session.make_fresh hs hP32 hb hh hw
    refine (hsound.and (drive_exact hb hh hfresh h0 ops hops)).mono ?_
    rintro F _ _ ⟨hF, hE⟩
    exact ⟨hF.returned_nodup, fun _ _ => ⟨hE.covers, hE.root_in_order⟩⟩
  · exact hsound.mono fun F _ _ hF =>
      ⟨hF.returned_nodup, fun hh hops => absurd ⟨hh, hops⟩ hreads⟩

/-- Three rows in pages of two: the root splits off its second page, then both cursors read
to the end. -/
theorem drive_rows_exactly_once_three_rows :
    ∃ s, Session.make "SELECT * FROM t" { pageSize := 2 } {} false = .ok s ∧
      (drive [.split 0, .next 0, .next 0, .next 1, .next 1, .next 0, .next 1]).Holds s
        { backend := .fake { behavior := { rows := 3 } } } fun F _ _ =>
        F.returned.Nodup ∧
          (Behavior.Healthy { rows := 3 } →
            (∀ op ∈ [FamilyOp.split 0, .next 0, .next 0, .next 1, .next 1, .next 0, .next 1],
              op.reads = true) →
            ((∀ i < F.cursors.length, F.Ended i) → F.returned ~ Behavior.allRows { rows := 3 }) ∧
            (Behavior.reportRowsInJob { rows := 3 } = false →
              F.cursors.length = 1 ∧ (F.Ended 0 → F.returned = Behavior.allRows { rows := 3 }))) :=
  ⟨_, rfl, @drive_rows_exactly_once "SELECT * FROM t" { pageSize := 2 } {} false _ rfl
    (by decide) { rows := 3 } (by decide) _ rfl _⟩

end Family

end JobQuery
