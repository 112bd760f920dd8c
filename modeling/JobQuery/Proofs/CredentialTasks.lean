import Mathlib
import JobQuery.Auth.Tasks

/-!
# JobQuery — one first contact, real tokens only, under any interleaving

Any number of tasks resolve and refresh the credential of one data lake through one cache,
interleaved in any order at their await points (`CredentialTasks.Reachable`). The provider calls
they make are kept, started and answered, in the order they happen: since the model is an
interleaving semantics, that order is the order in time. Along every interleaving, from a cache
that holds nothing for the lake:

* no two provider calls are in flight at once, forced or not;
* once a forced call has answered with a credential, no forced call starts again, and that
  forced answer is the only one with a credential;
* no unforced call starts before a forced call has answered with a credential;
* every credential a resolve returns has the endpoint of that forced answer and a token some
  answer of the provider gave;
* the cache holds a credential exactly when a forced call has answered with one, so a forced
  call that answers nothing caches nothing, and the next provider call is forced again.

One invariant carries all of it (`CredentialTasks.Inv`): who holds the once-cell's permit and
the refresh lock, what the cache holds, and the order of the calls (`CallOrder`). Each kind of
step keeps it (`Inv.force`, `Inv.lock`, `Inv.answerForced`, `Inv.answerRefresh`, and
`Inv.setStage` for the steps that make no call), hence every step (`Inv.step`) and every
interleaving (`Inv.reachable`).

A task that runs alone does what `CredentialContext.resolve` or `CredentialContext.refresh` does
(`run_resolve_alone`, `run_refresh_alone`).

The main result is `CredentialTasks.reachable_single_flight`.
-/

namespace JobQuery

/-! ## The cache's entries -/

namespace CredentialContext

/-- The cache has an entry for the lake id. -/
def HasSlot (c : CredentialContext) (id : String) : Prop := c.slots.any (·.1 == id) = true

variable {c : CredentialContext} {id : String}

theorem cached_touch (c : CredentialContext) (id : String) :
    (c.touch id).cached id = c.cached id := by
  unfold touch
  split
  · rfl
  · rename_i h
    -- a new entry is added only when there was none, and it holds nothing
    have hnone : c.slots.find? (·.1 == id) = none := by
      rw [List.find?_eq_none]
      intro x hx hxid
      exact h (List.any_eq_true.mpr ⟨x, hx, hxid⟩)
    simp [cached, List.find?_append, hnone]

theorem hasSlot_touch (c : CredentialContext) (id : String) : (c.touch id).HasSlot id := by
  unfold touch HasSlot
  split
  · assumption
  · simp

section Call

variable {lake : DataLake} {force : Bool} {answer : Option Credential} {c' : CredentialContext}

/-- A provider call leaves the cache's entries as they were. -/
theorem slots_of_call (h : c.call lake force = (answer, c')) : c'.slots = c.slots := by
  have hslots : (c.call lake force).2.slots = c.slots := by
    unfold call
    dsimp only
    split <;> rfl
  rw [h] at hslots
  exact hslots

theorem cached_of_call (h : c.call lake force = (answer, c')) (id : String) :
    c'.cached id = c.cached id := by
  simp only [cached, slots_of_call h]

theorem hasSlot_of_call (h : c.call lake force = (answer, c')) :
    c'.HasSlot id ↔ c.HasSlot id := by
  simp only [HasSlot, slots_of_call h]

end Call

theorem cached_store (h : c.HasSlot id) (cc : CachedCredential) :
    (c.store id cc).cached id = some cc := by
  unfold HasSlot at h
  obtain ⟨x, hx, hxid⟩ := List.any_eq_true.mp h
  simp only [cached, store, List.find?_map]
  have hsome : (c.slots.find? ((·.1 == id) ∘
      fun s => if s.1 == id then (id, some cc) else s)).isSome := by
    rw [List.find?_isSome]
    exact ⟨x, hx, by simp_all⟩
  obtain ⟨y, hy⟩ := Option.isSome_iff_exists.mp hsome
  have hyid := List.find?_some hy
  simp only [Function.comp_apply] at hyid
  rw [hy]
  split at hyid
  · simp_all
  · simp_all

theorem hasSlot_store (h : c.HasSlot id) (cc : CachedCredential) : (c.store id cc).HasSlot id := by
  unfold HasSlot store at *
  obtain ⟨x, hx, hxid⟩ := List.any_eq_true.mp h
  refine List.any_eq_true.mpr ⟨(id, some cc), List.mem_map.mpr ⟨x, hx, ?_⟩, by simp⟩
  simp [hxid]

end CredentialContext

namespace CredentialTasks

open CredentialContext
open ProviderEvent (called answered)

/-! ## The order of provider calls -/

/-- A credential as the provider's answers make it: the endpoint of a forced answer, and the
token of some answer. -/
def Answers (es : List ProviderEvent) (cred : Credential) : Prop :=
  (∃ cr, answered true (some cr) ∈ es ∧ cred.endpoint = cr.endpoint) ∧
    ∃ f cr, answered f (some cr) ∈ es ∧ cred.token = cr.token

theorem Answers.append {es : List ProviderEvent} {cred : Credential} (h : Answers es cred)
    (es' : List ProviderEvent) : Answers (es ++ es') cred :=
  ⟨h.1.imp fun _ h => ⟨List.mem_append_left _ h.1, h.2⟩,
    h.2.imp fun _ h => h.imp fun _ h => ⟨List.mem_append_left _ h.1, h.2⟩⟩

/-- The order the provider calls of a cache keep: no forced call after a forced answer with a
credential, only one such answer, no unforced call before it, and after a forced answer with
nothing the next event is a forced call. -/
structure CallOrder (es : List ProviderEvent) : Prop where
  forcedOnce : ∀ k j : Nat, ∀ cr, k < j → es[k]? = some (answered true (some cr)) →
    es[j]? ≠ some (called true)
  forcedUnique : ∀ k j : Nat, ∀ cr cr', es[k]? = some (answered true (some cr)) →
    es[j]? = some (answered true (some cr')) → k = j
  refreshAfter : ∀ j : Nat, es[j]? = some (called false) →
    ∃ k < j, ∃ cr, es[k]? = some (answered true (some cr))
  retryForced : ∀ (k : Nat) e, es[k]? = some (answered true none) → es[k + 1]? = some e →
    e = called true

theorem getElem?_concat {es : List ProviderEvent} {e x : ProviderEvent} {k : Nat}
    (h : (es ++ [e])[k]? = some x) :
    (k < es.length ∧ es[k]? = some x) ∨ (k = es.length ∧ x = e) := by
  by_cases hk : k < es.length
  · rw [List.getElem?_append_left hk] at h
    exact Or.inl ⟨hk, h⟩
  · rw [List.getElem?_append_right (by omega)] at h
    have hk' : k - es.length = 0 := by
      by_contra hne
      rw [List.getElem?_singleton, if_neg hne] at h
      cases h
    simp only [hk', List.getElem?_singleton, if_true, Option.some.injEq] at h
    exact Or.inr ⟨by omega, h.symm⟩

/-- An event joins the order when it is no forced call after a forced answer with a credential,
no second such answer, no unforced call before one, and a forced call if it follows a forced
answer with nothing. -/
theorem CallOrder.append {es : List ProviderEvent} (h : CallOrder es) (e : ProviderEvent)
    (honce : e = called true → ∀ cr, answered true (some cr) ∉ es)
    (huniq : ∀ cr, e = answered true (some cr) → ∀ cr', answered true (some cr') ∉ es)
    (hafter : e = called false → ∃ cr, answered true (some cr) ∈ es)
    (hretry : es.getLast? = some (answered true none) → e = called true) :
    CallOrder (es ++ [e]) := by
  refine ⟨fun k j cr hkj hk hj => ?_, fun k j cr cr' hk hj => ?_, fun j hj => ?_,
    fun k x hk hx => ?_⟩
  · rcases getElem?_concat hj with ⟨hjlt, hj⟩ | ⟨rfl, rfl⟩
    · rw [List.getElem?_append_left (by omega)] at hk
      exact h.forcedOnce k j cr hkj hk hj
    · -- a forced call joins only while no forced answer has a credential
      rw [List.getElem?_append_left hkj] at hk
      exact honce rfl cr (List.mem_of_getElem? hk)
  · rcases getElem?_concat hk with ⟨hklt, hk⟩ | ⟨rfl, rfl⟩ <;>
      rcases getElem?_concat hj with ⟨hjlt, hj⟩ | ⟨rfl, hje⟩
    · exact h.forcedUnique k j cr cr' hk hj
    · exact absurd (List.mem_of_getElem? hk) (huniq cr' hje.symm cr)
    · exact absurd (List.mem_of_getElem? hj) (huniq cr rfl cr')
    · rfl
  · rcases getElem?_concat hj with ⟨hjlt, hj⟩ | ⟨rfl, rfl⟩
    · obtain ⟨k, hkj, cr, hk⟩ := h.refreshAfter j hj
      exact ⟨k, hkj, cr, by rw [List.getElem?_append_left (by omega)]; exact hk⟩
    · obtain ⟨cr, hcr⟩ := hafter rfl
      obtain ⟨k, hk⟩ := List.mem_iff_getElem?.mp hcr
      have hklt : k < es.length := (List.getElem?_eq_some_iff.mp hk).1
      exact ⟨k, hklt, cr, by rw [List.getElem?_append_left hklt]; exact hk⟩
  · rcases getElem?_concat hx with ⟨hxlt, hx⟩ | ⟨hxk, rfl⟩
    · rw [List.getElem?_append_left (by omega)] at hk
      exact h.retryForced k x hk hx
    · -- the event after the last one: the last one was a forced answer with nothing
      rw [List.getElem?_append_left (by omega)] at hk
      apply hretry
      rw [List.getLast?_eq_getElem?, show es.length - 1 = k by omega, hk]

theorem callOrder_nil : CallOrder [] where
  forcedOnce _ _ _ _ h := by simp at h
  forcedUnique _ _ _ _ h := by simp at h
  refreshAfter _ h := by simp at h
  retryForced _ _ h := by simp at h

/-! ## Steps, piece by piece -/

variable {S : CredentialTasks} {i : Nat} {req : CredentialRequest} {st : TaskStage}

@[simp] theorem setStage_cell : (S.setStage i req st).cell = S.cell := rfl
@[simp] theorem setStage_permit : (S.setStage i req st).permit = S.permit := rfl
@[simp] theorem setStage_refreshLock : (S.setStage i req st).refreshLock = S.refreshLock := rfl
@[simp] theorem setStage_events : (S.setStage i req st).events = S.events := rfl
@[simp] theorem setStage_context : (S.setStage i req st).context = S.context := rfl
@[simp] theorem setStage_lake : (S.setStage i req st).lake = S.lake := rfl

@[simp] theorem force_cell : (S.force i req).cell = S.cell := rfl
@[simp] theorem force_permit : (S.force i req).permit = some i := rfl
@[simp] theorem force_refreshLock : (S.force i req).refreshLock = S.refreshLock := rfl
@[simp] theorem force_events : (S.force i req).events = S.events ++ [called true] := rfl
@[simp] theorem force_context : (S.force i req).context = S.context := rfl
@[simp] theorem force_lake : (S.force i req).lake = S.lake := rfl

/-- After task `i` moves, it stands where it moved, and every other task where it stood. -/
theorem setStage_tasks {j : Nat} {t : CredentialRequest × TaskStage}
    (h : (S.setStage i req st).tasks[j]? = some t) :
    (j = i ∧ t = (req, st)) ∨ (j ≠ i ∧ S.tasks[j]? = some t) := by
  unfold setStage at h
  dsimp only at h
  by_cases hji : j = i
  · subst hji
    rw [List.getElem?_set] at h
    simp only [if_true] at h
    split at h
    · exact Or.inl ⟨rfl, (Option.some.inj h).symm⟩
    · cases h
  · rw [List.getElem?_set_ne (Ne.symm hji)] at h
    exact Or.inr ⟨hji, h⟩

/-- A task found at a stage other than the one task `i` moved to is another task, and stood
there before. -/
theorem setStage_stood {j : Nat} {r : CredentialRequest} {X : TaskStage}
    (h : (S.setStage i req st).tasks[j]? = some (r, X)) (hne : st ≠ X) :
    j ≠ i ∧ S.tasks[j]? = some (r, X) := by
  rcases setStage_tasks h with ⟨-, ht⟩ | h
  · exact absurd (Prod.mk.inj ht).2.symm hne
  · exact h

/-- What every interleaving keeps: the permit is held by the task whose forced call is in
flight, and only while nothing is cached; the refresh lock by the task whose unforced call is
in flight, and only once a credential is cached; a task that started has touched the lake's
entry; the cache holds a credential exactly when a forced call answered with one, and that
credential, like every credential returned, is made of the provider's answers; the calls keep
their order; and right after a forced answer with nothing, nobody holds a lock and nothing is
cached. -/
structure Inv (S : CredentialTasks) : Prop where
  forcingHolds : ∀ (i : Nat) req, S.tasks[i]? = some (req, TaskStage.forcing) →
    S.permit = some i
  refreshingHolds : ∀ (i : Nat) req, S.tasks[i]? = some (req, TaskStage.refreshing) →
    S.refreshLock = some i
  forcingEmpty : S.permit ≠ none → S.cell = none
  lockCached : S.refreshLock ≠ none → S.cell ≠ none
  readingCached : ∀ (i : Nat) req, S.tasks[i]? = some (req, TaskStage.reading) → S.cell ≠ none
  touched : ∀ (i : Nat) req st, S.tasks[i]? = some (req, st) → st ≠ TaskStage.fresh →
    S.context.HasSlot S.lake.id
  cellNone : S.cell = none ↔ ∀ cr, answered true (some cr) ∉ S.events
  cellFrom : ∀ cc, S.cell = some cc → Answers S.events cc.credential
  results : ∀ (i : Nat) req cred, S.tasks[i]? = some (req, TaskStage.resolved (.ok cred)) →
    Answers S.events cred
  order : CallOrder S.events
  afterNone : S.events.getLast? = some (answered true none) →
    S.permit = none ∧ S.refreshLock = none ∧ S.cell = none

/-- The first step of a task touches the lake's entry, which changes nothing else. -/
theorem Inv.touch (h : S.Inv) : Inv { S with context := S.context.touch S.lake.id } := by
  have hcell : ({ S with context := S.context.touch S.lake.id } : CredentialTasks).cell = S.cell :=
    cached_touch _ _
  exact ⟨h.forcingHolds, h.refreshingHolds, fun hp => hcell ▸ h.forcingEmpty hp,
    fun hl => hcell ▸ h.lockCached hl, fun i req hi => hcell ▸ h.readingCached i req hi,
    fun _ _ _ _ _ => hasSlot_touch _ _, hcell ▸ h.cellNone,
    fun cc hcc => h.cellFrom cc (hcell ▸ hcc), h.results, h.order,
    fun hl => hcell ▸ h.afterNone hl⟩

/-- A step that makes no provider call and takes no lock keeps the invariant when the task does
not move into a call, reads only once a credential is cached, and returns only a credential made
of the provider's answers. -/
theorem Inv.setStage (h : S.Inv) {st' : TaskStage} (hforcing : st' ≠ .forcing)
    (hrefreshing : st' ≠ .refreshing) (hreading : st' = .reading → S.cell ≠ none)
    (hresult : ∀ cred, st' = .resolved (.ok cred) → Answers S.events cred)
    (hslot : S.context.HasSlot S.lake.id) : (S.setStage i req st').Inv := by
  refine ⟨fun j r hj => ?_, fun j r hj => ?_, h.forcingEmpty, h.lockCached, fun j r hj => ?_,
    fun _ _ _ _ _ => hslot, h.cellNone, h.cellFrom, fun j r cred hj => ?_, h.order, h.afterNone⟩
  · exact h.forcingHolds j r (setStage_stood hj hforcing).2
  · exact h.refreshingHolds j r (setStage_stood hj hrefreshing).2
  · rcases setStage_tasks hj with ⟨-, ht⟩ | ⟨-, hj⟩
    · exact hreading (Prod.mk.inj ht).2.symm
    · exact h.readingCached j r hj
  · rcases setStage_tasks hj with ⟨-, ht⟩ | ⟨-, hj⟩
    · exact hresult cred (Prod.mk.inj ht).2.symm
    · exact h.results j r cred hj

/-- Taking the free permit while nothing is cached, and starting a forced call. -/
theorem Inv.force (h : S.Inv) (hp : S.permit = none) (hcell : S.cell = none)
    (hslot : S.context.HasSlot S.lake.id) : (S.force i req).Inv := by
  have hnone : ∀ cr, answered true (some cr) ∉ S.events := h.cellNone.mp hcell
  refine ⟨fun j r hj => ?_, fun j r hj => ?_, fun _ => hcell, h.lockCached, fun j r hj => ?_,
    fun _ _ _ _ _ => hslot, ?_, fun cc hcc => absurd hcc (by simp [hcell]),
    fun j r cred hj => ?_, ?_, fun hlast => ?_⟩
  · -- the task that takes the permit is the only one forcing: nobody held it before
    rcases setStage_tasks hj with ⟨rfl, -⟩ | ⟨-, hj⟩
    · rfl
    · exact absurd (h.forcingHolds j r hj) (by simp [hp])
  · exact h.refreshingHolds j r (setStage_stood hj (by simp)).2
  · exact h.readingCached j r (setStage_stood hj (by simp)).2
  · simp only [force_cell, force_events, hcell, true_iff]
    intro cr hmem
    rcases List.mem_append.mp hmem with hmem | hmem
    · exact hnone cr hmem
    · simp at hmem
  · exact (h.results j r cred (setStage_stood hj (by simp)).2).append _
  · exact h.order.append _ (fun _ => hnone) (fun _ he => by cases he) (fun he => by cases he)
      (fun _ => rfl)
  · simp at hlast

/-- Taking the free refresh lock once a credential is cached, and starting an unforced call. -/
theorem Inv.lock (h : S.Inv) (hl : S.refreshLock = none) (hcell : S.cell ≠ none)
    (hslot : S.context.HasSlot S.lake.id) :
    Inv { S.setStage i req .refreshing with
      refreshLock := some i, events := S.events ++ [.called false] } := by
  have hsome : ∃ cr, answered true (some cr) ∈ S.events := by
    by_contra hno
    exact hcell (h.cellNone.mpr fun cr hcr => hno ⟨cr, hcr⟩)
  refine ⟨fun j r hj => ?_, fun j r hj => ?_, fun hp => absurd (h.forcingEmpty hp) hcell,
    fun _ => hcell, fun j r hj => ?_, fun _ _ _ _ _ => hslot, ?_, fun cc hcc => ?_,
    fun j r cred hj => ?_, ?_, fun hlast => ?_⟩
  · exact h.forcingHolds j r (setStage_stood hj (by simp)).2
  · -- the task that takes the lock is the only one refreshing: nobody held it before
    rcases setStage_tasks hj with ⟨rfl, -⟩ | ⟨-, hj⟩
    · rfl
    · exact absurd (h.refreshingHolds j r hj) (by simp [hl])
  · exact h.readingCached j r (setStage_stood hj (by simp)).2
  · obtain ⟨cr, hcr⟩ := hsome
    exact ⟨fun hc => absurd hc hcell, fun hno => absurd (List.mem_append_left _ hcr) (hno cr)⟩
  · exact (h.cellFrom cc hcc).append _
  · exact (h.results j r cred (setStage_stood hj (by simp)).2).append _
  · refine h.order.append _ (fun he => by cases he) (fun _ he => by cases he) (fun _ => hsome)
      fun hlast => absurd (h.afterNone hlast).2.2 hcell
  · simp at hlast

theorem forcing_state (h : S.Inv) (hi : S.tasks[i]? = some (req, TaskStage.forcing)) :
    S.permit = some i ∧ S.cell = none ∧ S.refreshLock = none := by
  have hp := h.forcingHolds i req hi
  have hcell := h.forcingEmpty (by simp [hp])
  refine ⟨hp, hcell, ?_⟩
  by_contra hl
  exact h.lockCached hl hcell

theorem refreshing_state (h : S.Inv) (hi : S.tasks[i]? = some (req, TaskStage.refreshing)) :
    S.refreshLock = some i ∧ S.cell ≠ none ∧ S.permit = none := by
  have hl := h.refreshingHolds i req hi
  have hcell := h.lockCached (by simp [hl])
  refine ⟨hl, hcell, ?_⟩
  by_contra hp
  exact hcell (h.forcingEmpty hp)

theorem answerForced_none {context : CredentialContext}
    (hcall : S.context.call S.lake true = (none, context)) :
    S.answerForced i req = CredentialTasks.setStage
      { S with context, permit := none, events := S.events ++ [answered true none] } i req
      (.resolved (.error (.configuration
        ("credential provider returned nothing for data lake " ++ S.lake.id)))) := by
  unfold CredentialTasks.answerForced
  rw [hcall]

theorem answerForced_some {cr : Credential} {context : CredentialContext}
    (hcall : S.context.call S.lake true = (some cr, context)) :
    S.answerForced i req = CredentialTasks.setStage
      { S with
        context := context.store S.lake.id { endpoint := cr.endpoint, token := cr.token },
        permit := none, events := S.events ++ [answered true (some cr)] } i req .reading := by
  unfold CredentialTasks.answerForced
  rw [hcall]

/-- A forced call comes back: with a credential it is cached, with nothing the resolve fails and
nothing is cached. Either way the permit is free. -/
theorem Inv.answerForced (h : S.Inv) (hi : S.tasks[i]? = some (req, TaskStage.forcing)) :
    (S.answerForced i req).Inv := by
  obtain ⟨hp, hcell, hl⟩ := forcing_state h hi
  have hslot := h.touched i req .forcing hi (by simp)
  have hnone : ∀ cr, answered true (some cr) ∉ S.events := h.cellNone.mp hcell
  -- nobody else is forcing: the permit names task `i`
  have hothers : ∀ j r, j ≠ i → S.tasks[j]? = some (r, .forcing) → False :=
    fun j r hji hj =>
    hji (Option.some.inj ((h.forcingHolds j r hj).symm.trans hp))
  rcases hcall : S.context.call S.lake true with ⟨answer, context⟩
  have hcached : context.cached S.lake.id = S.cell := cached_of_call hcall _
  have hslot' : context.HasSlot S.lake.id := (hasSlot_of_call hcall).mpr hslot
  -- the event is no forced call, and follows no forced answer with nothing
  have horder := fun (a : Option Credential) (huniq : ∀ cr, a = some cr →
      ∀ cr', answered true (some cr') ∉ S.events) =>
    h.order.append (answered true a) (fun he => by cases he)
      (fun cr he => huniq cr (by cases he; rfl)) (fun he => by cases he)
      (fun hlast => absurd (h.afterNone hlast).1 (by simp [hp]))
  cases answer with
  | none =>
    rw [answerForced_none hcall]
    have hnothing : context.cached S.lake.id = none := hcached.trans hcell
    refine ⟨fun j r hj => ?_, fun j r hj => ?_, fun hp' => absurd rfl hp', fun hl' => ?_,
      fun j r hj => ?_, fun _ _ _ _ _ => hslot', ?_, fun cc hcc => ?_, fun j r cred hj => ?_,
      horder none (fun _ he => by cases he), fun _ => ⟨rfl, hl, ?_⟩⟩
    · obtain ⟨hji, hj⟩ := setStage_stood hj (by simp)
      exact (hothers j r hji hj).elim
    · exact h.refreshingHolds j r (setStage_stood hj (by simp)).2
    · exact absurd hl hl'
    · exact absurd hcell (h.readingCached j r (setStage_stood hj (by simp)).2)
    · -- nothing is cached, and the answer carries no credential
      simp only [cell, setStage_context, setStage_lake, setStage_events, hnothing, true_iff]
      simpa using hnone
    · simp only [cell, setStage_context, setStage_lake, hnothing] at hcc
      cases hcc
    · exact (h.results j r cred (setStage_stood hj (by simp)).2).append _
    · exact hnothing
  | some cr =>
    rw [answerForced_some hcall]
    have hstored : (context.store S.lake.id { endpoint := cr.endpoint, token := cr.token }).cached
        S.lake.id = some { endpoint := cr.endpoint, token := cr.token } :=
      cached_store hslot' _
    have hmem : answered true (some cr) ∈ S.events ++ [answered true (some cr)] := by simp
    refine ⟨fun j r hj => ?_, fun j r hj => ?_, fun hp' => absurd rfl hp',
      fun hl' => absurd hl hl', fun _ _ _ => ?_, fun _ _ _ _ _ => hasSlot_store hslot' _, ?_,
      fun cc hcc => ?_, fun j r cred hj => ?_, horder (some cr) (fun _ _ cr' => hnone cr'),
      fun hlast => by simp at hlast⟩
    · obtain ⟨hji, hj⟩ := setStage_stood hj (by simp)
      exact (hothers j r hji hj).elim
    · exact h.refreshingHolds j r (setStage_stood hj (by simp)).2
    · simp [cell, hstored]
    · simp only [cell, setStage_context, setStage_lake, setStage_events, hstored]
      exact ⟨fun hc => (Option.some_ne_none _ hc).elim, fun hno => absurd hmem (hno cr)⟩
    · -- the cached credential is the forced answer
      simp only [cell, setStage_context, setStage_lake, hstored, Option.some.injEq] at hcc
      subst hcc
      exact ⟨⟨cr, hmem, rfl⟩, ⟨true, cr, hmem, rfl⟩⟩
    · exact (h.results j r cred (setStage_stood hj (by simp)).2).append _

/-- The unforced call's answer as the cache sees it: a token that came replaces the cached one,
keeping the endpoint. -/
theorem answerRefresh_eq {answer : Option Credential} {context : CredentialContext}
    {cc : CachedCredential} (hcall : S.context.call S.lake false = (answer, context))
    (hcc : context.cached S.lake.id = some cc) :
    S.answerRefresh i req =
      CredentialTasks.setStage
        { S with
          context := answer.elim context fun cr =>
            context.store S.lake.id { cc with token := cr.token },
          refreshLock := none, events := S.events ++ [answered false answer] }
        i req (match req with
          | .resolve => .reading
          | .refresh => .refreshed answer.isSome) := by
  unfold CredentialTasks.answerRefresh
  rw [hcall]
  simp only [cell, hcc]
  cases answer <;> rfl

/-- An unforced call that comes back keeps the invariant when what is cached afterwards has the
endpoint cached before, and the token cached before or the one that came. -/
theorem Inv.answeredRefresh (h : S.Inv) (hi : S.tasks[i]? = some (req, TaskStage.refreshing))
    {answer : Option Credential} {context : CredentialContext} {cc cc' : CachedCredential}
    (hcc : S.cell = some cc) (hslot : context.HasSlot S.lake.id)
    (hcached : context.cached S.lake.id = some cc') (hend : cc'.endpoint = cc.endpoint)
    (htoken : cc'.token = cc.token ∨ ∃ cr, answer = some cr ∧ cc'.token = cr.token)
    {st : TaskStage} (hst : st = .reading ∨ ∃ b, st = .refreshed b) :
    (({ S with context, refreshLock := none, events := S.events ++ [answered false answer] } :
      CredentialTasks).setStage i req st).Inv := by
  obtain ⟨hl, hcell, hp⟩ := refreshing_state h hi
  have hsome : ∃ cr, answered true (some cr) ∈ S.events := by
    by_contra hno
    exact hcell (h.cellNone.mpr fun cr hcr => hno ⟨cr, hcr⟩)
  -- the task comes back to no call, and returns no credential yet
  have hnocall : st ≠ .forcing ∧ st ≠ .refreshing ∧ ∀ cred, st ≠ .resolved (.ok cred) := by
    rcases hst with rfl | ⟨b, rfl⟩ <;> simp
  refine ⟨fun j r hj => ?_, fun j r hj => ?_, fun hp' => absurd hp hp', fun hl' => absurd rfl hl',
    fun _ _ _ => by simp [cell, hcached], fun _ _ _ _ _ => hslot, ?_, fun c hc => ?_,
    fun j r cred hj => ?_, ?_, fun hlast => by simp at hlast⟩
  · exact absurd (h.forcingHolds j r (setStage_stood hj hnocall.1).2) (by simp [hp])
  · -- the lock named task `i`, which came back
    obtain ⟨hji, hj⟩ := setStage_stood hj hnocall.2.1
    exact absurd (Option.some.inj ((h.refreshingHolds j r hj).symm.trans hl)) hji
  · obtain ⟨cr, hcr⟩ := hsome
    simp only [cell, setStage_context, setStage_lake, setStage_events, hcached]
    exact ⟨fun hc => (Option.some_ne_none _ hc).elim,
      fun hno => absurd (List.mem_append_left _ hcr) (hno cr)⟩
  · -- the endpoint is the cached one; the token the cached one or the one that came
    simp only [cell, setStage_context, setStage_lake, hcached, Option.some.injEq] at hc
    subst hc
    have hold := (h.cellFrom cc hcc).append [answered false answer]
    refine ⟨by simpa [CachedCredential.credential, hend] using hold.1, ?_⟩
    rcases htoken with htok | ⟨cr, rfl, htok⟩
    · simpa [CachedCredential.credential, htok] using hold.2
    · exact ⟨false, cr, by simp, by simpa [CachedCredential.credential] using htok⟩
  · exact (h.results j r cred (setStage_stood hj (hnocall.2.2 cred)).2).append _
  · exact h.order.append _ (fun he => by cases he) (fun _ he => by cases he)
      (fun he => by cases he) fun hlast => absurd (h.afterNone hlast).2.1 (by simp [hl])

/-- An unforced call comes back: a token it gives replaces the cached one, keeping the endpoint.
The refresh lock is free. -/
theorem Inv.answerRefresh (h : S.Inv) (hi : S.tasks[i]? = some (req, TaskStage.refreshing)) :
    (S.answerRefresh i req).Inv := by
  obtain ⟨-, hcell, -⟩ := refreshing_state h hi
  obtain ⟨cc, hcc⟩ := Option.ne_none_iff_exists'.mp hcell
  have hslot := h.touched i req .refreshing hi (by simp)
  rcases hcall : S.context.call S.lake false with ⟨answer, context⟩
  have hcached : context.cached S.lake.id = some cc := (cached_of_call hcall _).trans hcc
  have hslot' : context.HasSlot S.lake.id := (hasSlot_of_call hcall).mpr hslot
  have hst : (match req with
      | .resolve => TaskStage.reading
      | .refresh => .refreshed answer.isSome) = .reading ∨
      ∃ b, (match req with
        | .resolve => TaskStage.reading
        | .refresh => .refreshed answer.isSome) = .refreshed b := by
    cases req <;> simp
  rw [answerRefresh_eq hcall hcached]
  cases answer with
  | none => exact h.answeredRefresh hi hcc hslot' hcached rfl (Or.inl rfl) hst
  | some cr =>
    exact h.answeredRefresh hi hcc (hasSlot_store hslot' _)
      (cached_store hslot' { cc with token := cr.token }) rfl (Or.inr ⟨cr, rfl, rfl⟩) hst

/-- Trying the refresh lock keeps the invariant once a credential is cached: the lock is taken,
or the refresh is skipped. -/
theorem Inv.tryRefresh (h : S.Inv) (hcell : S.cell ≠ none) (hslot : S.context.HasSlot S.lake.id) :
    (S.tryRefresh i req).Inv := by
  unfold CredentialTasks.tryRefresh
  split
  · exact h.lock ‹_› hcell hslot
  · cases req with
    | resolve => exact h.setStage (by simp) (by simp) (fun _ => hcell) (by simp) hslot
    | refresh => exact h.setStage (by simp) (by simp) (by simp) (by simp) hslot

/-- Every step keeps the invariant. -/
theorem Inv.step (h : S.Inv) {S' : CredentialTasks} (hs : S.step i = some S') : S'.Inv := by
  unfold CredentialTasks.step at hs
  rcases hi : S.tasks[i]? with _ | ⟨req, stage⟩
  · simp [hi] at hs
  rw [hi] at hs
  cases stage with
  | fresh =>
    -- the task touches the lake's entry first
    have ht := h.touch
    have hslot := hasSlot_touch S.context S.lake.id
    dsimp only at hs
    split at hs
    · rename_i hcell
      cases hs
      split
      · rename_i hp
        exact ht.force (Option.isNone_iff_eq_none.mp hp) hcell hslot
      · exact ht.setStage (by simp) (by simp) (by simp) (by simp) hslot
    · cases hs
      exact ht.setStage (by simp) (by simp) (by simp) (by simp) hslot
    · rename_i hcell
      cases hs
      exact ht.tryRefresh (by simp [hcell]) hslot
  | waiting =>
    have hslot := h.touched i req .waiting hi (by simp)
    dsimp only at hs
    split at hs
    · cases hs
    rename_i hp
    split at hs
    · rename_i hcell
      cases hs
      exact h.force (by simpa using hp) hcell hslot
    · rename_i hcell
      cases hs
      exact h.tryRefresh (by simp [hcell]) hslot
  | forcing =>
    cases hs
    exact h.answerForced hi
  | refreshing =>
    cases hs
    exact h.answerRefresh hi
  | reading =>
    dsimp only at hs
    split at hs
    · rename_i cc hcc
      cases hs
      exact h.setStage (by simp) (by simp) (by simp)
        (fun cred he => by cases he; exact h.cellFrom cc hcc)
        (h.touched i req .reading hi (by simp))
    · cases hs
  | resolved r => cases hs
  | refreshed b => cases hs

/-- Nothing has started and nothing is cached for the lake. -/
theorem inv_start {lake : DataLake} {context : CredentialContext}
    (hempty : context.cached lake.id = none) (requests : List CredentialRequest) :
    (start lake context requests).Inv := by
  -- every task stands fresh
  have hfresh : ∀ (i : Nat) req st,
      (start lake context requests).tasks[i]? = some (req, st) → st = .fresh := by
    intro i req st hi
    simp only [start, List.getElem?_map] at hi
    obtain ⟨r, -, hr⟩ := Option.map_eq_some_iff.mp hi
    exact (Prod.mk.inj hr).2.symm
  refine ⟨fun i req hi => ?_, fun i req hi => ?_, fun hp => absurd rfl hp,
    fun hl => absurd rfl hl, fun i req hi => ?_,
    fun i req st hi hst => absurd (hfresh i req st hi) hst, ?_, fun cc hcc => ?_,
    fun i req cred hi => ?_, callOrder_nil, fun hlast => by simp [start] at hlast⟩
  · cases hfresh i req _ hi
  · cases hfresh i req _ hi
  · cases hfresh i req _ hi
  · exact ⟨fun _ cr hcr => by simp [start] at hcr, fun _ => hempty⟩
  · exact absurd hcc (by simp [cell, start, hempty])
  · cases hfresh i req _ hi

/-- Every interleaving from a cache holding nothing for the lake keeps the invariant. -/
theorem Inv.reachable {lake : DataLake} {context : CredentialContext}
    (hempty : context.cached lake.id = none) {requests : List CredentialRequest}
    {S : CredentialTasks} (hS : Reachable (start lake context requests) S) : S.Inv := by
  induction hS with
  | start => exact inv_start hempty requests
  | step i _ hs ih => exact ih.step hs

/-- Task `i` has a provider call in flight. -/
def InCall (S : CredentialTasks) (i : Nat) : Prop :=
  ∃ req, S.tasks[i]? = some (req, TaskStage.forcing) ∨
    S.tasks[i]? = some (req, TaskStage.refreshing)

/-- No two provider calls are in flight at once. -/
theorem Inv.inCall_unique (h : S.Inv) {j : Nat} (hi : S.InCall i) (hj : S.InCall j) : i = j := by
  obtain ⟨r, hi | hi⟩ := hi <;> obtain ⟨r', hj | hj⟩ := hj
  · exact Option.some.inj ((h.forcingHolds i r hi).symm.trans (h.forcingHolds j r' hj))
  · -- a forced call needs an empty cache, an unforced one a credential
    exact absurd (forcing_state h hi).2.1 (refreshing_state h hj).2.1
  · exact absurd (forcing_state h hj).2.1 (refreshing_state h hi).2.1
  · exact Option.some.inj ((h.refreshingHolds i r hi).symm.trans (h.refreshingHolds j r' hj))

/-- Tasks resolving and refreshing one data lake's credential through one cache, interleaved in
any way from a cache that holds nothing for the lake, share one first contact and see only real
tokens:

* no two provider calls are in flight at once, forced or not;
* after a forced call has answered with a credential no forced call starts, and no other forced
  call answers with one;
* no unforced call starts before a forced call has answered with a credential;
* every credential a resolve returned has the endpoint of a forced answer and a token some
  answer gave;
* the cache holds a credential exactly when a forced call has answered with one, so a forced
  answer with nothing caches nothing, and the event after it, if any, is a forced call again. -/
theorem reachable_single_flight {lake : DataLake} {context : CredentialContext}
    (hempty : context.cached lake.id = none) {requests : List CredentialRequest}
    {S : CredentialTasks} (hS : Reachable (start lake context requests) S) :
    (∀ i j, S.InCall i → S.InCall j → i = j) ∧ CallOrder S.events ∧
    (∀ (i : Nat) req cred, S.tasks[i]? = some (req, TaskStage.resolved (.ok cred)) →
      Answers S.events cred) ∧
    (S.cell = none ↔ ∀ cr, answered true (some cr) ∉ S.events) := by
  have h := Inv.reachable hempty hS
  exact ⟨fun i j => h.inCall_unique, h.order, h.results, h.cellNone⟩

/-! ## A task on its own

A task that runs alone, while nobody holds the permit or the refresh lock, does what the
request does on its own. -/

theorem setStage_getElem?_self {t : CredentialRequest × TaskStage} (hi : S.tasks[i]? = some t) :
    (S.setStage i req st).tasks[i]? = some (req, st) := by
  have hlt := (List.getElem?_eq_some_iff.mp hi).1
  simp [setStage, hlt]

/-- The tasks once the lake's entry is made, as a task's first step makes it. -/
abbrev withEntry (S : CredentialTasks) : CredentialTasks :=
  { S with context := S.context.touch S.lake.id }

theorem step_first_contact (hi : S.tasks[i]? = some (.resolve, .fresh))
    (hc : S.withEntry.cell = none) (hp : S.permit = none) :
    S.step i = some (S.withEntry.force i .resolve) := by
  unfold CredentialTasks.step
  rw [hi]
  dsimp only
  rw [hc, hp]
  rfl

theorem step_refresh_empty (hi : S.tasks[i]? = some (.refresh, .fresh))
    (hc : S.withEntry.cell = none) :
    S.step i = some (S.withEntry.setStage i .refresh (.refreshed false)) := by
  unfold CredentialTasks.step
  rw [hi]
  dsimp only
  rw [hc]

theorem step_fresh_cached {cc : CachedCredential} (hi : S.tasks[i]? = some (req, .fresh))
    (hc : S.withEntry.cell = some cc) : S.step i = some (S.withEntry.tryRefresh i req) := by
  unfold CredentialTasks.step
  rw [hi]
  dsimp only
  rw [hc]

theorem step_forcing (hi : S.tasks[i]? = some (req, .forcing)) :
    S.step i = some (S.answerForced i req) := by
  unfold CredentialTasks.step
  rw [hi]

theorem step_refreshing (hi : S.tasks[i]? = some (req, .refreshing)) :
    S.step i = some (S.answerRefresh i req) := by
  unfold CredentialTasks.step
  rw [hi]

theorem step_reading {cc : CachedCredential} (hi : S.tasks[i]? = some (req, .reading))
    (hc : S.cell = some cc) :
    S.step i = some (S.setStage i req (.resolved (.ok cc.credential))) := by
  unfold CredentialTasks.step
  rw [hi]
  dsimp only
  rw [hc]

theorem tryRefresh_free (hl : S.refreshLock = none) :
    S.tryRefresh i req = { S.setStage i req .refreshing with
      refreshLock := some i, events := S.events ++ [called false] } := by
  unfold CredentialTasks.tryRefresh
  rw [hl]

theorem run_cons {T : CredentialTasks} {rest : List Nat} (h : S.step i = some T) :
    S.run (i :: rest) = T.run rest := by
  simp only [CredentialTasks.run, h, Option.bind_some]

/-- A resolve that runs alone returns what a resolve on its own returns, and leaves the cache as
that leaves it. -/
theorem run_resolve_alone (hi : S.tasks[i]? = some (.resolve, .fresh)) (hp : S.permit = none)
    (hl : S.refreshLock = none) :
    ∃ n S', S.run (List.replicate n i) = some S' ∧
      S'.tasks[i]? = some (.resolve, .resolved (S.context.resolve (some S.lake)).1) ∧
      S'.context = (S.context.resolve (some S.lake)).2 := by
  have hslot := hasSlot_touch S.context S.lake.id
  have hpick : S.context.pick (some S.lake) = .ok S.lake := rfl
  rcases hc : S.withEntry.cell with _ | cc
  · -- first contact: a forced call, then a read if a credential came
    have hc' : (S.context.touch S.lake.id).cached S.lake.id = none := hc
    have h1 := step_first_contact hi hc hp
    have hi2 : (S.withEntry.force i .resolve).tasks[i]? = some (.resolve, .forcing) :=
      setStage_getElem?_self hi
    have h2 := step_forcing hi2
    rcases hcall : (S.context.touch S.lake.id).call S.lake true with ⟨_ | cr, c'⟩
    · -- nothing came: the resolve fails
      rw [answerForced_none (S := S.withEntry.force i .resolve) hcall] at h2
      simp only [CredentialContext.resolve, hpick, hc', firstContact, hcall]
      exact ⟨2, _, (run_cons h1).trans (run_cons h2), setStage_getElem?_self hi2, rfl⟩
    · -- a credential came: it is cached, and read back
      rw [answerForced_some (S := S.withEntry.force i .resolve) hcall] at h2
      have hc3 := cached_store ((hasSlot_of_call hcall).mpr hslot)
        { endpoint := cr.endpoint, token := cr.token }
      simp only [CredentialContext.resolve, hpick, hc', firstContact, hcall]
      exact ⟨3, _, (run_cons h1).trans ((run_cons h2).trans
        (run_cons (step_reading (setStage_getElem?_self hi2) hc3))),
        setStage_getElem?_self (setStage_getElem?_self hi2), rfl⟩
  · -- a credential is cached: a refresh, then a read
    have h1 := step_fresh_cached hi hc
    rw [tryRefresh_free (S := S.withEntry) hl] at h1
    have hi2 : ({ S.withEntry.setStage i .resolve .refreshing with
        refreshLock := some i, events := S.events ++ [called false] } : CredentialTasks).tasks[i]? =
        some (.resolve, .refreshing) := setStage_getElem?_self hi
    have h2 := step_refreshing hi2
    rcases hcall : (S.context.touch S.lake.id).call S.lake false with ⟨answer, c'⟩
    have hslot' := (hasSlot_of_call hcall).mpr hslot
    have hcc : c'.cached S.lake.id = some cc := (cached_of_call hcall _).trans hc
    rw [answerRefresh_eq (S := { S.withEntry.setStage i .resolve .refreshing with
        refreshLock := some i, events := S.events ++ [called false] }) hcall hcc] at h2
    have hc' : (S.context.touch S.lake.id).cached S.lake.id = some cc := hc
    cases answer with
    | none =>
      simp only [CredentialContext.resolve, hpick, hc', renew, hcall, hcc]
      exact ⟨3, _, (run_cons h1).trans ((run_cons h2).trans
        (run_cons (step_reading (setStage_getElem?_self hi2) hcc))),
        setStage_getElem?_self (setStage_getElem?_self hi2), rfl⟩
    | some cr =>
      have hc3 := cached_store hslot' { cc with token := cr.token }
      simp only [CredentialContext.resolve, hpick, hc', renew, hcall, hc3]
      exact ⟨3, _, (run_cons h1).trans ((run_cons h2).trans
        (run_cons (step_reading (setStage_getElem?_self hi2) hc3))),
        setStage_getElem?_self (setStage_getElem?_self hi2), rfl⟩

/-- A refresh that runs alone answers what a refresh on its own answers, and leaves the cache as
that leaves it. -/
theorem run_refresh_alone (hi : S.tasks[i]? = some (.refresh, .fresh))
    (hl : S.refreshLock = none) :
    ∃ n S' b, S.run (List.replicate n i) = some S' ∧
      S'.tasks[i]? = some (.refresh, .refreshed b) ∧
      S.context.refresh (some S.lake) = (.ok b, S'.context) := by
  have hpick : S.context.pick (some S.lake) = .ok S.lake := rfl
  rcases hc : S.withEntry.cell with _ | cc
  · -- nothing cached: no call
    have hc' : (S.context.touch S.lake.id).cached S.lake.id = none := hc
    simp only [CredentialContext.refresh, hpick, hc']
    exact ⟨1, _, false, run_cons (step_refresh_empty hi hc), setStage_getElem?_self hi, rfl⟩
  · -- a credential is cached: an unforced call
    have h1 := step_fresh_cached hi hc
    rw [tryRefresh_free (S := S.withEntry) hl] at h1
    have hi2 : ({ S.withEntry.setStage i .refresh .refreshing with
        refreshLock := some i, events := S.events ++ [called false] } : CredentialTasks).tasks[i]? =
        some (.refresh, .refreshing) := setStage_getElem?_self hi
    rcases hcall : (S.context.touch S.lake.id).call S.lake false with ⟨answer, c'⟩
    have hcc : c'.cached S.lake.id = some cc := (cached_of_call hcall _).trans hc
    have h2 := step_refreshing hi2
    rw [answerRefresh_eq (S := { S.withEntry.setStage i .refresh .refreshing with
        refreshLock := some i, events := S.events ++ [called false] }) hcall hcc] at h2
    have hc' : (S.context.touch S.lake.id).cached S.lake.id = some cc := hc
    cases answer with
    | none =>
      simp only [CredentialContext.refresh, hpick, hc', renew, hcall]
      exact ⟨2, _, false, (run_cons h1).trans (run_cons h2), setStage_getElem?_self hi2, rfl⟩
    | some cr =>
      simp only [CredentialContext.refresh, hpick, hc', renew, hcall]
      exact ⟨2, _, true, (run_cons h1).trans (run_cons h2), setStage_getElem?_self hi2, rfl⟩

/-- A schedule that runs to its end reaches a state of the interleaving semantics. -/
theorem Reachable.of_run {S₀ S S' : CredentialTasks} (hS : Reachable S₀ S) {sched : List Nat}
    (hrun : S.run sched = some S') : Reachable S₀ S' := by
  induction sched generalizing S with
  | nil =>
    cases hrun
    exact hS
  | cons i rest ih =>
    obtain ⟨T, hT, hrest⟩ := Option.bind_eq_some_iff.mp hrun
    exact ih (hS.step i hT) hrest

/-- Two resolves and a refresh: the first contact answers nothing, the waiting resolve forces
again and gets a credential, and the refresh renews its token. -/
theorem reachable_single_flight_retry :
    ∃ S, (start ⟨"lake", 0⟩
        { providers := [.scripted [none, some ⟨"e", "t0"⟩, some ⟨"e", "t1"⟩]] }
        [.resolve, .resolve, .refresh]).run [0, 1, 0, 1, 1, 2, 1, 2] = some S ∧
      (∀ i j, S.InCall i → S.InCall j → i = j) ∧ CallOrder S.events ∧
      (∀ (i : Nat) req cred, S.tasks[i]? = some (req, TaskStage.resolved (.ok cred)) →
        Answers S.events cred) ∧
      (S.cell = none ↔ ∀ cr, answered true (some cr) ∉ S.events) :=
  Exists.imp (fun _ hrun => ⟨hrun, reachable_single_flight rfl (Reachable.of_run .start hrun)⟩)
    ⟨_, rfl⟩

end CredentialTasks

end JobQuery
