import JobQuery.Proofs.FakePages

/-!
# JobQuery — the job table of the in-memory service

The in-memory service keeps a table of jobs and a counter per endpoint. This module follows
the table and the counters along every sequence of requests sent to a new service:

* each request is routed by its method and its path segments under the root, the resource id
  last (`FakeService.route`), and every counter counts the requests routed to its endpoint,
  failed ones included (`CallCounts.get`);
* the table holds exactly the ids of the creates answered 200 less the ids of the deletes
  answered 200, counted as multisets, and no id twice;
* at every state so reached, each further request does what its endpoint promises
  (`FakeService.Obeys`): a create answers 400 exactly when its body names no non-empty query,
  otherwise 409 exactly when its id is taken, and leaves the table alone in both cases; a
  status check bumps the check count of its live job only, and answers 404 with the table
  unchanged for an absent one; a list without a tenant answers 400, and otherwise the live
  jobs whose current state passes the filter, most recent first, cut to `maxJobs`, with the
  table unchanged.

The step facts come from one inversion lemma per handler (`create_cases`, `status_cases`,
`delete_cases`); the invariant `FakeService.Keyed` (no id twice in the table) is what makes a
status check touch one job and a delete forget one.

The main result is `FakeService.handleAll_job_table`.
-/

namespace JobQuery

open Json

namespace FakeService

/-! ## Routing -/

/-- The endpoints of the service. -/
inductive Endpoint where
  | create
  | list
  | status
  | delete
  | results
  deriving DecidableEq

/-- Where a request is routed, with what the handler reads of it. -/
inductive Route where
  | create (body : Option Value)
  | list (query : List (String × String))
  | status (id : String)
  | delete (id : String)
  | results (id : String) (query : List (String × String))

/-- The endpoint of a route. -/
def Route.endpoint : Route → Endpoint
  | .create _ => .create
  | .list _ => .list
  | .status _ => .status
  | .delete _ => .delete
  | .results _ _ => .results

/-- The route of a request: its method, and its path segments under the root followed by its
resource id. -/
def route (r : ApiRequest) : Option Route :=
  if !r.path.startsWith root then none
  else
    match r.method, (String.ofList (r.path.toList.drop root.length)).splitOn "/" ++
        r.resourceId.toList with
    | .post, ["jobs"] => some (.create r.body)
    | .get, ["jobs"] => some (.list r.query)
    | .get, ["jobs", id] => some (.status id)
    | .delete, ["jobs", id] => some (.delete id)
    | .get, ["jobResults", id] => some (.results id r.query)
    | _, _ => none

/-- The handler of a route. -/
def serve (s : FakeService) : Route → Except String (ApiResponse × FakeService)
  | .create body => .ok (s.create body)
  | .list query => .ok (s.list query)
  | .status id => s.status id
  | .delete id => .ok (s.delete id)
  | .results id query => s.results id query

/-- A routed request is answered by its handler. -/
theorem handle_of_route {s : FakeService} {r : ApiRequest} {rt : Route} (h : route r = some rt) :
    s.handle r = s.serve rt := by
  unfold route at h
  unfold handle
  split at h
  · cases h
  rename_i hroot
  rw [if_neg hroot]
  split at h <;> cases h <;> simp_all [serve]

/-- A request with no route answers 404 and changes nothing. -/
theorem handle_of_no_route {s : FakeService} {r : ApiRequest} (h : route r = none) :
    ∃ m, s.handle r = .ok (errorResponse 404 m, s) := by
  unfold route at h
  unfold handle
  split
  · exact ⟨_, rfl⟩
  rename_i hroot
  rw [if_neg hroot] at h
  dsimp only
  -- each routed shape contradicts `h`; the rest answers 404
  split <;> simp_all

end FakeService

/-! ## Counters -/

namespace CallCounts

open FakeService

/-- The counter of an endpoint. -/
def get (c : CallCounts) : Endpoint → Nat
  | .create => c.creates
  | .list => c.lists
  | .status => c.statusChecks
  | .delete => c.deletes
  | .results => c.results

/-- One more call of an endpoint. -/
def bump (c : CallCounts) : Endpoint → CallCounts
  | .create => { c with creates := c.creates + 1 }
  | .list => { c with lists := c.lists + 1 }
  | .status => { c with statusChecks := c.statusChecks + 1 }
  | .delete => { c with deletes := c.deletes + 1 }
  | .results => { c with results := c.results + 1 }

@[simp] theorem get_bump (c : CallCounts) (e e' : Endpoint) :
    (c.bump e).get e' = c.get e' + if e = e' then 1 else 0 := by
  cases e <;> cases e' <;> simp [get, bump]

@[simp] theorem get_empty (e : Endpoint) : ({} : CallCounts).get e = 0 := by
  cases e <;> rfl

end CallCounts

namespace FakeService

/-! ## The table and what each handler does to it -/

/-- The ids in the table. -/
def ids (s : FakeService) : List String := s.jobs.map Prod.fst

/-- No id is twice in the table. -/
def Keyed (s : FakeService) : Prop := s.ids.Nodup

theorem find?_isSome_iff (s : FakeService) (id : String) : (s.find? id).isSome ↔ id ∈ s.ids := by
  simp [find?, ids, List.find?_isSome]

theorem find?_eq_none_iff (s : FakeService) (id : String) : s.find? id = none ↔ id ∉ s.ids := by
  rw [← find?_isSome_iff, Option.not_isSome_iff_eq_none]

/-- In a keyed table, the job found under an id is the one entry of that id. -/
theorem find?_of_mem {s : FakeService} (hkeyed : s.Keyed) {id : String} {job : FakeJob}
    (hfind : s.find? id = some job) : ∀ e ∈ s.jobs, e.1 = id → e.2 = job := by
  intro e he hid
  obtain ⟨e', hfind', rfl⟩ := Option.map_eq_some_iff.mp hfind
  have he' : e' ∈ s.jobs := List.mem_of_find?_eq_some hfind'
  have hbeq := List.find?_some hfind'
  have hid' : e'.1 = id := beq_iff_eq.mp hbeq
  rw [List.inj_on_of_nodup_map hkeyed he he' (hid.trans hid'.symm)]

/-- A create body names a non-empty query in its parameters. -/
def HasQuery : Option Value → Prop
  | none => False
  | some b => ∃ params q, b.get? "params" = some params ∧
      (params.get? "query").bind Value.asString? = some q ∧ q ≠ ""

/-- The id a create asks for: the string `jobId` of its body, else the next fresh id. -/
def createId (s : FakeService) (b : Value) : String :=
  ((b.get? "jobId").bind Value.asString?).getD (Text.mintUuid 1 s.minted)

/-- The id an answer reports in its `jobId` member. -/
def reportedId (resp : ApiResponse) : Option String :=
  (resp.body.bind (·.get? "jobId")).bind Value.asString?

/-- What a create does: refuse a body without a query (400), refuse a taken id (409), or add
the job under its id and report it (200); either way it counts one create. -/
theorem create_cases (s : FakeService) (body : Option Value) :
    (s.create body).2.calls = s.calls.bump .create ∧
    ((¬ HasQuery body ∧ (s.create body).1.status = 400 ∧ (s.create body).2.jobs = s.jobs) ∨
     (∃ b, body = some b ∧ HasQuery body ∧ createId s b ∈ s.ids ∧
        (s.create body).1.status = 409 ∧ (s.create body).2.jobs = s.jobs) ∨
     (∃ b params, body = some b ∧ b.get? "params" = some params ∧ HasQuery body ∧
        createId s b ∉ s.ids ∧ (s.create body).1.status = 200 ∧
        reportedId (s.create body).1 = some (createId s b) ∧
        (s.create body).2.jobs =
          s.jobs ++ [(createId s b, { params, submitTime := s.jobs.length + 1 })])) := by
  unfold create
  rcases body with _ | b
  · exact ⟨rfl, .inl ⟨id, rfl, rfl⟩⟩
  dsimp only
  rcases hparams : b.get? "params" with _ | params
  · refine ⟨rfl, .inl ⟨?_, rfl, rfl⟩⟩
    rintro ⟨_, _, hp, _⟩
    rw [hparams] at hp
    cases hp
  dsimp only
  -- the query must be a non-empty string
  by_cases hq : ((params.get? "query").bind Value.asString?).isNone ||
      (params.get? "query").bind Value.asString? == some ""
  · rw [if_pos hq]
    refine ⟨rfl, .inl ⟨?_, rfl, rfl⟩⟩
    rintro ⟨_, q, hp, hqs, hne⟩
    rw [hparams] at hp
    cases hp
    simp [hqs, hne] at hq
  rw [if_neg hq]
  have hhas : HasQuery (some b) := by
    simp only [Bool.or_eq_true, Option.isNone_iff_eq_none, beq_iff_eq, not_or] at hq
    obtain ⟨q, hqs⟩ := Option.ne_none_iff_exists'.mp hq.1
    exact ⟨params, q, hparams, hqs, fun h => hq.2 (h ▸ hqs)⟩
  -- the id: the body's string `jobId`, or a fresh one
  rcases hid : (b.get? "jobId").bind Value.asString? with _ | id
  all_goals
    have hcid : createId s b = (((b.get? "jobId").bind Value.asString?).getD
      (Text.mintUuid 1 s.minted)) := rfl
    simp only [hid, Option.getD_none, Option.getD_some] at hcid
    dsimp only
    split
    · rename_i htaken
      rw [find?_isSome_iff] at htaken
      refine ⟨rfl, .inr (.inl ⟨b, rfl, hhas, ?_, rfl, rfl⟩)⟩
      simpa [hcid, ids] using htaken
    · rename_i hfree
      rw [Bool.not_eq_true, ← Bool.not_eq_true, find?_isSome_iff] at hfree
      refine ⟨rfl, .inr (.inr ⟨b, params, rfl, hparams, hhas, ?_, rfl, ?_, ?_⟩)⟩
      · simpa [hcid, ids] using hfree
      · simp [reportedId, Value.get?_object, Value.asString?, hcid]
      · simp [hcid]

/-- One status check more for the job under `id`. -/
def bumpChecks (id : String) (e : String × FakeJob) : String × FakeJob :=
  if e.1 = id then (e.1, { e.2 with statusChecks := e.2.statusChecks + 1 }) else e

@[simp] theorem fst_bumpChecks (id : String) (e : String × FakeJob) : (bumpChecks id e).1 = e.1 := by
  unfold bumpChecks
  split <;> rfl

/-- In a keyed table, replacing the job found under `id` by itself with one check more bumps the
check count of that entry and of no other. -/
theorem update_bumpChecks {s : FakeService} (hkeyed : s.Keyed) {id : String} {job : FakeJob}
    (hfind : s.find? id = some job) :
    (s.update id { job with statusChecks := job.statusChecks + 1 }).jobs =
      s.jobs.map (bumpChecks id) := by
  refine List.map_congr_left fun e he => ?_
  by_cases hid : e.1 = id
  · have hjob := find?_of_mem hkeyed hfind e he hid
    subst hid hjob
    simp [bumpChecks]
  · simp [bumpChecks, hid]

/-- What an answered status check does to a keyed table: it counts one check of the endpoint; a
live job answers 200 and gets one check more, no other job changing; an absent one answers
404. -/
theorem status_cases {s : FakeService} (hkeyed : s.Keyed) {id : String} {resp : ApiResponse}
    {s' : FakeService} (h : s.status id = .ok (resp, s')) :
    s'.calls = s.calls.bump .status ∧
    if id ∈ s.ids then resp.status = 200 ∧ s'.jobs = s.jobs.map (bumpChecks id)
    else resp.status = 404 ∧ s'.jobs = s.jobs := by
  rcases status_answered h with ⟨hnone, rfl, rfl⟩ | ⟨job, hjob, -, rfl, rfl⟩
  · rw [find?_eq_none_iff] at hnone
    exact ⟨rfl, by simp [hnone, errorResponse, countStatus]⟩
  · have hlive : id ∈ s.ids := (find?_isSome_iff s id).mp (by simp [hjob])
    -- counting the check touches the counters only, so the update sees the jobs of `s`
    exact ⟨rfl, by rw [if_pos hlive]; exact ⟨rfl, update_bumpChecks hkeyed hjob⟩⟩

/-- What a delete does to a table: it counts one delete; a live job answers 200 and leaves the
table; an absent one answers 404. -/
theorem delete_cases (s : FakeService) (id : String) :
    (s.delete id).2.calls = s.calls.bump .delete ∧
    if id ∈ s.ids then
      (s.delete id).1.status = 200 ∧ (s.delete id).2.jobs = s.jobs.filter (·.1 != id)
    else (s.delete id).1.status = 404 ∧ (s.delete id).2.jobs = s.jobs := by
  unfold delete
  dsimp only
  split
  · rename_i hnone
    rw [find?_calls, find?_eq_none_iff] at hnone
    exact ⟨rfl, by simp [hnone, errorResponse]⟩
  · rename_i job hjob
    rw [find?_calls] at hjob
    have hlive : id ∈ s.ids := (find?_isSome_iff s id).mp (by simp [hjob])
    exact ⟨rfl, by simp [hlive]⟩

/-- In a keyed table, dropping the entries of `id` erases `id` from the ids. -/
theorem ids_filter {s : FakeService} (hkeyed : s.Keyed) (id : String) :
    (s.jobs.filter (·.1 != id)).map Prod.fst = s.ids.erase id := by
  rw [hkeyed.erase_eq_filter, ids, List.filter_map]
  rfl

/-! ## Listing -/

/-- Whether a job in a state passes a list's state filter, given as a lower-case state name. -/
def passes (filter : Option String) (state : JobState) : Bool :=
  match filter with
  | none => true
  | some f => f == state.filterName

/-- The first `m` members when a bound `m` is given. -/
def cut {α : Type} : Option Nat → List α → List α
  | none, l => l
  | some m, l => l.take m

/-- A list answer for a query: the live jobs whose state passes the filter, most recent first,
cut to `maxJobs`. -/
def Lists (s : FakeService) (query : List (String × String)) (resp : ApiResponse) : Prop :=
  ∃ listed : List (String × FakeJob),
    listed.Perm (s.jobs.filter fun e => passes (param query "state") (stateOf s.behavior e.2)) ∧
    listed.Pairwise (fun a b => b.2.submitTime ≤ a.2.submitTime) ∧
    resp = { status := 200, body := some (.arr ((cut ((param query "maxJobs").bind Text.parseU64)
      listed).map fun e => detail e.1 e.2 (stateOf s.behavior e.2))) }

theorem listedBefore_trans (a b c : String × FakeJob) (hab : listedBefore a b)
    (hbc : listedBefore b c) : listedBefore a c := by
  simp only [listedBefore, Bool.or_eq_true, Bool.and_eq_true, beq_iff_eq, decide_eq_true_eq,
    gt_iff_lt] at *
  rcases hab with hab | ⟨hab, hab'⟩ <;> rcases hbc with hbc | ⟨hbc, hbc'⟩
  · exact .inl (hbc.trans hab)
  · exact .inl (hbc ▸ hab)
  · exact .inl (hab ▸ hbc)
  · exact .inr ⟨hbc ▸ hab, le_trans hab' hbc'⟩

theorem listedBefore_total (a b : String × FakeJob) :
    (listedBefore a b || listedBefore b a) = true := by
  simp only [listedBefore, Bool.or_eq_true, Bool.and_eq_true, beq_iff_eq, decide_eq_true_eq,
    gt_iff_lt]
  -- by the submit times, and by the ids when they tie
  rcases Nat.lt_trichotomy a.2.submitTime b.2.submitTime with h | h | h
  · exact .inr (.inl h)
  · rcases le_total a.1 b.1 with h' | h'
    · exact .inl (.inr ⟨h, h'⟩)
    · exact .inr (.inr ⟨h.symm, h'⟩)
  · exact .inl (.inl h)

theorem submitTime_le_of_listedBefore {a b : String × FakeJob} (h : listedBefore a b) :
    b.2.submitTime ≤ a.2.submitTime := by
  simp only [listedBefore, Bool.or_eq_true, Bool.and_eq_true, beq_iff_eq, decide_eq_true_eq,
    gt_iff_lt] at h
  rcases h with h | ⟨h, -⟩ <;> omega

/-- With a tenant, a list answers the live jobs that pass its state filter, most recent first,
cut to its bound. -/
theorem list_lists (s : FakeService) {query : List (String × String)}
    (htenant : (param query "tenantId").isNone = false) : s.Lists query (s.list query).1 := by
  unfold list
  simp only [htenant, Bool.false_eq_true, ↓reduceIte]
  refine ⟨(s.jobs.mergeSort listedBefore).filter fun e =>
    passes (param query "state") (stateOf s.behavior e.2), ?_, ?_, ?_⟩
  · exact (List.mergeSort_perm _ _).filter _
  · exact ((List.pairwise_mergeSort listedBefore_trans listedBefore_total _).filter _).imp
      submitTime_le_of_listedBefore
  · cases (param query "maxJobs").bind Text.parseU64 <;> rfl

/-- What a list does: it counts one list, answers 400 without a tenant and the listed jobs with
one, and leaves the table alone. -/
theorem list_cases (s : FakeService) (query : List (String × String)) :
    (s.list query).2.calls = s.calls.bump .list ∧ (s.list query).2.jobs = s.jobs ∧
    if (param query "tenantId").isNone then (s.list query).1.status = 400
    else s.Lists query (s.list query).1 := by
  refine ⟨by rw [list_state]; rfl, by rw [list_state], ?_⟩
  split
  · rename_i hnone
    unfold list
    simp [hnone, errorResponse]
  · rename_i hsome
    exact list_lists s (by simpa only [Bool.not_eq_true] using hsome)

/-! ## One request -/

/-- The id an answer adds to the table: the one a create answered 200 reports. -/
def Route.created : Route → ApiResponse → Option String
  | .create _, resp => if resp.status = 200 then reportedId resp else none
  | _, _ => none

/-- The id an answer takes out of the table: the one of a delete answered 200. -/
def Route.deleted : Route → ApiResponse → Option String
  | .delete id, resp => if resp.status = 200 then some id else none
  | _, _ => none

/-- What an endpoint promises about its answer and the table after it. -/
def Route.Obeys (s : FakeService) : Route → ApiResponse → FakeService → Prop
  | .create body, resp, s' =>
      (resp.status = 400 ↔ ¬ HasQuery body) ∧
      (∀ b, body = some b → HasQuery body → (resp.status = 409 ↔ s.createId b ∈ s.ids)) ∧
      (resp.status = 400 ∨ resp.status = 409 → s'.jobs = s.jobs)
  | .list query, resp, s' =>
      (if (param query "tenantId").isNone then resp.status = 400 else s.Lists query resp) ∧
      s'.jobs = s.jobs
  | .status id, resp, s' =>
      if id ∈ s.ids then resp.status = 200 ∧ s'.jobs = s.jobs.map (bumpChecks id)
      else resp.status = 404 ∧ s'.jobs = s.jobs
  | .delete id, resp, s' =>
      if id ∈ s.ids then resp.status = 200 ∧ s'.jobs = s.jobs.filter (·.1 != id)
      else resp.status = 404 ∧ s'.jobs = s.jobs
  | .results _ _, _, s' => s'.jobs = s.jobs

/-- What a request promises: its endpoint's promise, or 404 and no change at all. -/
def Obeys (s : FakeService) (r : ApiRequest) (resp : ApiResponse) (s' : FakeService) : Prop :=
  match route r with
  | some rt => rt.Obeys s resp s'
  | none => resp.status = 404 ∧ s' = s

/-- What answering a routed request does to a keyed service: the table stays keyed, its ids
move by the id the answer adds and the one it takes out, the endpoint's counter goes up by
one, and the endpoint keeps its promise. -/
structure Route.Moves (rt : Route) (s : FakeService) (resp : ApiResponse) (s' : FakeService) :
    Prop where
  keyed : s'.Keyed
  table : (↑s'.ids : Multiset String) + ↑(rt.deleted resp).toList =
    ↑s.ids + ↑(rt.created resp).toList
  calls : s'.calls = s.calls.bump rt.endpoint
  obeys : rt.Obeys s resp s'

section Moves

variable {s s' : FakeService} {resp : ApiResponse}

/-- An answer that neither adds nor takes out an id, and leaves the ids as they were. -/
theorem Route.Moves.of_ids {rt : Route} (hkeyed : s.Keyed) (hids : s'.ids = s.ids)
    (hcreated : rt.created resp = none) (hdeleted : rt.deleted resp = none)
    (hcalls : s'.calls = s.calls.bump rt.endpoint) (hobeys : rt.Obeys s resp s') :
    rt.Moves s resp s' where
  keyed := by rw [Keyed, hids]; exact hkeyed
  table := by simp [hids, hcreated, hdeleted]
  calls := hcalls
  obeys := hobeys

theorem ids_of_jobs (h : s'.jobs = s.jobs) : s'.ids = s.ids := by
  rw [ids, h, ids]

theorem create_moves (hkeyed : s.Keyed) (body : Option Value) :
    (Route.create body).Moves s (s.create body).1 (s.create body).2 := by
  obtain ⟨hcalls, hcases⟩ := create_cases s body
  rcases hcases with ⟨hno, h400, hjobs⟩ | ⟨b, rfl, hhas, htaken, h409, hjobs⟩ |
    ⟨b, params, rfl, -, hhas, hfree, h200, hreported, hjobs⟩
  · -- no query: 400
    refine .of_ids hkeyed (ids_of_jobs hjobs) (by simp [Route.created, h400]) rfl hcalls
      ⟨by simp [h400, hno], fun _ _ hhas => absurd hhas hno, fun _ => hjobs⟩
  · -- a taken id: 409
    refine .of_ids hkeyed (ids_of_jobs hjobs) (by simp [Route.created, h409]) rfl hcalls
      ⟨by simp [h409, hhas], ?_, fun _ => hjobs⟩
    rintro _ ⟨⟩ -
    simp [h409, htaken]
  · -- a free id: 200, and the job joins the table
    have hids : (s.create (some b)).2.ids = s.ids ++ [s.createId b] := by simp [ids, hjobs]
    refine ⟨?_, ?_, hcalls, ⟨by simp [h200, hhas], ?_, by simp [h200]⟩⟩
    · rw [Keyed, hids, ← List.concat_eq_append]
      exact hkeyed.concat hfree
    · simp only [hids, Route.created, Route.deleted, h200, ↓reduceIte, hreported,
        Option.toList_some, Option.toList_none, Multiset.coe_nil, add_zero, Multiset.coe_add]
    · rintro _ ⟨⟩ -
      simp [h200, hfree]

theorem status_moves (hkeyed : s.Keyed) {id : String} (h : s.status id = .ok (resp, s')) :
    (Route.status id).Moves s resp s' := by
  obtain ⟨hcalls, hcases⟩ := status_cases hkeyed h
  have hids : s'.ids = s.ids := by
    split at hcases
    · simp [ids, hcases.2, List.map_map, Function.comp_def]
    · exact ids_of_jobs hcases.2
  exact .of_ids hkeyed hids rfl rfl hcalls hcases

theorem delete_moves (hkeyed : s.Keyed) (id : String) :
    (Route.delete id).Moves s (s.delete id).1 (s.delete id).2 := by
  obtain ⟨hcalls, hcases⟩ := delete_cases s id
  by_cases hlive : id ∈ s.ids
  · -- a live job: 200, and its id leaves the table
    rw [if_pos hlive] at hcases
    have hids : (s.delete id).2.ids = s.ids.erase id := by
      rw [ids, hcases.2, ids_filter hkeyed]
    refine ⟨?_, ?_, hcalls, by simpa [Route.Obeys, hlive] using hcases⟩
    · rw [Keyed, hids]
      exact hkeyed.erase id
    · simp only [hids, Route.deleted, Route.created, hcases.1, ↓reduceIte, Option.toList_some,
        Option.toList_none, Multiset.coe_nil, add_zero, ← Multiset.coe_erase]
      rw [Multiset.coe_singleton, add_comm, Multiset.singleton_add,
        Multiset.cons_erase (Multiset.mem_coe.mpr hlive)]
  · rw [if_neg hlive] at hcases
    refine .of_ids hkeyed (ids_of_jobs hcases.2) rfl (by simp [Route.deleted, hcases.1]) hcalls
      (by simpa [Route.Obeys, hlive] using hcases)

theorem list_moves (hkeyed : s.Keyed) (query : List (String × String)) :
    (Route.list query).Moves s (s.list query).1 (s.list query).2 := by
  obtain ⟨hcalls, hjobs, hanswer⟩ := list_cases s query
  exact .of_ids hkeyed (ids_of_jobs hjobs) rfl rfl hcalls ⟨hanswer, hjobs⟩

theorem results_moves (hkeyed : s.Keyed) {id : String} {query : List (String × String)}
    (h : s.results id query = .ok (resp, s')) : (Route.results id query).Moves s resp s' := by
  obtain rfl := results_state s h
  exact .of_ids hkeyed rfl rfl rfl rfl rfl

theorem Route.Moves.of_pair {rt : Route} {p : ApiResponse × FakeService} (h : p = (resp, s'))
    (hmoves : rt.Moves s p.1 p.2) : rt.Moves s resp s' := by
  subst h
  exact hmoves

/-- The step lemma: answering any routed request moves a keyed service as its route says. -/
theorem serve_moves (hkeyed : s.Keyed) {rt : Route} (h : s.serve rt = .ok (resp, s')) :
    rt.Moves s resp s' := by
  cases rt with
  | create body => exact .of_pair (Except.ok.inj h) (create_moves hkeyed body)
  | list query => exact .of_pair (Except.ok.inj h) (list_moves hkeyed query)
  | status id => exact status_moves hkeyed h
  | delete id => exact .of_pair (Except.ok.inj h) (delete_moves hkeyed id)
  | results id query => exact results_moves hkeyed h

/-- The id a request's answer adds to the table. -/
def createdBy (r : ApiRequest) (resp : ApiResponse) : Option String :=
  (route r).bind (·.created resp)

/-- The id a request's answer takes out of the table. -/
def deletedBy (r : ApiRequest) (resp : ApiResponse) : Option String :=
  (route r).bind (·.deleted resp)

/-- Whether a request is routed to an endpoint. -/
def Calls (e : Endpoint) (r : ApiRequest) : Bool :=
  (route r).map Route.endpoint == some e

/-- The step lemma for any request: a keyed service stays keyed, its ids move by the id the
answer adds and the one it takes out, the request's endpoint counts one call more, and the
request keeps its promise. -/
theorem handle_moves (hkeyed : s.Keyed) {r : ApiRequest} (h : s.handle r = .ok (resp, s')) :
    s'.Keyed ∧
    (↑s'.ids : Multiset String) + ↑(deletedBy r resp).toList =
      ↑s.ids + ↑(createdBy r resp).toList ∧
    (∀ e, s'.calls.get e = s.calls.get e + if Calls e r then 1 else 0) ∧
    Obeys s r resp s' := by
  rcases hroute : route r with _ | rt
  · -- no route: 404, and nothing moves
    obtain ⟨m, hm⟩ := handle_of_no_route hroute
    obtain ⟨rfl, rfl⟩ := Prod.mk.inj (Except.ok.inj (hm.symm.trans h))
    simp [hkeyed, createdBy, deletedBy, Calls, Obeys, hroute, errorResponse]
  · have hmoves := serve_moves hkeyed ((handle_of_route hroute).symm.trans h)
    refine ⟨hmoves.keyed, by simpa [createdBy, deletedBy, hroute] using hmoves.table, ?_, ?_⟩
    · intro e
      simp [hmoves.calls, Calls, hroute]
    · simpa [Obeys, hroute] using hmoves.obeys

end Moves

/-! ## Runs -/

/-- The ids the answers of a run add to the table, in order. -/
def createdIds (rs : List ApiRequest) (resps : List ApiResponse) : List String :=
  (rs.zip resps).filterMap fun p => createdBy p.1 p.2

/-- The ids the answers of a run take out of the table, in order. -/
def deletedIds (rs : List ApiRequest) (resps : List ApiResponse) : List String :=
  (rs.zip resps).filterMap fun p => deletedBy p.1 p.2

theorem createdIds_cons (r : ApiRequest) (rs : List ApiRequest) (resp : ApiResponse)
    (resps : List ApiResponse) :
    createdIds (r :: rs) (resp :: resps) = (createdBy r resp).toList ++ createdIds rs resps := by
  simp only [createdIds, List.zip_cons_cons, List.filterMap_cons]
  cases createdBy r resp <;> rfl

theorem deletedIds_cons (r : ApiRequest) (rs : List ApiRequest) (resp : ApiResponse)
    (resps : List ApiResponse) :
    deletedIds (r :: rs) (resp :: resps) = (deletedBy r resp).toList ++ deletedIds rs resps := by
  simp only [deletedIds, List.zip_cons_cons, List.filterMap_cons]
  cases deletedBy r resp <;> rfl

/-- A run of requests that answered them all answered its first one, then the rest. -/
theorem handleAll_cons {s s' : FakeService} {r : ApiRequest} {rest : List ApiRequest}
    {resps : List ApiResponse} (h : s.handleAll (r :: rest) = .ok (resps, s')) :
    ∃ resp s₁ resps', s.handle r = .ok (resp, s₁) ∧ s₁.handleAll rest = .ok (resps', s') ∧
      resps = resp :: resps' := by
  simp only [handleAll, bind, Except.bind] at h
  split at h
  · cases h
  rename_i p hfirst
  split at h
  · cases h
  rename_i q hrest
  obtain ⟨rfl, rfl⟩ := Prod.mk.inj (Except.ok.inj h)
  exact ⟨p.1, p.2, q.1, hfirst, hrest, rfl⟩

/-- The run lemma: along a run that answered every request from a keyed service, the table
stays keyed, its ids move by the ids the answers add and take out, and each counter counts
the requests routed to its endpoint. -/
theorem handleAll_moves {rs : List ApiRequest} :
    ∀ {s₀ s : FakeService} {resps : List ApiResponse}, s₀.Keyed →
    s₀.handleAll rs = .ok (resps, s) →
    s.Keyed ∧
    (↑s.ids : Multiset String) + ↑(deletedIds rs resps) = ↑s₀.ids + ↑(createdIds rs resps) ∧
    ∀ e, s.calls.get e = s₀.calls.get e + rs.countP (Calls e) := by
  induction rs with
  | nil =>
    intro s₀ s resps hkeyed h
    obtain ⟨rfl, rfl⟩ := Prod.mk.inj (Except.ok.inj h)
    simp [hkeyed, createdIds, deletedIds]
  | cons r rest ih =>
    intro s₀ s resps hkeyed h
    obtain ⟨resp, s₁, resps', hfirst, hrest, rfl⟩ := handleAll_cons h
    obtain ⟨hkeyed₁, htable₁, hcalls₁, -⟩ := handle_moves hkeyed hfirst
    obtain ⟨hkeyed', htable', hcalls'⟩ := ih hkeyed₁ hrest
    refine ⟨hkeyed', ?_, fun e => ?_⟩
    · -- the first answer's ids, then the rest's
      rw [createdIds_cons, deletedIds_cons, ← Multiset.coe_add, ← Multiset.coe_add]
      calc (↑s.ids : Multiset String) + (↑(deletedBy r resp).toList + ↑(deletedIds rest resps'))
          = (↑s.ids + ↑(deletedIds rest resps')) + ↑(deletedBy r resp).toList := by abel
        _ = (↑s₁.ids + ↑(deletedBy r resp).toList) + ↑(createdIds rest resps') := by
          rw [htable']; abel
        _ = ↑s₀.ids + (↑(createdBy r resp).toList + ↑(createdIds rest resps')) := by
          rw [htable₁]; abel
    · rw [hcalls' e, hcalls₁ e, List.countP_cons]
      omega

/-- Along every run of requests that a new service answers in full, whatever its behaviour:
the table holds exactly the ids reported by the creates answered 200 less the ids of the
deletes answered 200, counted as multisets, and no id twice; each counter counts the requests
routed to its endpoint, failed ones included; and every further request keeps its endpoint's
promise. -/
theorem handleAll_job_table {b : Behavior} {rs : List ApiRequest} {resps : List ApiResponse}
    {s : FakeService} (h : ({ behavior := b } : FakeService).handleAll rs = .ok (resps, s)) :
    (↑s.ids : Multiset String) = ↑(createdIds rs resps) - ↑(deletedIds rs resps) ∧ s.Keyed ∧
    (∀ e, s.calls.get e = rs.countP (Calls e)) ∧
    ∀ r resp s', s.handle r = .ok (resp, s') → Obeys s r resp s' := by
  have hnew : ({ behavior := b } : FakeService).Keyed := List.nodup_nil
  obtain ⟨hkeyed, htable, hcalls⟩ := handleAll_moves hnew h
  refine ⟨?_, hkeyed, fun e => by simpa using hcalls e,
    fun r resp s' hr => (handle_moves hkeyed hr).2.2.2⟩
  -- a new service has no ids: what the creates added is the table and what the deletes took
  have hcreated : (↑(createdIds rs resps) : Multiset String) =
      ↑s.ids + ↑(deletedIds rs resps) := by
    simpa [ids] using htable.symm
  rw [hcreated, Multiset.add_sub_cancel_right]

/-- A run that creates a job under its own id and one under a minted id, checks the first,
lists the tenant's jobs, deletes the first and checks it again. -/
def createCheckListDelete : List ApiRequest :=
  [{ method := .post, path := QueryService.root ++ "jobs",
     body := some (.object [("jobId", .str "a"), ("params", .object [("query", .str "SELECT 1")])]) },
   { method := .post, path := QueryService.root ++ "jobs",
     body := some (.object [("params", .object [("query", .str "SELECT 2")])]) },
   { method := .get, path := QueryService.root ++ "jobs", resourceId := some "a" },
   { method := .get, path := QueryService.root ++ "jobs", query := [("tenantId", "t")] },
   { method := .delete, path := QueryService.root ++ "jobs", resourceId := some "a" },
   { method := .get, path := QueryService.root ++ "jobs", resourceId := some "a" }]

/-- On a new service that run is answered: both creates, the check, the listing and the
delete succeed, the last check finds no job, and the table, the counters and the promises
are as above. -/
theorem createCheckListDelete_job_table :
    ∃ resps s, ({ behavior := {} } : FakeService).handleAll createCheckListDelete =
        .ok (resps, s) ∧
      resps.map ApiResponse.status = [200, 200, 200, 200, 200, 404] ∧
      (↑s.ids : Multiset String) =
        ↑(createdIds createCheckListDelete resps) - ↑(deletedIds createCheckListDelete resps) ∧
      s.Keyed ∧
      (∀ e, s.calls.get e = createCheckListDelete.countP (Calls e)) ∧
      ∀ r resp s', s.handle r = .ok (resp, s') → Obeys s r resp s' := by
  obtain ⟨resps, s, h⟩ : ∃ resps s,
      ({ behavior := {} } : FakeService).handleAll createCheckListDelete = .ok (resps, s) := by
    simp only [createCheckListDelete, handleAll, handle_create, handle_status, handle_list,
      handle_delete]
    exact ⟨_, _, rfl⟩
  -- the listing's order is never needed: only the answers' codes are read back
  have hstatus : (({ behavior := {} } : FakeService).handleAll createCheckListDelete).map
      (fun p => p.1.map ApiResponse.status) = .ok [200, 200, 200, 200, 200, 404] := by
    simp only [createCheckListDelete, handleAll, handle_create, handle_status, handle_list,
      handle_delete]
    rfl
  rw [h] at hstatus
  exact ⟨resps, s, h, by simpa [Except.map] using hstatus, handleAll_job_table h⟩

end FakeService

end JobQuery
