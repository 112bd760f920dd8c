import JobQuery.Proofs.Run

/-!
# JobQuery — the in-memory service, read back by the client

What a client sees when it asks the in-memory service for a page: the request goes through
the query API's typed call, is routed by the service to its page handler, answered as a JSON
object and decoded again. This module follows one such round trip symbolically and states
its outcome in the service's own terms:

* page `k` of a job with `rows` rows in pages of `size` covers the rows
  `min (k * size) rows ..< min (min (k * size) rows + size) rows` (`servedPage`);
* numerals written by the client are read back as the same numbers (`parseU64_repr`), so the
  page size, page number and page cursors survive the trip;
* a fetch that succeeds returns exactly the served page (`fetchPage_number_ok`,
  `fetchPage_first_ok`, `fetchPage_cursor_ok`), and a fetch of a live job that is neither
  the failing page nor the null-data page succeeds unless the service overflowed
  (`fetchPage_number_served` and its siblings).

Main results:

* `fetchPage_number_ok`, `fetchPage_first_ok`, `fetchPage_cursor_ok` — soundness of a fetch:
  whatever the job table and the service's behaviour, a page handed to the client is the page
  the service serves for that selector.
* `fetchPage_number_served`, `fetchPage_first_served`, `fetchPage_cursor_served` — completeness
  on a live job: the fetch returns that page, and the world only records the request and the
  service's call count.
-/

namespace JobQuery

open Json

/-! ## Numerals -/

namespace Text

theorem foldl_digits_eq_ofDigitChars (cs : List Char) (init : Nat) :
    cs.foldl (fun n c => n * 10 + (c.toNat - 48)) init = Nat.ofDigitChars 10 cs init := by
  induction cs generalizing init with
  | nil => rfl
  | cons c cs ih =>
    simp only [List.foldl_cons, ih, Nat.ofDigitChars_cons, Nat.mul_comm]
    rfl

/-- A text of decimal digits reads as the number the digits spell. -/
theorem parseUnsigned_of_digits {s : String} {bound : Nat} (hne : s.toList ≠ [])
    (hdig : ∀ c ∈ s.toList, c.isDigit = true)
    (hlt : Nat.ofDigitChars 10 s.toList 0 < bound) :
    parseUnsigned s bound = some (Nat.ofDigitChars 10 s.toList 0) := by
  unfold parseUnsigned
  split
  · -- a leading `+` is no digit
    rename_i rest heq
    have := hdig '+' (by simp [heq])
    simp at this
  · have hall : s.toList.all Char.isDigit = true := List.all_eq_true.mpr hdig
    simp [hne, hall, foldl_digits_eq_ofDigitChars, hlt]

/-- The decimal form of a number reads back as that number, below the bound. -/
theorem parseUnsigned_repr {n bound : Nat} (h : n < bound) :
    parseUnsigned n.repr bound = some n := by
  have hlist : n.repr.toList = Nat.toDigits 10 n := Nat.toList_repr
  have hread := @parseUnsigned_of_digits n.repr bound
    (by rw [hlist]; exact Nat.toDigits_ne_nil)
    (by rw [hlist]; exact fun c hc => Nat.isDigit_of_mem_toDigits (by decide) (by decide) hc)
    (by rw [hlist, Nat.ofDigitChars_ten_toDigits]; exact h)
  rwa [hlist, Nat.ofDigitChars_ten_toDigits] at hread

@[simp] theorem parseU64_repr {n : Nat} (h : n < Nat.pow 2 64) : parseU64 n.repr = some n :=
  parseUnsigned_repr h

end Text

/-! ## Routing and sending -/

namespace FakeService

@[simp] theorem find?_calls (s : FakeService) (c : CallCounts) (id : String) :
    ({ s with calls := c } : FakeService).find? id = s.find? id := rfl

/-- A results request reaches the page handler, whatever its query and credential. -/
theorem handle_results (s : FakeService) (J : String) (q : List (String × String))
    (c : Option DataLake) :
    s.handle { method := .get, path := QueryService.root ++ "jobResults", resourceId := some J,
               query := q, credential := c } = s.results J q := by
  have hroot : (QueryService.root ++ "jobResults").startsWith root = true := by decide +kernel
  have hroute : String.ofList ((QueryService.root ++ "jobResults").toList.drop root.length) =
      "jobResults" := by decide
  have hsplit : "jobResults".splitOn "/" = ["jobResults"] := by
    simp +decide [String.splitOn, String.splitOnAux]
  simp only [handle, hroot, hroute, hsplit, Bool.not_true, Bool.false_eq_true, if_false]
  rfl

/-- A create request reaches the create handler. -/
theorem handle_create (s : FakeService) (c : Option DataLake) (body : Option Value) :
    s.handle { method := .post, path := QueryService.root ++ "jobs", credential := c, body } =
      .ok (s.create body) := by
  have hroot : (QueryService.root ++ "jobs").startsWith root = true := by decide +kernel
  have hroute : String.ofList ((QueryService.root ++ "jobs").toList.drop root.length) = "jobs" := by
    decide
  have hsplit : "jobs".splitOn "/" = ["jobs"] := by simp +decide [String.splitOn, String.splitOnAux]
  simp only [handle, hroot, hroute, hsplit, Bool.not_true, Bool.false_eq_true, if_false]
  rfl

/-- A status request reaches the status handler. -/
theorem handle_status (s : FakeService) (J : String) (c : Option DataLake) :
    s.handle { method := .get, path := QueryService.root ++ "jobs", resourceId := some J,
               credential := c } = s.status J := by
  have hroot : (QueryService.root ++ "jobs").startsWith root = true := by decide +kernel
  have hroute : String.ofList ((QueryService.root ++ "jobs").toList.drop root.length) = "jobs" := by
    decide
  have hsplit : "jobs".splitOn "/" = ["jobs"] := by simp +decide [String.splitOn, String.splitOnAux]
  simp only [handle, hroot, hroute, hsplit, Bool.not_true, Bool.false_eq_true, if_false]
  rfl

/-- A delete request reaches the delete handler. -/
theorem handle_delete (s : FakeService) (J : String) (c : Option DataLake) :
    s.handle { method := .delete, path := QueryService.root ++ "jobs", resourceId := some J,
               credential := c } = .ok (s.delete J) := by
  have hroot : (QueryService.root ++ "jobs").startsWith root = true := by decide +kernel
  have hroute : String.ofList ((QueryService.root ++ "jobs").toList.drop root.length) = "jobs" := by
    decide
  have hsplit : "jobs".splitOn "/" = ["jobs"] := by simp +decide [String.splitOn, String.splitOnAux]
  simp only [handle, hroot, hroute, hsplit, Bool.not_true, Bool.false_eq_true, if_false]
  rfl

/-- A list request reaches the list handler, whatever its query. -/
theorem handle_list (s : FakeService) (q : List (String × String)) (c : Option DataLake) :
    s.handle { method := .get, path := QueryService.root ++ "jobs", query := q, credential := c } =
      .ok (s.list q) := by
  have hroot : (QueryService.root ++ "jobs").startsWith root = true := by decide +kernel
  have hroute : String.ofList ((QueryService.root ++ "jobs").toList.drop root.length) = "jobs" := by
    decide
  have hsplit : "jobs".splitOn "/" = ["jobs"] := by simp +decide [String.splitOn, String.splitOnAux]
  simp only [handle, hroot, hroute, hsplit, Bool.not_true, Bool.false_eq_true, if_false]
  rfl

end FakeService

namespace World

/-- Sending to the in-memory service records the request, and an answer also waits the
service's latency. -/
theorem send_fake {w : World} {fs fs' : FakeService} {r : ApiRequest} {resp : ApiResponse}
    (h : fs.handle r = .ok (resp, fs')) (hw : w.backend = .fake fs) :
    (send r).run.run w =
      (.ok resp, { w with sent := w.sent.push r, backend := .fake fs',
                          clock := w.clock + fs'.behavior.latencyMs }) := by
  simp only [send, Call.run_bind, Call.run_modify, Call.run_get, Call.run_lift, sleep_run,
    Call.run_pure, hw, h]

/-- An overflow in the in-memory service is recorded as the run's panic and reaches the
client as a transport error. -/
theorem send_fake_overflow {w : World} {fs : FakeService} {r : ApiRequest} {m : String}
    (h : fs.handle r = .error m) (hw : w.backend = .fake fs) :
    (send r).run.run w =
      (.error (.transport m), { w with sent := w.sent.push r, panic := w.panic <|> some m }) := by
  simp only [send, Call.run_bind, Call.run_modify, Call.run_get, Call.run_throw, hw, h]

end World

/-! ## Decoding a page -/

namespace Json

theorem Decoder.each_any (vs : List Value) : Decoder.each Decoder.any vs = .ok vs := by
  induction vs with
  | nil => rfl
  | cons v vs ih => simp [Decoder.each, ih, Decoder.any, bind, Except.bind, pure, Except.pure]

theorem Decoder.u64_nat {n : Nat} (h : n < Nat.pow 2 64) : Decoder.u64 (Value.nat n) = .ok n := by
  have h64 : n < 18446744073709551616 := h
  have hle : (n : Int) ≤ 18446744073709551615 := by omega
  simp only [Decoder.u64, Decoder.natBelow, Decoder.intRange, Value.nat]
  simp [hle, Except.map]

theorem Decoder.option_list_any (p : Prop) [Decidable p] (rows : List Value) :
    Decoder.option (Decoder.list Decoder.any) (if p then .null else .arr rows) =
      .ok (if p then none else some rows) := by
  split
  · rfl
  · simp [Decoder.option, Decoder.list, Decoder.each_any, Except.map]

theorem Decoder.option_obj {α : Type} (d : Decoder α) (members : List (String × Value)) :
    Decoder.option d (.obj members) = (d (.obj members)).map some := rfl

theorem Decoder.option_u64_nat {n : Nat} (h : n < Nat.pow 2 64) :
    Decoder.option Decoder.u64 (Value.nat n) = .ok (some n) := by
  have hn := Decoder.u64_nat h
  unfold Value.nat at hn ⊢
  simp [Decoder.option, hn, Except.map]

end Json

theorem JobState.decoder_done : JobState.decoder (.str "DONE") = .ok .done := rfl

theorem ResultFormat.decoder_valuesDictionary :
    ResultFormat.decoder (.str "valuesDictionary") = .ok .valuesDictionary := rfl

theorem Schema.decoder_rowSchema :
    Schema.decoder (.obj [("fields", .arr [.obj [("name", .str "row"), ("type", .str "integer")]])]) =
      .ok { fields := [.obj [("name", .str "row"), ("type", .str "integer")]] } := rfl

theorem PageResult.decoder_obj {data : Value} {d : Option (List Value)}
    (hd : Decoder.option (Decoder.list Decoder.any) data = .ok d) :
    PageResult.decoder (.obj [("data", data)]) = .ok { data := d } := by
  simp [PageResult.decoder, Shape.decode, PageResult.shape, Shape.firstError, Field.of,
    Field.accepts, hd, Shape.memberSlot, Slot.optional, Slot.withDefault, bind, Except.bind,
    pure, Except.pure]

theorem Page.decoder_obj {cursor data : Value} {c : Option String} {d : Option (List Value)}
    (hc : Decoder.option Decoder.string cursor = .ok c)
    (hd : Decoder.option (Decoder.list Decoder.any) data = .ok d) :
    Page.decoder (.obj [("pageCursor", cursor), ("result", .obj [("data", data)])]) =
      .ok { pageCursor := c, result := { data := d } } := by
  simp [Page.decoder, Shape.decode, Page.shape, Shape.firstError, Field.of, Field.accepts, hc,
    PageResult.decoder_obj hd, Shape.memberSlot, Slot.optional, Slot.required, Slot.withDefault,
    bind, Except.bind, pure, Except.pure]

/-- A page that points to the next one. -/
theorem Page.decoder_cursor (c : String) (p : Prop) [Decidable p] (rows : List Value) :
    Page.decoder (.obj [("pageCursor", .str c),
        ("result", .obj [("data", if p then .null else .arr rows)])]) =
      .ok { pageCursor := some c, result := { data := if p then none else some rows } } :=
  Page.decoder_obj rfl (Decoder.option_list_any p rows)

/-- The last page. -/
theorem Page.decoder_last (p : Prop) [Decidable p] (rows : List Value) :
    Page.decoder (.obj [("pageCursor", .null),
        ("result", .obj [("data", if p then .null else .arr rows)])]) =
      .ok { pageCursor := none, result := { data := if p then none else some rows } } :=
  Page.decoder_obj rfl (Decoder.option_list_any p rows)

/-! ## Serving a page -/

namespace Behavior

/-- The first row of page `n` in pages of `P` rows. -/
def pageStart (b : Behavior) (P n : Nat) : Nat := min (n * P) b.rows

/-- One past the last row of page `n` in pages of `P` rows. -/
def pageStop (b : Behavior) (P n : Nat) : Nat := min (b.pageStart P n + P) b.rows

/-- The service can serve page `n` without an overflow: its bounds fit in 64 bits, and so
does the number of the page after it, when there is one. -/
def PageFits (b : Behavior) (P n : Nat) : Prop :=
  n * P < Nat.pow 2 64 ∧ b.pageStart P n + P < Nat.pow 2 64 ∧
    (b.pageStop P n < b.rows → n + 1 < Nat.pow 2 64)

/-- Page `n` in pages of `P` rows, as a client keeps it after the round trip. -/
def page (b : Behavior) (P n : Nat) : FetchedPage :=
  { rows := FakeService.rowsBetween false (b.pageStart P n) (b.pageStop P n)
    nextCursor := if b.pageStop P n < b.rows then some ("page-" ++ toString (n + 1)) else none
    rowsInJob := if b.reportRowsInJob then some b.rows else none }

/-- The service breaks page `n`: it fails it, or serves it without data. -/
def Breaks (b : Behavior) (n : Nat) : Prop := b.failingPage = some n ∨ b.nullDataPage = some n

instance (b : Behavior) (n : Nat) : Decidable (b.Breaks n) :=
  inferInstanceAs (Decidable (_ ∨ _))

/-- The error a client gets for page `n` of job `J`, asked for by `sel`, when the service breaks
it: the failure comes first, else the data is missing. -/
def pageError (b : Behavior) (n : Nat) (sel : PageSelector) (J : String) : QueryError :=
  if b.failingPage = some n then
    .api 500 (FakeService.errorResponse 500 ("page " ++ toString n ++ " exploded")).body
  else .parse ("page " ++ sel.debug ++ " of job " ++ J ++ " has null data")

/-- What a client gets for page `n` of job `J` in pages of `P` rows, asked for by `sel`. -/
def served (b : Behavior) (P n : Nat) (sel : PageSelector) (J : String) :
    Except QueryError FetchedPage :=
  if b.Breaks n then .error (b.pageError n sel J) else .ok (b.page P n)

end Behavior

namespace FakeService

/-- What a results query asks for: self-describing rows of page `n` in pages of `P` rows,
with no offset. -/
structure PageQuery (q : List (String × String)) (P n : Nat) : Prop where
  format : param q "resultFormat" = some "valuesDictionary"
  size : param q "pageSize" = some (toString P)
  noOffset : param q "offset" = none
  number : pageNumber q = .ok n

/-- The service after counting one more results call. -/
def countResults (s : FakeService) : FakeService :=
  { s with calls := { s.calls with results := s.calls.results + 1 } }

@[simp] theorem countResults_behavior (s : FakeService) : s.countResults.behavior = s.behavior :=
  rfl

@[simp] theorem countResults_jobs (s : FakeService) : s.countResults.jobs = s.jobs := rfl

@[simp] theorem find?_countResults (s : FakeService) (id : String) :
    s.countResults.find? id = s.find? id := rfl

variable {s : FakeService} {J : String} {q : List (String × String)} {P n : Nat}

theorem results_served {job : FakeJob} (hfind : s.find? J = some job) (hq : PageQuery q P n)
    (hP : 0 < P) (hP64 : P < Nat.pow 2 64) (hR : s.behavior.rows < Nat.pow 2 64)
    (hfail : s.behavior.failingPage ≠ some n) (hfits : s.behavior.PageFits P n) :
    ∃ body jr, s.results J q = .ok ({ status := 200, body := some body }, s.countResults) ∧
      JobResult.decoder body = .ok jr ∧
      jr.page.result.data =
        (if s.behavior.nullDataPage = some n then none else some (s.behavior.page P n).rows) ∧
      jr.page.pageCursor = (s.behavior.page P n).nextCursor ∧
      jr.rowsInJob = (s.behavior.page P n).rowsInJob := by
  have h64 : Nat.pow 2 64 = 18446744073709551616 := rfl
  obtain ⟨hmul, hadd, hnext⟩ := hfits
  simp only [Behavior.pageStop, Behavior.pageStart, h64] at hmul hadd hnext
  have hk : min (min (n * P) s.behavior.rows + P) s.behavior.rows - min (n * P) s.behavior.rows <
      Nat.pow 2 64 := by rw [h64]; omega
  -- the answer is built the same way whether or not a next page exists; only its cursor differs
  by_cases hlast : min (min (n * P) s.behavior.rows + P) s.behavior.rows < s.behavior.rows <;>
  simp [results, countResults, hfind, hq.format, hq.size, hq.noOffset, hq.number, hP,
    Text.parseU64_repr, hP64, hfail, Text.mulU64, hmul, Text.addU64, hadd, hlast, hnext,
    bind, Except.bind, pure, Except.pure]
  all_goals
    cases hrep : s.behavior.reportRowsInJob <;>
    simp +decide [Value.object, Value.insertField, JobResult.decoder, JobResult.shape, Shape.decode,
      Shape.firstError, Field.of, Field.accepts, Shape.memberSlot, Slot.optional, Slot.required,
      Slot.withDefault, Decoder.string, Decoder.option_u64_nat hk, Decoder.option_u64_nat hR,
      Decoder.option_obj, Page.decoder_cursor, Page.decoder_last, JobState.decoder_done,
      ResultFormat.decoder_valuesDictionary, Schema.decoder_rowSchema, JobState.name,
      Behavior.page, Behavior.pageStart, Behavior.pageStop, hlast, hrep, bind, Except.bind, pure,
      Except.map, Except.pure, -String.lt_iff_ltb]

theorem results_missing (hfind : s.find? J = none) :
    s.results J q = .ok (errorResponse 404 ("job " ++ J ++ " not found"), s.countResults) := by
  simp [results, countResults, hfind]

theorem results_failing {job : FakeJob} (hfind : s.find? J = some job) (hq : PageQuery q P n)
    (hfail : s.behavior.failingPage = some n) :
    s.results J q = .ok (errorResponse 500 ("page " ++ toString n ++ " exploded"), s.countResults) := by
  simp [results, countResults, hfind, hq.number, hfail]

theorem results_overflow {job : FakeJob} (hfind : s.find? J = some job) (hq : PageQuery q P n)
    (hP : 0 < P) (hP64 : P < Nat.pow 2 64) (hfail : s.behavior.failingPage ≠ some n)
    (hfits : ¬ s.behavior.PageFits P n) :
    ∃ m, s.results J q = .error m := by
  have h64 : Nat.pow 2 64 = 18446744073709551616 := rfl
  simp only [Behavior.PageFits, Behavior.pageStop, Behavior.pageStart, h64] at hfits
  -- the first of the three sums and products that does not fit stops the service
  by_cases hmul : n * P < 18446744073709551616
  · by_cases hadd : min (n * P) s.behavior.rows + P < 18446744073709551616
    · have hlast : min (min (n * P) s.behavior.rows + P) s.behavior.rows < s.behavior.rows ∧
          ¬ n + 1 < 18446744073709551616 := by tauto
      simp [results, hfind, hq.size, hq.noOffset, hq.number, hP, Text.parseU64_repr, hP64, hfail,
        Text.mulU64, Text.addU64, hmul, hadd, hlast.1, hlast.2, bind, Except.bind]
    · simp [results, hfind, hq.size, hq.noOffset, hq.number, hP, Text.parseU64_repr, hP64, hfail,
        Text.mulU64, Text.addU64, hmul, hadd, bind, Except.bind]
  · simp [results, hfind, hq.size, hq.number, hP, Text.parseU64_repr, hP64, hfail, Text.mulU64,
      hmul, bind, Except.bind]

end FakeService

/-! ## Asking for a page -/

/-- The page a selector names, as the service reads it back: the first page is page 0, a page
number names itself when it fits in 64 bits, and a cursor names the page the service reads
from it. -/
inductive PageSelector.Reads : PageSelector → Nat → Prop where
  | first : PageSelector.Reads .first 0
  | number {n : Nat} : n < Nat.pow 2 64 → PageSelector.Reads (.number n) n
  | cursor {c : String} {n : Nat} :
      FakeService.pageNumber [("pageCursor", c)] = .ok n → PageSelector.Reads (.cursor c) n

theorem ofList_toDigits (n : Nat) : String.ofList (Nat.toDigits 10 n) = n.repr := rfl

theorem startsWith_page (x : String) : ("page-" ++ x).startsWith "page-" = true := by
  simp [String.startsWith_string_iff, String.toList_append]

/-- The service reads the cursor it wrote for page `n` as page `n`. -/
theorem FakeService.pageNumber_cursor {n : Nat} (h : n < Nat.pow 2 64) :
    FakeService.pageNumber [("pageCursor", "page-" ++ toString n)] = .ok n := by
  simp +decide [FakeService.pageNumber, FakeService.param, startsWith_page, ofList_toDigits,
    Text.parseU64_repr h]

/-- The query of a page request names the page the selector reads as. -/
theorem PageSelector.Reads.pageQuery {sel : PageSelector} {n : Nat} (h : sel.Reads n)
    {J : String} (hJ : J ≠ "") (P : Nat) :
    ∃ q, (sel.request J P).toQuery = .ok q ∧ FakeService.PageQuery q P n := by
  have hJ' : J.isEmpty = false := by simpa [String.isEmpty_iff] using hJ
  cases h with
  | first =>
    refine ⟨_, by simp [PageSelector.request, ResultsRequest.toQuery, hJ']; rfl, ?_⟩
    constructor <;> simp +decide [FakeService.param, FakeService.pageNumber, ResultFormat.name]
  | number hn =>
    refine ⟨_, by simp [PageSelector.request, ResultsRequest.toQuery, hJ']; rfl, ?_⟩
    constructor <;> simp +decide [FakeService.param, FakeService.pageNumber, ResultFormat.name,
      Text.parseU64_repr hn]
  | cursor hn =>
    refine ⟨_, by simp [PageSelector.request, ResultsRequest.toQuery, hJ']; rfl, ?_⟩
    constructor
    any_goals simp +decide [FakeService.param, ResultFormat.name]
    simpa [FakeService.pageNumber, FakeService.param] using hn

/-- The results request as it reaches the transport. -/
def QueryService.resultsRequest (svc : QueryService) (jobId : String)
    (q : List (String × String)) : ApiRequest :=
  { method := .get, path := QueryService.root ++ "jobResults", resourceId := some jobId, query := q,
    credential := svc.credential }

/-- Asking the in-memory service for a page: the service's answer is read back as a result
page, and an overflow in the service reaches the client as a transport error. -/
theorem QueryService.getJobResults_fake {w : World} {fs : FakeService} (hw : w.backend = .fake fs)
    (svc : QueryService) {req : ResultsRequest} {q : List (String × String)}
    (hq : req.toQuery = .ok q) :
    (svc.getJobResults req).run.run w =
      match fs.results req.jobId q with
      | .error m =>
        (.error (.transport m), { w with sent := w.sent.push (svc.resultsRequest req.jobId q),
                                         panic := w.panic <|> some m })
      | .ok (resp, fs') =>
        (QueryService.checked resp.intoSuccess >>=
            QueryService.expect JobResult.decoder "job result").run.run
          { w with sent := w.sent.push (svc.resultsRequest req.jobId q), backend := .fake fs',
                   clock := w.clock + fs'.behavior.latencyMs } := by
  have hh := FakeService.handle_results fs req.jobId q svc.credential
  simp only [getJobResults, checked, hq, call, Call.run_bind, Call.run_pure]
  rcases hres : fs.results req.jobId q with m | ⟨resp, fs'⟩
  · rw [World.send_fake_overflow (hh.trans hres) hw]
    rfl
  · rw [World.send_fake (hh.trans hres) hw]
    rfl

@[simp] theorem PageSelector.request_jobId (sel : PageSelector) (J : String) (P : Nat) :
    (sel.request J P).jobId = J := by
  cases sel <;> rfl

/-! ## Fetching a page -/

section Fetch

variable {w : World} {fs : FakeService} {svc : QueryService} {P n : Nat} {J : String}
  {sel : PageSelector}

theorem fetchPage_cancelled (svc : QueryService) (P : Nat) (J : String) (sel : PageSelector)
    (w : World) : (fetchPage svc P true J sel).run.run w = (.error .cancelled, w) := rfl

/-- A fetch from the in-memory service, step by step: the service answers (or overflows),
the answer must be a success, decode as a result page, and carry data. -/
theorem fetchPage_fake (hw : w.backend = .fake fs) {q : List (String × String)}
    (hq : (sel.request J P).toQuery = .ok q) :
    (fetchPage svc P false J sel).run.run w =
      match fs.results J q with
      | .error m =>
        (.error (.transport m), { w with sent := w.sent.push (svc.resultsRequest J q),
                                         panic := w.panic <|> some m })
      | .ok (resp, fs') =>
        let w' := { w with sent := w.sent.push (svc.resultsRequest J q), backend := .fake fs',
                           clock := w.clock + fs'.behavior.latencyMs }
        match resp.intoSuccess with
        | .error e => (.error e, w')
        | .ok body =>
          match decodeBody JobResult.decoder "job result" body with
          | .error e => (.error e, w')
          | .ok jr =>
            match jr.page.result.data with
            | none => (.error (.parse ("page " ++ sel.debug ++ " of job " ++ J ++ " has null data")), w')
            | some rows =>
              (.ok { rows, nextCursor := jr.page.pageCursor, rowsInJob := jr.rowsInJob }, w') := by
  have hcall := QueryService.getJobResults_fake hw svc hq
  simp only [PageSelector.request_jobId] at hcall
  simp only [fetchPage, Bool.false_eq_true, if_false, Call.run_bind, hcall]
  -- follow the answer through each check in turn
  rcases fs.results J q with m | ⟨resp, fs'⟩
  · rfl
  simp only [QueryService.checked, QueryService.expect]
  rcases resp.intoSuccess with e | body
  · rfl
  simp only [Call.run_pure]
  rcases decodeBody JobResult.decoder "job result" body with e | jr
  · rfl
  simp only [Call.run_pure]
  rcases jr.page.result.data with _ | rows <;> rfl

/-- An error answer reaches the client as an error. -/
theorem intoSuccess_errorResponse {status : Nat} (message : String) (h : 400 ≤ status) :
    (FakeService.errorResponse status message).intoSuccess =
      .error (.api status (FakeService.errorResponse status message).body) := by
  simp [ApiResponse.intoSuccess, FakeService.errorResponse, h]

/-- A live job's page that is neither the failing nor the null-data page, and whose bounds
fit, is handed to the client as the service serves it; the world records the request, the
call and the service's latency. -/
theorem fetchPage_served (hw : w.backend = .fake fs) (hsel : sel.Reads n) (hJ : J ≠ "")
    {job : FakeJob} (hfind : fs.find? J = some job) (hP : 0 < P) (hP64 : P < Nat.pow 2 64)
    (hR : fs.behavior.rows < Nat.pow 2 64) (hfail : fs.behavior.failingPage ≠ some n)
    (hnull : fs.behavior.nullDataPage ≠ some n) (hfits : fs.behavior.PageFits P n) :
    ∃ q, (fetchPage svc P false J sel).run.run w =
      (.ok (fs.behavior.page P n),
        { w with sent := w.sent.push (svc.resultsRequest J q), backend := .fake fs.countResults,
                 clock := w.clock + fs.behavior.latencyMs }) := by
  obtain ⟨q, hq, hpq⟩ := hsel.pageQuery hJ P
  obtain ⟨body, jr, hres, hdec, hdata, hcur, hrows⟩ :=
    FakeService.results_served hfind hpq hP hP64 hR hfail hfits
  refine ⟨q, ?_⟩
  rw [fetchPage_fake hw hq, hres]
  simp [ApiResponse.intoSuccess, decodeBody, hdec, hdata, hnull, hcur, hrows]

/-- A live job's page whose bounds fit reaches the client as the service answers it: the page, or
the error for a page the service breaks. The world records the request, the call and the
service's latency. -/
theorem fetchPage_reached (hw : w.backend = .fake fs) (hsel : sel.Reads n) (hJ : J ≠ "")
    {job : FakeJob} (hfind : fs.find? J = some job) (hP : 0 < P) (hP64 : P < Nat.pow 2 64)
    (hR : fs.behavior.rows < Nat.pow 2 64) (hfits : fs.behavior.PageFits P n) :
    ∃ q, (fetchPage svc P false J sel).run.run w =
      (fs.behavior.served P n sel J,
        { w with sent := w.sent.push (svc.resultsRequest J q), backend := .fake fs.countResults,
                 clock := w.clock + fs.behavior.latencyMs }) := by
  obtain ⟨q, hq, hpq⟩ := hsel.pageQuery hJ P
  refine ⟨q, ?_⟩
  rw [fetchPage_fake hw hq]
  by_cases hfail : fs.behavior.failingPage = some n
  · -- the failing page is refused before anything is counted out
    simp [FakeService.results_failing hfind hpq hfail, intoSuccess_errorResponse,
      Behavior.served, Behavior.Breaks, Behavior.pageError, hfail]
  · obtain ⟨body, jr, hres, hdec, hdata, hcur, hrows⟩ :=
      FakeService.results_served hfind hpq hP hP64 hR hfail hfits
    by_cases hnull : fs.behavior.nullDataPage = some n <;>
    simp [hres, ApiResponse.intoSuccess, decodeBody, hdec, hdata, hnull, hcur, hrows,
      Behavior.served, Behavior.Breaks, Behavior.pageError, hfail]

/-- Soundness of a fetch: whatever the job table and the service's behaviour, a page handed to
the client is the page the service serves for that selector, and its bounds fit in 64 bits. -/
theorem fetchPage_ok (hw : w.backend = .fake fs) (hsel : sel.Reads n) (hP : 0 < P)
    (hP64 : P < Nat.pow 2 64) (hR : fs.behavior.rows < Nat.pow 2 64) {c : Bool}
    {page : FetchedPage} {w' : World} (h : (fetchPage svc P c J sel).run.run w = (.ok page, w')) :
    page = fs.behavior.page P n ∧ fs.behavior.PageFits P n := by
  cases c with
  | true => simp [fetchPage_cancelled] at h
  | false =>
  by_cases hJ : J = ""
  · -- an empty job id is refused before anything is sent
    subst hJ
    cases sel <;> simp [fetchPage, QueryService.getJobResults, QueryService.checked,
      PageSelector.request, ResultsRequest.toQuery] at h
  obtain ⟨q, hq, hpq⟩ := hsel.pageQuery hJ P
  rw [fetchPage_fake hw hq] at h
  rcases hfind : fs.find? J with _ | job
  · simp [FakeService.results_missing hfind, intoSuccess_errorResponse] at h
  by_cases hfail : fs.behavior.failingPage = some n
  · simp [FakeService.results_failing hfind hpq hfail, intoSuccess_errorResponse] at h
  by_cases hfits : fs.behavior.PageFits P n
  · obtain ⟨body, jr, hres, hdec, hdata, hcur, hrows⟩ :=
      FakeService.results_served hfind hpq hP hP64 hR hfail hfits
    by_cases hnull : fs.behavior.nullDataPage = some n <;>
    simp [hres, ApiResponse.intoSuccess, decodeBody, hdec, hdata, hnull, hcur, hrows] at h
    exact ⟨h.1.symm, hfits⟩
  · obtain ⟨m, hres⟩ := FakeService.results_overflow hfind hpq hP hP64 hfail hfits
    simp [hres] at h

end Fetch

/-! ## What the service keeps

No answer of the in-memory service changes how it behaves, and only a deletion forgets a
job. -/

namespace FakeService

variable (s : FakeService)

theorem create_behavior (body : Option Value) : (s.create body).2.behavior = s.behavior := by
  unfold create
  dsimp only
  repeat' split
  all_goals rfl

theorem create_keeps {J : String} (body : Option Value) (h : (s.find? J).isSome) :
    ((s.create body).2.find? J).isSome := by
  unfold create
  dsimp only
  repeat' split
  all_goals simp_all [find?, List.find?_append]

/-- The service after counting one more status check. -/
def countStatus (s : FakeService) : FakeService :=
  { s with calls := { s.calls with statusChecks := s.calls.statusChecks + 1 } }

@[simp] theorem countStatus_behavior : s.countStatus.behavior = s.behavior := rfl

@[simp] theorem countStatus_jobs : s.countStatus.jobs = s.jobs := rfl

@[simp] theorem find?_countStatus (J : String) : s.countStatus.find? J = s.find? J := rfl

section Status

variable {s} {J : String} {job : FakeJob}

/-- A status check of an unknown job answers 404 and only counts itself. -/
theorem status_unknown (hfind : s.find? J = none) :
    s.status J = .ok (errorResponse 404 ("job " ++ J ++ " not found"), s.countStatus) := by
  simp [status, countStatus, hfind]

/-- A status check of a known job below the 32-bit bound counts one more check of it and
reports the state that count gives. -/
theorem status_known (hfind : s.find? J = some job) (hlt : job.statusChecks + 1 < Nat.pow 2 32) :
    s.status J = .ok
      ({ status := 200, body := some (detail J { job with statusChecks := job.statusChecks + 1 }
          (stateOf s.behavior { job with statusChecks := job.statusChecks + 1 })) },
       s.countStatus.update J { job with statusChecks := job.statusChecks + 1 }) := by
  simp [status, countStatus, hfind, Text.addU32, hlt, bind, Except.bind, pure, Except.pure]

/-- The status check that would take a job's count past the largest 32-bit number stops the
service. -/
theorem status_overflow (hfind : s.find? J = some job)
    (hge : Nat.pow 2 32 ≤ job.statusChecks + 1) :
    s.status J = .error "attempt to add with overflow" := by
  simp [status, hfind, Text.addU32, Nat.not_lt.mpr hge, bind, Except.bind]

/-- An answered status check is one of the first two. -/
theorem status_answered {resp : ApiResponse} {s' : FakeService} (h : s.status J = .ok (resp, s')) :
    (s.find? J = none ∧ resp = errorResponse 404 ("job " ++ J ++ " not found") ∧
      s' = s.countStatus) ∨
    ∃ job : FakeJob, s.find? J = some job ∧ job.statusChecks + 1 < Nat.pow 2 32 ∧
      resp = { status := 200, body := some (detail J { job with statusChecks := job.statusChecks + 1 }
        (stateOf s.behavior { job with statusChecks := job.statusChecks + 1 })) } ∧
      s' = s.countStatus.update J { job with statusChecks := job.statusChecks + 1 } := by
  rcases hfind : s.find? J with _ | job
  · rw [status_unknown hfind] at h
    obtain ⟨rfl, rfl⟩ := Prod.mk.inj (Except.ok.inj h)
    exact .inl ⟨rfl, rfl, rfl⟩
  · by_cases hlt : job.statusChecks + 1 < Nat.pow 2 32
    · rw [status_known hfind hlt] at h
      obtain ⟨rfl, rfl⟩ := Prod.mk.inj (Except.ok.inj h)
      exact .inr ⟨job, rfl, hlt, rfl, rfl⟩
    · rw [status_overflow hfind (Nat.le_of_not_lt hlt)] at h
      cases h

/-- A status check changes no behaviour and deletes nothing. -/
theorem status_frame {resp : ApiResponse} {s' : FakeService} (h : s.status J = .ok (resp, s')) :
    s'.behavior = s.behavior ∧ s'.calls.deletes = s.calls.deletes := by
  rcases status_answered h with ⟨-, -, rfl⟩ | ⟨job, -, -, -, rfl⟩ <;> exact ⟨rfl, rfl⟩

end Status

@[simp] theorem update_behavior (J : String) (job : FakeJob) : (s.update J job).behavior = s.behavior :=
  rfl

/-- Updating a job keeps the set of jobs. -/
theorem find?_update_isSome (J J' : String) (job : FakeJob) :
    ((s.update J job).find? J').isSome = (s.find? J').isSome := by
  simp only [find?, update, Option.isSome_map, List.find?_map]
  congr 2
  funext e
  by_cases he : e.1 = J <;> simp [he]

/-- Whatever it answers, a results call only counts itself. -/
theorem results_state {J : String} {q : List (String × String)} {resp : ApiResponse}
    {s' : FakeService} (h : s.results J q = .ok (resp, s')) : s' = s.countResults := by
  unfold results at h
  dsimp only at h
  -- the early answers: unknown job, bad page selector, failing page
  split at h
  · simp at h; exact h.2.symm
  split at h
  · simp at h; exact h.2.symm
  split at h
  · simp at h; exact h.2.symm
  -- the page itself: each step that overflows gives no answer at all
  simp only [bind, Except.bind] at h
  split at h
  · cases h
  split at h
  · cases h
  split at h
  · cases h
  split at h
  · split at h
    · cases h
    split at h
    · cases h
    simp [pure, Except.pure] at h
    exact h.2.symm
  · split at h
    · cases h
    simp [pure, Except.pure] at h
    exact h.2.symm

theorem snd_eq_of_eq {α β : Type} {p : α × β} {a : α} {b : β} (h : p = (a, b)) : b = p.2 := by
  rw [h]

theorem list_state (query : List (String × String)) :
    (s.list query).2 = { s with calls := { s.calls with lists := s.calls.lists + 1 } } := by
  unfold list
  dsimp only
  split <;> rfl

theorem delete_behavior (J : String) : (s.delete J).2.behavior = s.behavior := by
  unfold delete
  dsimp only
  split <;> rfl

/-- No answer changes how the service behaves. -/
theorem handle_behavior {r : ApiRequest} {resp : ApiResponse} {s' : FakeService}
    (h : s.handle r = .ok (resp, s')) : s'.behavior = s.behavior := by
  unfold handle at h
  dsimp only at h
  split at h
  · simp at h; rw [← h.2]
  split at h
  · simp at h; rw [snd_eq_of_eq h, create_behavior]
  · simp at h; rw [snd_eq_of_eq h, list_state]
  · exact (status_frame h).1
  · simp at h; rw [snd_eq_of_eq h, delete_behavior]
  · rw [results_state s h]; rfl
  · simp at h; rw [← h.2]

end FakeService

/-! ## What a call leaves of the world -/

namespace World

/-- The world is served by the in-memory service behaving as `b`. -/
def Serves (b : Behavior) (w : World) : Prop := ∃ fs, w.backend = .fake fs ∧ fs.behavior = b

/-- `w'` keeps what was settled in `w`: the service's behaviour, and an overflow that stopped
the run. -/
structure Follows (w w' : World) : Prop where
  serves : ∀ b, w.Serves b → w'.Serves b
  panicked : w.panic.isSome → w'.panic.isSome

@[refl] theorem Follows.refl (w : World) : Follows w w := ⟨fun _ h => h, id⟩

@[trans] theorem Follows.trans {w₁ w₂ w₃ : World} (h₁ : Follows w₁ w₂) (h₂ : Follows w₂ w₃) :
    Follows w₁ w₃ :=
  ⟨fun b h => h₂.serves b (h₁.serves b h), fun h => h₂.panicked (h₁.panicked h)⟩

/-- The client's own bookkeeping (requests sent, clock, minted ids, log events) settles
nothing. -/
theorem Follows.of_eq {w w' : World} (hb : w'.backend = w.backend) (hp : w'.panic = w.panic) :
    Follows w w' :=
  ⟨fun _ ⟨fs, h, hfs⟩ => ⟨fs, hb.trans h, hfs⟩, fun h => hp ▸ h⟩

/-- Sending a request keeps what was settled: the in-memory service answers without changing
its behaviour, and an overflow is only ever added. -/
theorem send_follows (r : ApiRequest) (w : World) : Follows w ((send r).run.run w).2 := by
  rcases hb : w.backend with fs | q | link
  · rcases hh : fs.handle r with m | ⟨resp, fs'⟩
    · rw [send_fake_overflow hh hb]
      exact ⟨fun b ⟨fs₀, h, hfs⟩ => ⟨fs₀, h, hfs⟩, fun _ => by cases w.panic <;> rfl⟩
    · rw [send_fake hh hb]
      refine ⟨fun b ⟨fs₀, h, hfs⟩ => ⟨fs', rfl, ?_⟩, id⟩
      rw [hb] at h
      cases h
      rw [FakeService.handle_behavior fs hh, hfs]
  · -- a scripted transport is not the in-memory service, and records no overflow
    refine ⟨fun b ⟨fs, h, _⟩ => by simp [hb] at h, fun h => ?_⟩
    rcases q with _ | ⟨c, rest⟩
    · simpa only [send, Call.run_bind, Call.run_modify, Call.run_get, Call.run_throw, hb] using h
    · cases c <;>
      simpa only [send, Call.run_bind, Call.run_modify, Call.run_get, Call.run_throw,
        Call.run_pure, hb] using h
  · refine ⟨fun b ⟨fs, h, _⟩ => by simp [hb] at h, fun h => ?_⟩
    rcases hs : (link.send r).1 with e | resp <;>
    simpa only [send, Call.run_bind, Call.run_modify, Call.run_get, Call.run_throw,
      Call.run_pure, hb, hs] using h
end World

namespace Call

variable {α β : Type}

/-- A call keeps what was settled in every world it runs from. -/
def Follows (x : Call α) : Prop := ∀ w, World.Follows w (x.run.run w).2

theorem Follows.pure (a : α) : Follows (pure a : Call α) := fun w => World.Follows.refl w

theorem Follows.throw (e : QueryError) : Follows (throw e : Call α) :=
  fun w => World.Follows.refl w

theorem Follows.bind {x : Call α} {g : α → Call β} (hx : Follows x) (hg : ∀ a, Follows (g a)) :
    Follows (x >>= g) := by
  intro w
  rw [run_bind]
  rcases hxw : x.run.run w with ⟨_ | a, w'⟩
  · simpa [hxw] using hx w
  · exact (by simpa [hxw] using hx w : World.Follows w w').trans (hg a w')

theorem Follows.send (r : ApiRequest) : Follows (World.send r) := World.send_follows r

theorem Follows.lift (x : Run α) (h : ∀ w, World.Follows w (x.run w).2) : Follows (x : Call α) :=
  fun w => by simpa using h w

theorem Follows.checked (r : Except QueryError α) : Follows (QueryService.checked r) := by
  cases r
  · exact Follows.throw _
  · exact Follows.pure _

theorem Follows.expect (d : Json.Decoder α) (what : String) (body : Option Value) :
    Follows (QueryService.expect d what body) := by
  unfold QueryService.expect
  split
  · exact Follows.pure _
  · exact Follows.throw _

theorem Follows.call (svc : QueryService) (r : ApiRequest) : Follows (svc.call r) :=
  (Follows.send _).bind fun _ => Follows.checked _

theorem Follows.getJobResults (svc : QueryService) (req : ResultsRequest) :
    Follows (svc.getJobResults req) :=
  (Follows.checked _).bind fun _ => (Follows.call _ _).bind fun _ => Follows.expect _ _ _

theorem Follows.getJobStatus (svc : QueryService) (jobId : String) :
    Follows (svc.getJobStatus jobId) :=
  (Follows.checked _).bind fun _ => (Follows.call _ _).bind fun _ => Follows.expect _ _ _

theorem Follows.deleteJob (svc : QueryService) (jobId : String) :
    Follows (svc.deleteJob jobId) :=
  (Follows.checked _).bind fun _ => (Follows.call _ _).bind fun _ => Follows.expect _ _ _

theorem Follows.createJob (svc : QueryService) (jobId : Option String)
    (params : Option QueryParams) : Follows (svc.createJob jobId params) := by
  unfold QueryService.createJob
  cases params with
  | none => exact Follows.throw _
  | some params =>
    exact (Follows.lift _ fun w => World.Follows.of_eq rfl rfl).bind fun _ =>
      (Follows.call _ _).bind fun _ => Follows.expect _ _ _

theorem Follows.fetchPage (svc : QueryService) (P : Nat) (cancelled : Bool) (J : String)
    (sel : PageSelector) : Follows (fetchPage svc P cancelled J sel) := by
  have hrest : ∀ u : Unit, Follows (do
      let result ← svc.getJobResults (sel.request J P)
      match result.page.result.data with
      | none =>
        MonadExcept.throw (QueryError.parse ("page " ++ sel.debug ++ " of job " ++ J ++ " has null data"))
      | some rows =>
        Pure.pure ({ rows, nextCursor := result.page.pageCursor, rowsInJob := result.rowsInJob } :
          FetchedPage)) := by
    intro _
    refine (Follows.getJobResults _ _).bind fun result => ?_
    split
    · exact Follows.throw _
    · exact Follows.pure _
  unfold JobQuery.fetchPage
  dsimp only
  split
  · exact (Follows.throw _).bind hrest
  · exact hrest ()

theorem Follows.check (d : JobDriver) (cancelled : Bool) (J : String) :
    Follows (d.check cancelled J) := by
  unfold JobDriver.check
  dsimp only
  split
  · exact (Follows.throw _).bind fun _ => (Follows.getJobStatus _ _).bind fun _ => Follows.pure _
  · exact (Follows.getJobStatus _ _).bind fun _ => Follows.pure _

/-- Polling keeps what was settled, however many checks it makes. -/
theorem Follows.settle (d : JobDriver) (cancelled : Bool) (J : String) (remaining : Nat) :
    ∀ attempts state, Follows (d.settle cancelled J remaining attempts state) := by
  induction remaining with
  | zero =>
    intro attempts state
    unfold JobDriver.settle
    split
    · exact Follows.throw _
    · split
      · exact Follows.pure _
      · exact Follows.throw _
  | succ r ih =>
    intro attempts state
    unfold JobDriver.settle
    split
    · dsimp only
      split
      · exact (Follows.throw _).bind fun _ => (Follows.lift _ fun w => World.Follows.of_eq rfl rfl).bind
          fun _ => (Follows.check _ _ _).bind fun next => ih _ _
      · exact (Follows.lift _ fun w => World.Follows.of_eq rfl rfl).bind
          fun _ => (Follows.check _ _ _).bind fun next => ih _ _
    · split
      · exact Follows.pure _
      · exact Follows.throw _

theorem Follows.create (d : JobDriver) (jobId : Option String) (params : QueryParams) :
    Follows (d.create jobId params) :=
  Follows.createJob _ _ _

theorem Follows.pollUntilDone (d : JobDriver) (cancelled : Bool) (J : String) :
    Follows (d.pollUntilDone cancelled J) :=
  (Follows.check _ _ _).bind fun _ => Follows.settle _ _ _ _ _ _

end Call

namespace Run

variable {α β : Type}

/-- A computation of the world keeps what was settled in every world it runs from. -/
def Follows (x : Run α) : Prop := ∀ w, World.Follows w (x.run w).2

theorem Follows.pure (a : α) : Follows (pure a : Run α) := fun w => World.Follows.refl w

theorem Follows.bind {x : Run α} {g : α → Run β} (hx : Follows x) (hg : ∀ a, Follows (g a)) :
    Follows (x >>= g) :=
  fun w => (hx w).trans (hg _ _)

theorem Follows.call {x : Call α} (hx : Call.Follows x) : Follows x.run := hx

theorem Follows.freshJobId : Follows World.freshJobId := fun _ => World.Follows.of_eq rfl rfl

theorem Follows.delete (d : JobDriver) (J : String) : Follows (d.delete J) :=
  (Follows.call (Call.Follows.deleteJob _ _)).bind fun _ => Follows.pure _

/-- Starting a job keeps what was settled, however far it gets. -/
theorem Follows.launch (s : Session) : Follows s.launch := by
  unfold Session.launch
  refine Follows.freshJobId.bind fun id => (Follows.call (Call.Follows.createJob _ _ _)).bind
    fun created => ?_
  split
  · exact Follows.pure _
  · refine (Follows.call ?_).bind fun _ => Follows.pure _
    exact (Call.Follows.pollUntilDone _ _ _).bind fun _ =>
      (Call.Follows.fetchPage _ _ _ _ _).bind fun _ => Call.Follows.pure _

end Run

end JobQuery
