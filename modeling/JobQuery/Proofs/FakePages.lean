import JobQuery.Proofs.FakeService
import JobQuery.Proofs.ObjectDecode

/-!
# JobQuery — every page the in-memory service can be asked for

The page handler of the in-memory service answers any results query of a live job, not only
the ones the client writes. This module says what it answers, for every query:

* the page is chosen by a `page-k` cursor or a page number, never both; a cursor that is not
  `page-` and a numeral, or a page number that is no numeral, answers 400, and the cursor
  `page-k` chooses the page the number `k` chooses (`FakeService.SelectsPages`);
* the failing page answers 500;
* any other page `n`, in pages of `ps` rows (the query's positive `pageSize`, else the job's
  `defaultPageSize`, else 400) after `o` rows, covers the rows from `a = min (o + n * ps) R` to
  `e = min (a + ps) R` of the job's `R`: the answer holds exactly those rows in the asked form
  (no data on the null-data page), says `e - a` rows are in it, and carries the cursor
  `page-(n+1)` exactly when rows remain after it (`FakeService.PageBody`);
* all of that holds when the page's bounds, and the next page's number, fit in 64 bits
  (`FakeService.Fits`); when they do not, the service stops with the overflow.

Objects are read through `Value.get?_object`: a field of an object built from bindings is the
last binding of its key.

The main result is `FakeService.results_answers_every_page`.
-/

namespace JobQuery

open Json

/-! ## Choosing the page -/

namespace FakeService

variable {q q₁ q₂ : List (String × String)}

theorem cursor_page_numeral (k : String) :
    String.ofList (("page-" ++ k).toList.drop 5) = k := by
  simp [String.toList_append]

/-- A cursor that starts with `page-` is `page-` and the rest. -/
theorem eq_page_of_startsWith {c : String} (h : c.startsWith "page-" = true) :
    c = "page-" ++ String.ofList (c.toList.drop 5) := by
  obtain ⟨rest, hrest⟩ := String.startsWith_string_iff.mp h
  have hdrop : c.toList.drop 5 = rest := by
    rw [← hrest]
    simp
  rw [hdrop]
  apply String.toList_injective
  simp [String.toList_append, ← hrest]

/-- How the page handler chooses the page of a query. -/
structure SelectsPages : Prop where
  /-- A cursor and a page number together answer 400. -/
  exclusive : ∀ q c m, param q "pageCursor" = some c → param q "pageNumber" = some m →
    pageNumber q = .error (errorResponse 400 "'pageCursor' and 'pageNumber' are exclusive")
  /-- A cursor that is not `page-` followed by a numeral answers 400. -/
  unknownCursor : ∀ q c, param q "pageCursor" = some c → param q "pageNumber" = none →
    (∀ k, c = "page-" ++ k → Text.parseU64 k = none) →
    pageNumber q = .error (errorResponse 400 ("unknown page cursor " ++ c))
  /-- A page number that is not a numeral answers 400. -/
  notNumeral : ∀ q m, param q "pageCursor" = none → param q "pageNumber" = some m →
    Text.parseU64 m = none → pageNumber q = .error (errorResponse 400 "'pageNumber' must be a number")
  /-- The cursor `page-k` chooses the page the page number `k` chooses. -/
  cursorAsNumber : ∀ q₁ q₂ k n, param q₁ "pageCursor" = some ("page-" ++ k) →
    param q₁ "pageNumber" = none → param q₂ "pageCursor" = none → param q₂ "pageNumber" = some k →
    (pageNumber q₁ = .ok n ↔ pageNumber q₂ = .ok n)
  /-- Every refusal answers 400. -/
  refusal : ∀ q r, pageNumber q = .error r → r.status = 400

theorem selectsPages : SelectsPages where
  exclusive q c m hc hm := by simp [pageNumber, hc, hm]
  unknownCursor q c hc hm hunknown := by
    unfold pageNumber
    simp only [hc, hm]
    by_cases hs : c.startsWith "page-" = true
    · have hnone := hunknown _ (eq_page_of_startsWith hs)
      simp [hs, hnone]
    · simp [hs]
  notNumeral q m hc hm hnum := by simp [pageNumber, hc, hm, hnum]
  cursorAsNumber q₁ q₂ k n h₁c h₁n h₂c h₂n := by
    simp only [pageNumber, h₁c, h₁n, h₂c, h₂n, startsWith_page, if_true, cursor_page_numeral]
    cases Text.parseU64 k <;> simp
  refusal q r h := by
    unfold pageNumber at h
    cases hc : param q "pageCursor" with
    | none =>
      cases hn : param q "pageNumber" with
      | none => simp [hc, hn] at h
      | some m =>
        simp only [hc, hn] at h
        split at h
        · cases h
        · cases h
          rfl
    | some c =>
      cases hn : param q "pageNumber" with
      | none =>
        simp only [hc, hn] at h
        split at h
        · cases h
        · cases h
          rfl
      | some m =>
        simp only [hc, hn] at h
        cases h
        rfl

/-! ## Answering a page -/

/-- Page size `ps` is what a results query asks of `job`: its `pageSize` when that reads as a
positive number, else the job's `defaultPageSize`, else 400. -/
def AsksSize (job : FakeJob) (q : List (String × String)) (ps : Nat) : Prop :=
  ((param q "pageSize").bind Text.parseU64 = some ps ∧ 0 < ps) ∨
    ((∀ p, (param q "pageSize").bind Text.parseU64 = some p → p = 0) ∧
      ps = (((job.params.get? "properties").bind (·.get? "defaultPageSize")).bind
        Value.asNat?).getD defaultPageSize)

/-- The first row of page `n` in pages of `ps` rows after `o` rows, in a job of `R` rows. -/
def firstRow (R o n ps : Nat) : Nat := min (o + n * ps) R

/-- One past the last row of that page. -/
def endRow (R o n ps : Nat) : Nat := min (firstRow R o n ps + ps) R

/-- The bounds of the page fit in 64 bits, and so does the next page's number when rows remain
after it. -/
structure Fits (R o n ps : Nat) : Prop where
  first : o + n * ps < Nat.pow 2 64
  last : firstRow R o n ps + ps < Nat.pow 2 64
  next : endRow R o n ps < R → n + 1 < Nat.pow 2 64

/-- Row `i` as the service writes it: `[i]` when rows are asked for as arrays, `{"row": i}`
otherwise. -/
def rowValue (asArrays : Bool) (i : Nat) : Value :=
  if asArrays then .arr [Value.nat i] else Value.object [("row", Value.nat i)]

theorem rowsBetween_eq (asArrays : Bool) (a e : Nat) :
    rowsBetween asArrays a e = (List.range' a (e - a)).map (rowValue asArrays) := by
  simp [rowsBetween, rowValue, List.range'_eq_map_range]

/-- What the answer for page `n`, holding the rows `a ..< e` of a service behaving as `b`, says. -/
structure PageBody (b : Behavior) (asArrays : Bool) (n a e : Nat) (body : Value) : Prop where
  /-- The rows `a ..< e` in the asked form, or no data on the null-data page. -/
  rows : ((body.get? "page").bind (·.get? "result")).bind (·.get? "data") =
    some (if b.nullDataPage = some n then .null
      else .arr ((List.range' a (e - a)).map (rowValue asArrays)))
  /-- How many rows the page holds. -/
  rowsInPage : body.get? "rowsInPage" = some (Value.nat (e - a))
  /-- The cursor of the next page, exactly when rows remain. -/
  cursor : (body.get? "page").bind (·.get? "pageCursor") =
    some (if e < b.rows then .str ("page-" ++ toString (n + 1)) else .null)
  /-- The form of the rows. -/
  format : body.get? "resultFormat" =
    some (.str (if asArrays then "valuesArray" else "valuesDictionary"))
  /-- The job's row count, when the service reports it. -/
  rowsInJob : body.get? "rowsInJob" = if b.reportRowsInJob then some (Value.nat b.rows) else none

theorem mulU64_of_lt {a b : Nat} (h : a * b < Nat.pow 2 64) : Text.mulU64 a b = .ok (a * b) := by
  simp [Text.mulU64, h]

theorem addU64_of_lt {a b : Nat} (h : a + b < Nat.pow 2 64) : Text.addU64 a b = .ok (a + b) := by
  simp [Text.addU64, h]

theorem mulU64_of_not_lt {a b : Nat} (h : ¬ a * b < Nat.pow 2 64) :
    Text.mulU64 a b = .error "attempt to multiply with overflow" := by
  simp [Text.mulU64, h]

theorem addU64_of_not_lt {a b : Nat} (h : ¬ a + b < Nat.pow 2 64) :
    Text.addU64 a b = .error "attempt to add with overflow" := by
  simp [Text.addU64, h]

variable {s : FakeService} {id : String} {job : FakeJob} {q : List (String × String)}
  {n ps o : Nat}

theorem asksSize_some {p : Nat} (h : AsksSize job q ps)
    (hp : (param q "pageSize").bind Text.parseU64 = some p) :
    (if p > 0 then p else (((job.params.get? "properties").bind (·.get? "defaultPageSize")).bind
      Value.asNat?).getD defaultPageSize) = ps := by
  rcases h with ⟨h, hpos⟩ | ⟨hz, hd⟩
  · rw [hp] at h
    cases h
    simp [hpos]
  · obtain rfl := hz p hp
    simpa using hd.symm

theorem asksSize_none (h : AsksSize job q ps) (hp : (param q "pageSize").bind Text.parseU64 = none) :
    (((job.params.get? "properties").bind (·.get? "defaultPageSize")).bind Value.asNat?).getD
      defaultPageSize = ps := by
  rcases h with ⟨h, -⟩ | ⟨-, hd⟩
  · rw [hp] at h
    cases h
  · exact hd.symm

/-- A page that is not the failing one is served when its bounds fit in 64 bits, and stops the
service with the overflow when they do not. -/
theorem results_page (hfind : s.find? id = some job) (hn : pageNumber q = .ok n)
    (hfail : s.behavior.failingPage ≠ some n) (hps : AsksSize job q ps)
    (ho : ((param q "offset").bind Text.parseU64).getD 0 = o) :
    (Fits s.behavior.rows o n ps →
      ∃ body, s.results id q = .ok ({ status := 200, body := some body }, s.countResults) ∧
        PageBody s.behavior (param q "resultFormat" == some "valuesArray") n
          (firstRow s.behavior.rows o n ps) (endRow s.behavior.rows o n ps) body) ∧
    (¬ Fits s.behavior.rows o n ps → ∃ m, s.results id q = .error m) := by
  unfold results
  simp only [find?_calls, hfind, hn, ho]
  rw [if_neg (by simpa using hfail)]
  -- every way of reading the page size gives `ps`
  split
  case' h_1 p hp => rw [asksSize_some hps hp]
  case' h_2 hp => rw [asksSize_none hps hp]
  all_goals
    refine ⟨fun hfits => ?_, fun hnot => ?_⟩
    · obtain ⟨hfirst, hlast, hnext⟩ := hfits
      have hmul : n * ps < Nat.pow 2 64 := by omega
      have hlast' : min (o + n * ps) s.behavior.rows + ps < Nat.pow 2 64 := hlast
      simp only [mulU64_of_lt hmul, addU64_of_lt hfirst, addU64_of_lt hlast', bind, Except.bind,
        pure, Except.pure]
      have hfr : min (o + n * ps) s.behavior.rows = firstRow s.behavior.rows o n ps := rfl
      rw [hfr]
      have her : min (firstRow s.behavior.rows o n ps + ps) s.behavior.rows =
          endRow s.behavior.rows o n ps := rfl
      rw [her]
      -- only the cursor of the next page depends on whether rows remain
      by_cases hstop : endRow s.behavior.rows o n ps < s.behavior.rows
      · rw [if_pos hstop, addU64_of_lt (hnext hstop)]
        refine ⟨_, rfl, ?_⟩
        constructor <;> cases s.behavior.reportRowsInJob <;>
          simp [Value.get?_object, hstop, rowsBetween_eq]
      · rw [if_neg hstop]
        refine ⟨_, rfl, ?_⟩
        constructor <;> cases s.behavior.reportRowsInJob <;>
          simp [Value.get?_object, hstop, rowsBetween_eq]
    · -- the first bound that does not fit stops the service
      by_cases hmul : n * ps < Nat.pow 2 64
      · by_cases hfirst : o + n * ps < Nat.pow 2 64
        · by_cases hlast : min (o + n * ps) s.behavior.rows + ps < Nat.pow 2 64
          · have hnext : endRow s.behavior.rows o n ps < s.behavior.rows ∧
                ¬ n + 1 < Nat.pow 2 64 := by
              by_contra h
              exact hnot ⟨hfirst, hlast, fun hstop => by_contra fun hn => h ⟨hstop, hn⟩⟩
            have hstop : min (min (o + n * ps) s.behavior.rows + ps) s.behavior.rows <
                s.behavior.rows := hnext.1
            simp only [mulU64_of_lt hmul, addU64_of_lt hfirst, addU64_of_lt hlast, bind,
              Except.bind, if_pos hstop, addU64_of_not_lt hnext.2]
            exact ⟨_, rfl⟩
          · simp only [mulU64_of_lt hmul, addU64_of_lt hfirst, addU64_of_not_lt hlast, bind,
              Except.bind]
            exact ⟨_, rfl⟩
        · simp only [mulU64_of_lt hmul, addU64_of_not_lt hfirst, bind, Except.bind]
          exact ⟨_, rfl⟩
      · simp only [mulU64_of_not_lt hmul, bind, Except.bind]
        exact ⟨_, rfl⟩

-- The largest page number in pages of two rows: the first bound already overflows.
example : (FakeService.results
    { behavior := { rows := 10 }, jobs := [("j", { params := .null, submitTime := 1 })] } "j"
    [("pageSize", "2"), ("pageNumber", "18446744073709551615")]).toBool = false := by decide

/-- A query of a live job whose page cannot be chosen is answered with the refusal. -/
theorem results_refused (hfind : s.find? id = some job) {r : ApiResponse}
    (hr : pageNumber q = .error r) : s.results id q = .ok (r, s.countResults) := by
  simp [results, countResults, hfind, hr]

/-- The failing page answers 500, whatever else the query asks. -/
theorem results_exploded (hfind : s.find? id = some job) (hn : pageNumber q = .ok n)
    (hfail : s.behavior.failingPage = some n) :
    s.results id q =
      .ok (errorResponse 500 ("page " ++ toString n ++ " exploded"), s.countResults) := by
  simp [results, countResults, hfind, hn, hfail]

/-- What the page handler answers to a results query `q` of the live job `job`, registered
under `id`. -/
structure AnswersPages (s : FakeService) (id : String) (job : FakeJob)
    (q : List (String × String)) : Prop where
  /-- A page that cannot be chosen answers the refusal, a 400. -/
  refused : ∀ r, pageNumber q = .error r → r.status = 400 ∧ s.results id q = .ok (r, s.countResults)
  /-- The failing page answers 500. -/
  exploded : ∀ n, pageNumber q = .ok n → s.behavior.failingPage = some n →
    s.results id q = .ok (errorResponse 500 ("page " ++ toString n ++ " exploded"), s.countResults)
  /-- Any other page whose bounds fit in 64 bits is served exactly. -/
  served : ∀ n ps o, pageNumber q = .ok n → s.behavior.failingPage ≠ some n → AsksSize job q ps →
    ((param q "offset").bind Text.parseU64).getD 0 = o → Fits s.behavior.rows o n ps →
    ∃ body, s.results id q = .ok ({ status := 200, body := some body }, s.countResults) ∧
      PageBody s.behavior (param q "resultFormat" == some "valuesArray") n
        (firstRow s.behavior.rows o n ps) (endRow s.behavior.rows o n ps) body
  /-- A page whose bounds do not fit stops the service with the overflow. -/
  overflow : ∀ n ps o, pageNumber q = .ok n → s.behavior.failingPage ≠ some n →
    AsksSize job q ps → ((param q "offset").bind Text.parseU64).getD 0 = o →
    ¬ Fits s.behavior.rows o n ps → ∃ m, s.results id q = .error m

/-- **Every page of a live job.** The page of a results query is chosen as `SelectsPages` says,
and for every live job and every query the page handler refuses, fails, serves or overflows as
`AnswersPages` says: it serves the exact page whenever its bounds fit in 64 bits, and stops
with the overflow otherwise. -/
theorem results_answers_every_page (s : FakeService) (id : String) (job : FakeJob)
    (q : List (String × String)) (hfind : s.find? id = some job) :
    SelectsPages ∧ AnswersPages s id job q := by
  refine ⟨selectsPages, ?_⟩
  exact {
    refused := fun r hr => ⟨selectsPages.refusal q r hr, results_refused hfind hr⟩
    exploded := fun n hn hfail => results_exploded hfind hn hfail
    served := fun n ps o hn hfail hps ho hfits => (results_page hfind hn hfail hps ho).1 hfits
    overflow := fun n ps o hn hfail hps ho hnot => (results_page hfind hn hfail hps ho).2 hnot }

/-- The job `j` of a service with ten rows, asked for page 2 in pages of four rows. -/
theorem results_answers_every_page_ten_rows :
    FakeService.find? { behavior := { rows := 10 }, jobs := [("j", { params := .null, submitTime := 1 })] }
        "j" = some { params := .null, submitTime := 1 } ∧ SelectsPages ∧
      AnswersPages { behavior := { rows := 10 }, jobs := [("j", { params := .null, submitTime := 1 })] }
        "j" { params := .null, submitTime := 1 } [("pageSize", "4"), ("pageNumber", "2")] :=
  ⟨rfl, results_answers_every_page _ "j" _ _ rfl⟩

end FakeService

end JobQuery
