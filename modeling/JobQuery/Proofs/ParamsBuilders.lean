import JobQuery.Proofs.FakePages
import JobQuery.Proofs.SessionStart

/-!
# JobQuery — job parameters: builders and wire form

Job parameters are made from a query text and then shaped by builder steps: a dialect, a
priority, and three numeric properties given as 32-bit numbers (`QueryParams.Step`). This
module says what any sequence of steps makes, and what the wire form of the result is:

* a query that is blank once trimmed is refused; any other query gives the parameters
  `QueryParams.given`, in which the dialect and the priority are the last ones given, each
  numeric property is the last value other than zero given for it (a zero never clears an
  earlier value), and the properties are absent when no step set one;
* the wire object binds `query`, `dialect` only when one was given, and `properties` only
  when some property was set, holding just the properties set;
* reading the wire object back gives the same parameters.

The fold of the builders is compared with the declarative `given` one step at a time
(`given_apply`): applying a step to what the steps before it describe gives what all of them
describe. Reading back rests on a fact about every structure decoder: a canonical object whose
members each pass their field's check is read through `Value.get?`
(`Shape.decode_object`).

The main result is `QueryParams.build_wire`.
-/

namespace JobQuery

open Json

namespace QueryProperties

/-- The wire object binds exactly the properties that are set, each to its value. -/
theorem wire_get? (p : QueryProperties) (k : String) :
    p.wire.get? k =
      if k = "priority" then p.priority.map fun x => .str x.name
      else if k = "timeoutMs" then p.timeoutMs.map Value.nat
      else if k = "maxWait" then p.maxWait.map Value.nat
      else if k = "defaultPageSize" then p.defaultPageSize.map Value.nat
      else none := by
  simp only [wire, Value.get?_object, List.reverse_append, Value.reverse_optional,
    List.find?_append, Value.find?_optional]
  by_cases h1 : k = "priority"
  · subst h1; simp [Function.comp_def]
  by_cases h2 : k = "timeoutMs"
  · subst h2; simp [Function.comp_def]
  by_cases h3 : k = "maxWait"
  · subst h3; simp [Function.comp_def]
  by_cases h4 : k = "defaultPageSize"
  · subst h4; simp [Function.comp_def]
  simp [h1, h2, h3, h4, Ne.symm h1, Ne.symm h2, Ne.symm h3, Ne.symm h4]

theorem shape_plain : shape.Plain := by
  simp [Shape.Plain, shape, Field.of]

/-- Properties whose numbers are 32-bit. -/
structure Fits (p : QueryProperties) : Prop where
  timeoutMs : ∀ n ∈ p.timeoutMs, n < Nat.pow 2 32
  maxWait : ∀ n ∈ p.maxWait, n < Nat.pow 2 32
  defaultPageSize : ∀ n ∈ p.defaultPageSize, n < Nat.pow 2 32

theorem option_priority (x : Priority) :
    Decoder.option Priority.decoder (.str x.name) = .ok (some x) := by
  cases x <;> rfl

/-- Every member of the wire object passes the check of its field. -/
theorem wire_checks {p : QueryProperties} (hp : p.Fits) :
    ∀ kv ∈ (p.priority.map fun x => [("priority", Value.str x.name)]).getD [] ++
      (p.timeoutMs.map fun x => [("timeoutMs", Value.nat x)]).getD [] ++
      (p.maxWait.map fun x => [("maxWait", Value.nat x)]).getD [] ++
      (p.defaultPageSize.map fun x => [("defaultPageSize", Value.nat x)]).getD [],
      ∀ f ∈ shape.fields, f.name = kv.1 → f.check kv.2 = none := by
  intro kv hkv f hf hname
  simp only [shape, List.mem_cons, List.not_mem_nil, or_false] at hf
  simp only [List.mem_append, Value.mem_optional] at hkv
  -- only the field of the member's own name is left in each case
  rcases hkv with ((⟨x, -, rfl⟩ | ⟨x, hx, rfl⟩) | ⟨x, hx, rfl⟩) | ⟨x, hx, rfl⟩ <;>
    rcases hf with rfl | rfl | rfl | rfl <;> simp [Field.of] at hname
  · exact Field.check_of_ok [] (option_priority x)
  · exact Field.check_of_ok [] (Decoder.option_u32_nat (hp.timeoutMs x hx))
  · exact Field.check_of_ok [] (Decoder.option_u32_nat (hp.maxWait x hx))
  · exact Field.check_of_ok [] (Decoder.option_u32_nat (hp.defaultPageSize x hx))

/-- Reading the wire form of properties whose numbers are 32-bit gives them back. -/
theorem decoder_wire {p : QueryProperties} (hp : p.Fits) : decoder p.wire = .ok p := by
  obtain ⟨members, hm⟩ : ∃ members, p.wire = .obj members := ⟨_, rfl⟩
  have hslot : ∀ name, (shape.fields.find? (fun f => f.name == name)).isSome →
      shape.memberSlot members name = Slot.ofMember name (p.wire.get? name) := by
    intro name hf
    rw [hm]
    exact Shape.memberSlot_plain shape_plain members hf
  rw [decoder, hm, Shape.decode_object shape_plain _ hm (wire_checks hp),
    hslot "priority" (by simp [shape, Field.of]), hslot "timeoutMs" (by simp [shape, Field.of]),
    hslot "maxWait" (by simp [shape, Field.of]),
    hslot "defaultPageSize" (by simp [shape, Field.of])]
  simp only [wire_get?, String.reduceEq, ↓reduceIte]
  rw [Slot.optional_ofMember (fun x _ => option_priority x),
    Slot.optional_ofMember (fun x hx => Decoder.option_u32_nat (hp.timeoutMs x hx)),
    Slot.optional_ofMember (fun x hx => Decoder.option_u32_nat (hp.maxWait x hx)),
    Slot.optional_ofMember (fun x hx => Decoder.option_u32_nat (hp.defaultPageSize x hx))]
  rfl

theorem eq_empty_of_isEmpty {p : QueryProperties} (h : p.isEmpty = true) : p = {} := by
  obtain ⟨_, _, _, _⟩ := p
  simp_all [isEmpty]

/-- The wire form of properties read as an optional member. -/
theorem option_decoder_fits {p : QueryProperties} (hp : p.Fits) :
    Decoder.option decoder p.wire = .ok (some p) := by
  obtain ⟨members, hm⟩ : ∃ members, p.wire = .obj members := ⟨_, rfl⟩
  have hd := decoder_wire hp
  rw [hm] at hd ⊢
  simp [Decoder.option, hd, Except.map]

end QueryProperties

namespace QueryParams

/-- The wire object binds `query`, the dialect when there is one, and the properties when
some are set. -/
theorem wire_get? (p : QueryParams) (k : String) :
    p.wire.get? k =
      if k = "query" then some (.str p.query)
      else if k = "dialect" then p.dialect.map .str
      else if k = "properties" then (if p.noProperties then none else some p.props.wire)
      else none := by
  have hprops : (if p.noProperties then [] else [("properties", p.props.wire)]) =
      ((if p.noProperties then none else some p.props.wire).map fun x => [("properties", x)]).getD [] := by
    split <;> rfl
  simp only [wire, hprops, Value.get?_object, List.reverse_append, Value.reverse_optional,
    List.find?_append, Value.find?_optional]
  by_cases h1 : k = "query"
  · subst h1; simp
  by_cases h2 : k = "dialect"
  · subst h2; simp [Function.comp_def]
  by_cases h3 : k = "properties"
  · subst h3; split <;> simp
  simp [h1, h2, h3, Ne.symm h1, Ne.symm h2, Ne.symm h3]

theorem shape_plain : shape.Plain := by
  simp [Shape.Plain, shape, Field.of]

/-- Parameters whose properties, when present, are not all unset and have 32-bit numbers. -/
def Fits (p : QueryParams) : Prop := ∀ props ∈ p.properties, props.isEmpty = false ∧ props.Fits

/-- The properties member of such parameters is their properties, written. -/
theorem properties_member {p : QueryParams} (hp : p.Fits) :
    (if p.noProperties then none else some p.props.wire) = p.properties.map QueryProperties.wire := by
  cases h : p.properties with
  | none => simp [noProperties, h]
  | some props => simp [noProperties, QueryParams.props, h, (hp props h).1]

/-- Every member of the wire object passes the check of its field. -/
theorem wire_checks {p : QueryParams} (hp : p.Fits) :
    ∀ kv ∈ [("query", Value.str p.query)] ++ (p.dialect.map fun d => [("dialect", Value.str d)]).getD [] ++
      (if p.noProperties then [] else [("properties", p.props.wire)]),
      ∀ f ∈ shape.fields, f.name = kv.1 → f.check kv.2 = none := by
  intro kv hkv f hf hname
  simp only [shape, List.mem_cons, List.not_mem_nil, or_false] at hf
  have hprops : ∀ x ∈ (if p.noProperties then [] else [("properties", p.props.wire)]),
      x = ("properties", p.props.wire) ∧ ∃ props, p.properties = some props := by
    intro x hx
    cases h : p.properties with
    | none => simp [noProperties, h] at hx
    | some props => split at hx <;> simp_all
  simp only [List.mem_append, List.mem_singleton, Value.mem_optional] at hkv
  rcases hkv with (rfl | ⟨d, -, rfl⟩) | hkv
  · rcases hf with rfl | rfl | rfl <;> simp [Field.of] at hname
    exact Field.check_of_ok [] (a := p.query) rfl
  · rcases hf with rfl | rfl | rfl <;> simp [Field.of] at hname
    exact Field.check_of_ok [] (a := some d) rfl
  · obtain ⟨rfl, props, hsome⟩ := hprops kv hkv
    rcases hf with rfl | rfl | rfl <;> simp [Field.of] at hname
    have hfits := (hp props hsome).2
    rw [show p.props = props by simp [QueryParams.props, hsome]]
    exact Field.check_of_ok [] (QueryProperties.option_decoder_fits hfits)

/-- Reading the wire form of parameters back gives them. -/
theorem decoder_wire {p : QueryParams} (hp : p.Fits) : decoder p.wire = .ok p := by
  obtain ⟨members, hm⟩ : ∃ members, p.wire = .obj members := ⟨_, rfl⟩
  have hslot : ∀ name, (shape.fields.find? (fun f => f.name == name)).isSome →
      shape.memberSlot members name = Slot.ofMember name (p.wire.get? name) := by
    intro name hf
    rw [hm]
    exact Shape.memberSlot_plain shape_plain members hf
  rw [decoder, hm, Shape.decode_object shape_plain _ hm (wire_checks hp),
    hslot "query" (by simp [shape, Field.of]), hslot "dialect" (by simp [shape, Field.of]),
    hslot "properties" (by simp [shape, Field.of])]
  simp only [wire_get?, String.reduceEq, ↓reduceIte, properties_member hp]
  rw [Slot.optional_ofMember (fun x _ => rfl),
    Slot.optional_ofMember (fun x hx => QueryProperties.option_decoder_fits (hp x hx).2)]
  rfl

/-! ## Builder steps -/

/-- One builder step, with the argument it is given; the numeric builders take 32-bit
numbers. -/
inductive Step where
  | dialect (dialect : String)
  | priority (priority : Priority)
  | timeoutMs (ms : UInt32)
  | maxWait (wait : UInt32)
  | defaultPageSize (size : UInt32)

namespace Step

/-- Run the builder of a step. -/
def apply (p : QueryParams) : Step → QueryParams
  | .dialect d => p.withDialect d
  | .priority pr => p.withPriority pr
  | .timeoutMs ms => p.withTimeoutMs ms.toNat
  | .maxWait wait => p.withMaxWait wait.toNat
  | .defaultPageSize size => p.withDefaultPageSize size.toNat

/-- The dialect a step gives. -/
def dialect? : Step → Option String
  | .dialect d => some d
  | _ => none

/-- The priority a step gives. -/
def priority? : Step → Option Priority
  | .priority pr => some pr
  | _ => none

/-- A 32-bit number other than zero: the only values the numeric builders keep. -/
def nonzero (n : UInt32) : Option Nat := if n.toNat = 0 then none else some n.toNat

/-- The job timeout a step gives, if not zero. -/
def timeoutMs? : Step → Option Nat
  | .timeoutMs ms => nonzero ms
  | _ => none

/-- The result wait a step gives, if not zero. -/
def maxWait? : Step → Option Nat
  | .maxWait wait => nonzero wait
  | _ => none

/-- The default page size a step gives, if not zero. -/
def defaultPageSize? : Step → Option Nat
  | .defaultPageSize size => nonzero size
  | _ => none

/-- Whether a step sets a property. -/
def setsProperty (st : Step) : Bool :=
  st.priority?.isSome || st.timeoutMs?.isSome || st.maxWait?.isSome || st.defaultPageSize?.isSome

attribute [simp] dialect? priority? timeoutMs? maxWait? defaultPageSize? nonzero setsProperty

end Step

/-- Parameters for a query, shaped by builder steps in order. -/
def build (query : String) (steps : List Step) : Except QueryError QueryParams :=
  (make query).map fun p => steps.foldl Step.apply p

/-- The value the steps gave last through `pick`. -/
def lastGiven {α : Type} (pick : Step → Option α) (steps : List Step) : Option α :=
  (steps.filterMap pick).getLast?

/-- The properties the steps set, each to the last value given for it. -/
def givenProperties (steps : List Step) : QueryProperties where
  priority := lastGiven Step.priority? steps
  timeoutMs := lastGiven Step.timeoutMs? steps
  maxWait := lastGiven Step.maxWait? steps
  defaultPageSize := lastGiven Step.defaultPageSize? steps

/-- The parameters steps describe: the query, the last dialect given, and the properties set,
absent when no step set one. -/
def given (query : String) (steps : List Step) : QueryParams where
  query
  dialect := lastGiven Step.dialect? steps
  properties := if steps.any Step.setsProperty then some (givenProperties steps) else none

section Given

variable {α : Type} (pick : Step → Option α) (q : String) (steps : List Step)

@[simp] theorem lastGiven_nil : lastGiven pick [] = none := rfl

/-- The last step given wins, when it gives a value. -/
theorem lastGiven_append_singleton (st : Step) :
    lastGiven pick (steps ++ [st]) = (pick st).or (lastGiven pick steps) := by
  unfold lastGiven
  cases h : pick st <;> simp [List.filterMap_append, h]

theorem lastGiven_eq_none : lastGiven pick steps = none ↔ ∀ st ∈ steps, pick st = none := by
  simp [lastGiven]

/-- A value last given was given by one of the steps. -/
theorem exists_of_lastGiven {x : α} (h : lastGiven pick steps = some x) :
    ∃ st ∈ steps, pick st = some x := by
  have hmem : x ∈ steps.filterMap pick := List.mem_of_getLast? h
  exact List.mem_filterMap.mp hmem

/-- The properties set are all unset exactly when no step sets a property. -/
theorem givenProperties_isEmpty :
    (givenProperties steps).isEmpty = !(steps.any Step.setsProperty) := by
  have hiff : (givenProperties steps).isEmpty = true ↔ ∀ st ∈ steps, st.setsProperty = false := by
    simp only [QueryProperties.isEmpty, givenProperties, Bool.and_eq_true, Option.isNone_iff_eq_none,
      lastGiven_eq_none, Step.setsProperty, Bool.or_eq_false_iff, Option.isSome_eq_false_iff]
    constructor
    · rintro ⟨⟨⟨h1, h2⟩, h3⟩, h4⟩ st hst
      exact ⟨⟨⟨h1 st hst, h2 st hst⟩, h3 st hst⟩, h4 st hst⟩
    · intro h
      exact ⟨⟨⟨fun st hst => (h st hst).1.1.1, fun st hst => (h st hst).1.1.2⟩,
        fun st hst => (h st hst).1.2⟩, fun st hst => (h st hst).2⟩
  rw [Bool.eq_iff_iff, hiff]
  simp

theorem given_noProperties : (given q steps).noProperties = !(steps.any Step.setsProperty) := by
  unfold given noProperties
  by_cases h : steps.any Step.setsProperty = true <;> simp [h, givenProperties_isEmpty]

/-- The properties of the parameters steps describe are the ones they set. -/
theorem given_props : (given q steps).props = givenProperties steps := by
  unfold props given
  split
  · rfl
  · rename_i h
    have hempty := givenProperties_isEmpty steps
    simp only [h, Bool.not_false] at hempty
    exact (QueryProperties.eq_empty_of_isEmpty hempty).symm

/-- Applying a step to the parameters the steps before it describe gives the parameters all
of them describe. -/
theorem given_apply (st : Step) : Step.apply (given q steps) st = given q (steps ++ [st]) := by
  have hprops := given_props q steps
  -- a numeric step of zero changes nothing on either side; any other step sets its own field
  cases st with
  | dialect d => simp [Step.apply, withDialect, given, lastGiven_append_singleton, givenProperties]
  | priority pr =>
    simp only [Step.apply, withPriority, hprops]
    simp [given, lastGiven_append_singleton, givenProperties]
  | timeoutMs ms =>
    by_cases h : ms.toNat = 0
    · simp [Step.apply, withTimeoutMs, h, given, lastGiven_append_singleton, givenProperties]
    · simp only [Step.apply, withTimeoutMs, hprops, if_pos (Nat.pos_of_ne_zero h)]
      simp [h, given, lastGiven_append_singleton, givenProperties]
  | maxWait wait =>
    by_cases h : wait.toNat = 0
    · simp [Step.apply, withMaxWait, h, given, lastGiven_append_singleton, givenProperties]
    · simp only [Step.apply, withMaxWait, hprops, if_pos (Nat.pos_of_ne_zero h)]
      simp [h, given, lastGiven_append_singleton, givenProperties]
  | defaultPageSize size =>
    by_cases h : size.toNat = 0
    · simp [Step.apply, withDefaultPageSize, h, given, lastGiven_append_singleton,
        givenProperties]
    · simp only [Step.apply, withDefaultPageSize, hprops, if_pos (Nat.pos_of_ne_zero h)]
      simp [h, given, lastGiven_append_singleton, givenProperties]

/-- Running the builders one after another gives the parameters the steps describe. -/
theorem foldl_apply : steps.foldl Step.apply { query := q } = given q steps := by
  induction steps using List.reverseRecOn with
  | nil => simp [given]
  | append_singleton steps st ih => rw [List.foldl_append, ih, List.foldl_cons, List.foldl_nil,
      given_apply]

theorem build_eq : build q steps =
    if Text.isBlank q then .error (.validation "mandatory property 'query' can't be empty")
    else .ok (given q steps) := by
  unfold build make
  split
  · rfl
  · simp [Except.map, foldl_apply]

/-! ## The wire form of what the steps describe -/

theorem nonzero_lt {n : UInt32} {x : Nat} (h : Step.nonzero n = some x) : x < Nat.pow 2 32 := by
  unfold Step.nonzero at h
  split at h
  · cases h
  · cases h
    exact UInt32.toNat_lt n

/-- What the steps describe has 32-bit numbers, and properties only when one is set. -/
theorem given_fits : (given q steps).Fits := by
  intro props hprops
  simp only [given] at hprops
  split at hprops
  · rename_i hany
    cases hprops
    refine ⟨by simp [givenProperties_isEmpty, hany], ⟨?_, ?_, ?_⟩⟩
    -- each number was given by a step of its own builder, as a 32-bit number
    · intro n hn
      obtain ⟨st, -, hst⟩ := exists_of_lastGiven _ _ hn
      cases st <;> simp only [Step.timeoutMs?, reduceCtorEq] at hst
      exact nonzero_lt hst
    · intro n hn
      obtain ⟨st, -, hst⟩ := exists_of_lastGiven _ _ hn
      cases st <;> simp only [Step.maxWait?, reduceCtorEq] at hst
      exact nonzero_lt hst
    · intro n hn
      obtain ⟨st, -, hst⟩ := exists_of_lastGiven _ _ hn
      cases st <;> simp only [Step.defaultPageSize?, reduceCtorEq] at hst
      exact nonzero_lt hst
  · cases hprops

/-- The properties member is there exactly when a step set a property, and holds the
properties set. -/
theorem given_wire_properties : (given q steps).wire.get? "properties" =
    if steps.any Step.setsProperty then some (givenProperties steps).wire else none := by
  rw [wire_get?, given_noProperties, given_props]
  simp only [String.reduceEq, ↓reduceIte]
  cases steps.any Step.setsProperty <;> rfl

/-- The wire object binds `query`, the dialect when one was given, and the properties when
one was set. -/
theorem given_wire_keys (k : String) : ((given q steps).wire.get? k).isSome ↔
    k = "query" ∨ (k = "dialect" ∧ (lastGiven Step.dialect? steps).isSome) ∨
      (k = "properties" ∧ steps.any Step.setsProperty) := by
  rw [wire_get?, given_noProperties]
  by_cases h1 : k = "query"
  · simp [h1]
  by_cases h2 : k = "dialect"
  · simp [h2, given]
  by_cases h3 : k = "properties"
  · subst h3
    cases steps.any Step.setsProperty <;> simp
  · simp [h1, h2, h3]

/-- The properties object binds exactly the properties set. -/
theorem givenProperties_wire_keys (k : String) : ((givenProperties steps).wire.get? k).isSome ↔
    (k = "priority" ∧ (lastGiven Step.priority? steps).isSome) ∨
    (k = "timeoutMs" ∧ (lastGiven Step.timeoutMs? steps).isSome) ∨
    (k = "maxWait" ∧ (lastGiven Step.maxWait? steps).isSome) ∨
    (k = "defaultPageSize" ∧ (lastGiven Step.defaultPageSize? steps).isSome) := by
  rw [QueryProperties.wire_get?]
  by_cases h1 : k = "priority"
  · simp [h1, givenProperties]
  by_cases h2 : k = "timeoutMs"
  · simp [h2, givenProperties]
  by_cases h3 : k = "maxWait"
  · simp [h3, givenProperties]
  by_cases h4 : k = "defaultPageSize"
  · simp [h4, givenProperties]
  · simp [h1, h2, h3, h4]

end Given

/-- Job parameters from builder steps, and their wire form. A query that is blank once
trimmed is refused; otherwise the steps make the parameters `given` describes: the last
dialect and priority given, each numeric property the last value other than zero given for it,
and no properties unless a step set one. Their wire object binds `query`, `dialect` only when
one was given and `properties` only when a property was set, the properties object binding
just the properties set; and reading the wire object back gives the same parameters. -/
theorem build_wire (q : String) (steps : List Step) :
    build q steps =
      (if Text.isBlank q then .error (.validation "mandatory property 'query' can't be empty")
       else .ok (given q steps)) ∧
    (∀ k, ((given q steps).wire.get? k).isSome ↔
      k = "query" ∨ (k = "dialect" ∧ (lastGiven Step.dialect? steps).isSome) ∨
        (k = "properties" ∧ steps.any Step.setsProperty)) ∧
    (given q steps).wire.get? "properties" =
      (if steps.any Step.setsProperty then some (givenProperties steps).wire else none) ∧
    (∀ k, ((givenProperties steps).wire.get? k).isSome ↔
      (k = "priority" ∧ (lastGiven Step.priority? steps).isSome) ∨
      (k = "timeoutMs" ∧ (lastGiven Step.timeoutMs? steps).isSome) ∨
      (k = "maxWait" ∧ (lastGiven Step.maxWait? steps).isSome) ∨
      (k = "defaultPageSize" ∧ (lastGiven Step.defaultPageSize? steps).isSome)) ∧
    decoder (given q steps).wire = .ok (given q steps) :=
  ⟨build_eq q steps, given_wire_keys q steps, given_wire_properties q steps,
    givenProperties_wire_keys steps, decoder_wire (given_fits q steps)⟩

/-- Zero numeric properties leave nothing set. -/
example : build "SELECT 1" [.timeoutMs 0, .maxWait 0] = .ok { query := "SELECT 1" } := by rfl

/-- Properties come out under their camel-case names. -/
example : ((given "SELECT * FROM firewall.traffic"
      [.dialect "Csql", .priority .foreground, .timeoutMs 5000, .defaultPageSize 400]).wire ==
    Value.object [("query", .str "SELECT * FROM firewall.traffic"), ("dialect", .str "Csql"),
      ("properties", Value.object [("priority", .str "foreground"),
        ("timeoutMs", Value.nat 5000), ("defaultPageSize", Value.nat 400)])]) = true := by
  decide

end QueryParams

end JobQuery
