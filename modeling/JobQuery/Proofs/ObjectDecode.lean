import JobQuery.Proofs.Run
import JobQuery.Api.Wire

/-!
# JobQuery — reading canonical objects back

The client writes JSON objects through `Value.object`, which inserts the members one by one in
increasing key order, and reads them through a structure's `Shape`, which first looks for a
member that no field accepts or whose value fails its field's check, and then hands each field
the member of its name.

For a structure whose fields have no other names (`Shape.Plain`) this module shows that the
first step finds nothing in a canonical object whose members pass their checks, so reading such
an object is reading its members by name (`Shape.decode_object`, `Shape.memberSlot_plain`). A
decoder is then read back one field at a time, each field by the lemma of its own decoder.
-/

namespace JobQuery

open Json

/-! ## Reading objects back -/

namespace Json.Value

/-- Inserting a binding makes it the first of its key and leaves every other key's first
binding where it was. -/
theorem find?_insertField (k k' : String) (v : Value) (acc : List (String × Value)) :
    (insertField k v acc).find? (fun kv => kv.1 == k') =
      if k == k' then some (k, v) else acc.find? (fun kv => kv.1 == k') := by
  induction acc with
  | nil => by_cases h : k == k' <;> simp [insertField, h]
  | cons kv rest ih =>
    obtain ⟨k₂, v₂⟩ := kv
    unfold insertField
    by_cases hlt : k < k₂
    · by_cases h : k == k' <;> simp [hlt, h]
    by_cases heq : k == k₂
    · have hk : k₂ = k := (beq_iff_eq.mp heq).symm
      subst hk
      by_cases h : k₂ == k' <;> simp [h]
    · by_cases h₂ : k₂ == k'
      · have hne : (k == k') = false := by
          rw [← beq_iff_eq.mp h₂]
          simpa using heq
        simp [hlt, heq, h₂, hne]
      · simp [hlt, heq, h₂, ih]

/-- A field of an object built from bindings is the last binding of its key. -/
theorem get?_object (fields : List (String × Value)) (k : String) :
    (Value.object fields).get? k = (fields.reverse.find? fun kv => kv.1 == k).map Prod.snd := by
  -- the fold keeps, for every key, the last binding seen so far in front of the older ones
  have hfold : ∀ (acc : List (String × Value)),
      (fields.foldl (fun acc kv => insertField kv.1 kv.2 acc) acc).find? (fun kv => kv.1 == k) =
        (fields.reverse.find? fun kv => kv.1 == k).or (acc.find? fun kv => kv.1 == k) := by
    induction fields with
    | nil => intro acc; simp
    | cons kv rest ih =>
      intro acc
      rw [List.foldl_cons, ih, find?_insertField, List.reverse_cons, List.find?_append]
      by_cases h : kv.1 == k <;> simp [h]
  simp only [object, get?, hfold, List.find?_nil, Option.or_none]

end Json.Value

/-! ## Reading canonical objects -/

namespace Json.Value

theorem mem_insertField {k : String} {v : Value} {acc : List (String × Value)}
    {kv : String × Value} (h : kv ∈ insertField k v acc) : kv = (k, v) ∨ kv ∈ acc := by
  induction acc with
  | nil => simpa [insertField] using h
  | cons e rest ih =>
    obtain ⟨k₂, v₂⟩ := e
    unfold insertField at h
    split at h
    · simpa using h
    split at h
    · simp only [List.mem_cons] at h
      rcases h with h | h
      · exact .inl h
      · exact .inr (List.mem_cons_of_mem _ h)
    · simp only [List.mem_cons] at h
      rcases h with h | h
      · exact .inr (h ▸ List.mem_cons_self)
      · rcases ih h with h | h
        · exact .inl h
        · exact .inr (List.mem_cons_of_mem _ h)

/-- Inserting a binding keeps the keys strictly increasing. -/
theorem insertField_sorted {k : String} {v : Value} {acc : List (String × Value)}
    (h : acc.Pairwise (fun a b => a.1 < b.1)) :
    (insertField k v acc).Pairwise (fun a b => a.1 < b.1) := by
  induction acc with
  | nil => simp [insertField]
  | cons e rest ih =>
    obtain ⟨k₂, v₂⟩ := e
    obtain ⟨hlt₂, hrest⟩ := List.pairwise_cons.mp h
    unfold insertField
    by_cases hlt : k < k₂
    · rw [if_pos hlt]
      refine List.Pairwise.cons (fun x hx => ?_) h
      rcases List.mem_cons.mp hx with rfl | hx
      · exact hlt
      · exact lt_trans hlt (hlt₂ x hx)
    rw [if_neg hlt]
    by_cases heq : k == k₂
    · rw [if_pos heq]
      obtain rfl := beq_iff_eq.mp heq
      exact List.Pairwise.cons hlt₂ hrest
    · rw [if_neg heq]
      -- neither below nor equal: the new key lands after `k₂`
      have hgt : k₂ < k := by
        rcases lt_trichotomy k k₂ with h | h | h
        · exact absurd h hlt
        · exact absurd (beq_iff_eq.mpr h) heq
        · exact h
      refine List.Pairwise.cons (fun x hx => ?_) (ih hrest)
      rcases mem_insertField hx with rfl | hx
      · exact hgt
      · exact hlt₂ x hx

/-- The members of a canonical object: bindings of the list it was built from, with strictly
increasing keys. -/
theorem object_members (fields : List (String × Value)) :
    (∀ kv ∈ fields.foldl (fun acc kv => insertField kv.1 kv.2 acc) [], kv ∈ fields) ∧
      (fields.foldl (fun acc kv => insertField kv.1 kv.2 acc) []).Pairwise
        (fun a b => a.1 < b.1) := by
  -- the fold keeps both facts, for the bindings seen so far
  suffices h : ∀ (acc : List (String × Value)), acc.Pairwise (fun a b => a.1 < b.1) →
      (∀ kv ∈ fields.foldl (fun acc kv => insertField kv.1 kv.2 acc) acc, kv ∈ acc ∨ kv ∈ fields) ∧
        (fields.foldl (fun acc kv => insertField kv.1 kv.2 acc) acc).Pairwise
          (fun a b => a.1 < b.1) by
    obtain ⟨hmem, hsorted⟩ := h [] List.Pairwise.nil
    exact ⟨fun kv hkv => (hmem kv hkv).resolve_left (by simp), hsorted⟩
  induction fields with
  | nil => intro acc h; exact ⟨fun kv hkv => .inl hkv, h⟩
  | cons f rest ih =>
    intro acc h
    obtain ⟨hmem, hsorted⟩ := ih _ (insertField_sorted h)
    refine ⟨fun kv hkv => ?_, hsorted⟩
    rcases hmem kv hkv with hkv | hkv
    · rcases mem_insertField hkv with rfl | hkv
      · exact .inr List.mem_cons_self
      · exact .inl hkv
    · exact .inr (List.mem_cons_of_mem _ hkv)

end Json.Value

namespace Json

/-- A structure none of whose fields has another name. -/
def Shape.Plain (shape : Shape) : Prop := ∀ f ∈ shape.fields, f.aliases = []

theorem Field.accepts_plain {f : Field} (h : f.aliases = []) (k : String) :
    f.accepts k = (f.name == k) := by
  simp [Field.accepts, h]

/-- No member of an object with distinct keys, not seen before, each passing the check of the
field of its name, is a bad one. -/
theorem Shape.firstError_eq_none {shape : Shape} (hplain : shape.Plain) :
    ∀ (members : List (String × Value)) (seen : List String),
      (members.map Prod.fst).Nodup → (∀ kv ∈ members, kv.1 ∉ seen) →
      (∀ kv ∈ members, ∀ f ∈ shape.fields, f.name = kv.1 → f.check kv.2 = none) →
      shape.firstError members seen = none := by
  intro members
  induction members with
  | nil => intro seen _ _ _; rfl
  | cons kv rest ih =>
    intro seen hnodup hseen hcheck
    obtain ⟨k, v⟩ := kv
    simp only [List.map_cons, List.nodup_cons] at hnodup
    unfold firstError
    split
    · exact ih seen hnodup.2 (fun x hx => hseen x (List.mem_cons_of_mem _ hx))
        (fun x hx => hcheck x (List.mem_cons_of_mem _ hx))
    · rename_i f hf
      have hfmem := List.mem_of_find?_eq_some hf
      have hname : f.name = k := by
        have := List.find?_some hf
        rw [Field.accepts_plain (hplain f hfmem)] at this
        exact beq_iff_eq.mp this
      have hnew : f.name ∉ seen := hname ▸ hseen (k, v) List.mem_cons_self
      rw [if_neg (by simpa using hnew), hcheck (k, v) List.mem_cons_self f hfmem hname]
      refine ih _ hnodup.2 (fun x hx hin => ?_) (fun x hx => hcheck x (List.mem_cons_of_mem _ hx))
      rcases List.mem_cons.mp hin with h | h
      · exact hnodup.1 (by rw [← hname, ← h]; exact List.mem_map_of_mem hx)
      · exact hseen x (List.mem_cons_of_mem _ hx) h

/-- The slot of a member that may be missing. -/
def Slot.ofMember (name : String) : Option Value → Slot
  | some v => .given v
  | none => .absent name

/-- The slot of a field of a plain structure in an object: the member of its name. -/
theorem Shape.memberSlot_plain {shape : Shape} (hplain : shape.Plain)
    (members : List (String × Value)) {name : String}
    (hfield : (shape.fields.find? (fun f => f.name == name)).isSome) :
    shape.memberSlot members name = Slot.ofMember name ((Value.obj members).get? name) := by
  obtain ⟨f, hf⟩ := Option.isSome_iff_exists.mp hfield
  have hname : f.name = name := by
    have := List.find?_some hf
    exact beq_iff_eq.mp this
  have hacc : (fun kv : String × Value => f.accepts kv.1) = fun kv => kv.1 == name := by
    funext kv
    rw [Field.accepts_plain (hplain f (List.mem_of_find?_eq_some hf)), hname, Bool.beq_comm]
  simp only [memberSlot, hf, hacc, Value.get?]
  cases members.find? (fun kv => kv.1 == name) <;> rfl

/-- An optional field whose member, if any, decodes to the value it was written from. -/
theorem Slot.optional_ofMember {α : Type} {d : Decoder α} {name : String} {o : Option α}
    {f : α → Value} (hd : ∀ x ∈ o, Decoder.option d (f x) = .ok (some x)) :
    (Slot.ofMember name (o.map f)).optional d = .ok o := by
  cases o with
  | none => rfl
  | some x => exact hd x rfl

theorem Field.check_of_ok {α : Type} {name : String} {d : Decoder α} {v : Value} {a : α}
    (aliases : List String) (h : d v = .ok a) : (Field.of name d aliases).check v = none := by
  simp [Field.of, h]

/-- A plain structure reads a canonical object whose members pass their checks from the
object's members. -/
theorem Shape.decode_object {α : Type} {shape : Shape} (hplain : shape.Plain)
    (build : (String → Slot) → Except DecodeError α) {fields members : List (String × Value)}
    (hm : Value.object fields = .obj members)
    (hcheck : ∀ kv ∈ fields, ∀ f ∈ shape.fields, f.name = kv.1 → f.check kv.2 = none) :
    shape.decode build (.obj members) = build (shape.memberSlot members) := by
  obtain ⟨hmem, hsorted⟩ := Value.object_members fields
  simp only [Value.object, Value.obj.injEq] at hm
  subst hm
  have hnodup : ((fields.foldl (fun acc kv => Value.insertField kv.1 kv.2 acc) []).map
      Prod.fst).Nodup :=
    List.Pairwise.map Prod.fst (fun _ _ h => ne_of_lt h) hsorted
  have hnone := firstError_eq_none hplain _ [] hnodup (fun _ _ h => by simp at h)
    (fun kv hkv => hcheck kv (hmem kv hkv))
  simp only [decode, hnone]

end Json

/-! ## Optional members -/

namespace Json.Value

variable {α : Type}

/-- The bindings of an optional member: one when the value is there, none otherwise. -/
theorem mem_optional {k : String} {o : Option α} {f : α → Value} {kv : String × Value} :
    kv ∈ (o.map fun x => [(k, f x)]).getD [] ↔ ∃ a ∈ o, kv = (k, f a) := by
  cases o <;> simp

theorem reverse_optional (k : String) (o : Option α) (f : α → Value) :
    ((o.map fun x => [(k, f x)]).getD []).reverse = (o.map fun x => [(k, f x)]).getD [] := by
  cases o <;> rfl

theorem find?_optional (k k' : String) (o : Option α) (f : α → Value) :
    ((o.map fun x => [(k, f x)]).getD []).find? (fun kv => kv.1 == k') =
      if k = k' then o.map fun x => (k, f x) else none := by
  cases o <;> by_cases h : k = k' <;> simp [h]

end Json.Value

end JobQuery
