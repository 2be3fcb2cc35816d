import SatelliteWindows.Datum

/-!
# Reading what was written

The fields of a written record are read back as they were written, and so is the tag of an
alternative. And what is read as a payload is proper: each object in it names each of its fields
once.

JSON is less than what a notation can say: keys are texts and numbers are finite.
-/

namespace SatelliteWindows

/-- A computation of two steps gives a value if the first gives one and the second makes the value
of it. -/
theorem bind_eq_ok {ε α β : Type} {x : Except ε α} {f : α → Except ε β} {b : β} :
    (x >>= f) = .ok b ↔ ∃ a, x = .ok a ∧ f a = .ok b := by
  cases x with
  | ok a =>
    constructor
    · exact fun h => ⟨a, rfl, h⟩
    · rintro ⟨_, h, hf⟩
      cases h
      exact hf
  | error e =>
    constructor
    · intro h
      cases h
    · rintro ⟨_, h, _⟩
      cases h

/-! ## Payloads that are read -/

namespace Payload

/-- A field that is kept was there. -/
theorem mem_keepLast {f : String × Payload} {fields : List (String × Payload)}
    (h : f ∈ keepLast fields) : f ∈ fields := by
  induction fields with
  | nil => exact h
  | cons g rest ih =>
    obtain ⟨n, v⟩ := g
    unfold keepLast at h
    split at h
    · exact List.mem_cons_of_mem _ (ih h)
    · exact (List.mem_cons.mp h).elim (fun e => e ▸ List.mem_cons_self)
        fun h => List.mem_cons_of_mem _ (ih h)

/-- The fields that count have distinct names. -/
theorem nodup_keepLast (fields : List (String × Payload)) :
    ((keepLast fields).map Prod.fst).Nodup := by
  induction fields with
  | nil => exact List.nodup_nil
  | cons g rest ih =>
    obtain ⟨n, v⟩ := g
    unfold keepLast
    split
    · exact ih
    · next hn =>
      refine List.nodup_cons.mpr ⟨fun hmem => hn ?_, ih⟩
      obtain ⟨f, hf, hname⟩ := List.mem_map.mp hmem
      exact List.mem_map.mpr ⟨f, mem_keepLast hf, hname⟩

/-- Fields are those of a document if each of their values is. -/
theorem properFields_iff {fields : List (String × Payload)} :
    ProperFields fields ↔ ∀ f ∈ fields, f.2.Proper := by
  induction fields with
  | nil => simp [ProperFields]
  | cons g rest ih =>
    obtain ⟨n, v⟩ := g
    simp [ProperFields, ih]

/-- An object whose fields have proper values is proper, whichever of them count. -/
theorem proper_object {fields : List (String × Payload)} (h : ProperFields fields) :
    (object fields).Proper :=
  ⟨nodup_keepLast fields, properFields_iff.mpr fun f hf =>
    properFields_iff.mp h f (mem_keepLast hf)⟩

end Payload

namespace Datum

mutual
/-- What is read as a payload is proper. -/
theorem proper_of_payload : (d : Datum) → {p : Payload} → payload d = .ok p → p.Proper
  | .null, _, h | .bool _, _, h | .int _, _, h | .text _, _, h | .real false, _, h => by
    cases h
    trivial
  | .real true, _, h => by cases h
  | .list items, _, h => by
    unfold payload at h
    obtain ⟨ps, hps, heq⟩ := bind_eq_ok.mp h
    cases heq
    exact proper_of_payloadList items hps
  | .record fields, _, h => by
    unfold payload at h
    obtain ⟨ps, hps, heq⟩ := bind_eq_ok.mp h
    cases heq
    exact Payload.proper_object (proper_of_payloadFields fields hps)

/-- A list that could be read has the items of a document. -/
theorem proper_of_payloadList : (l : List Datum) → {ps : List Payload} →
    payloadList l = .ok ps → Payload.ProperList ps
  | [], _, h => by
    cases h
    trivial
  | d :: rest, _, h => by
    unfold payloadList at h
    obtain ⟨p, hp, h⟩ := bind_eq_ok.mp h
    obtain ⟨ps, hps, heq⟩ := bind_eq_ok.mp h
    cases heq
    exact ⟨proper_of_payload d hp, proper_of_payloadList rest hps⟩

/-- Fields that could be read are those of a document. -/
theorem proper_of_payloadFields : (l : List (Datum × Datum)) → {ps : List (String × Payload)} →
    payloadFields l = .ok ps → Payload.ProperFields ps
  | [], _, h => by
    cases h
    trivial
  | (.text n, d) :: rest, _, h => by
    unfold payloadFields at h
    obtain ⟨p, hp, h⟩ := bind_eq_ok.mp h
    obtain ⟨ps, hps, heq⟩ := bind_eq_ok.mp h
    cases heq
    exact ⟨proper_of_payload d hp, proper_of_payloadFields rest hps⟩
  | (.null, _) :: _, _, h | (.bool _, _) :: _, _, h | (.int _, _) :: _, _, h
  | (.real _, _) :: _, _, h | (.list _, _) :: _, _, h | (.record _, _) :: _, _, h => by
    cases h
end

/-! ## JSON -/

mutual
/-- Keys are texts, and numbers are finite. -/
def IsJson : Datum → Prop
  | .real isFinite => isFinite = true
  | .list items => IsJsonList items
  | .record fields => IsJsonFields fields
  | _ => True

/-- Every item of the list is JSON. -/
def IsJsonList : List Datum → Prop
  | [] => True
  | d :: rest => IsJson d ∧ IsJsonList rest

/-- Every key of the fields is a text, and every value is JSON. -/
def IsJsonFields : List (Datum × Datum) → Prop
  | [] => True
  | (key, d) :: rest => (∃ name, key = .text name) ∧ IsJson d ∧ IsJsonFields rest
end

/-- A list can be written in JSON if each of its items can. -/
theorem isJsonList_iff {items : List Datum} : IsJsonList items ↔ ∀ d ∈ items, d.IsJson := by
  induction items with
  | nil => simp [IsJsonList]
  | cons d rest ih => simp [IsJsonList, ih]

/-- So can fields, if they have names and each of their values can. -/
theorem isJsonFields_iff {fields : List (Datum × Datum)} :
    IsJsonFields fields ↔ ∀ f ∈ fields, (∃ name, f.1 = .text name) ∧ f.2.IsJson := by
  induction fields with
  | nil => simp [IsJsonFields]
  | cons f rest ih =>
    obtain ⟨key, d⟩ := f
    simp [IsJsonFields, ih, and_assoc]

/-- Of JSON nothing but null is read as a payload that is null. -/
theorem eq_null_of_payload {d : Datum} (hd : d.IsJson) (h : payload d = .ok .null) : d = .null := by
  cases d with
  | null => rfl
  | real isFinite =>
    have hfinite : isFinite = true := hd
    subst hfinite
    cases h
  | list items =>
    unfold payload at h
    obtain ⟨_, _, heq⟩ := bind_eq_ok.mp h
    cases heq
  | record fields =>
    unfold payload at h
    obtain ⟨_, _, heq⟩ := bind_eq_ok.mp h
    cases heq
  | bool | int | text => cases h

/-! ## Fields -/

variable {names : List String}

/-- The fields of a structure come with JSON, if it is JSON. -/
theorem isJson_of_knownFields {entries : List (Datum × Datum)} {fields : List (String × Datum)}
    (h : knownFields names entries = .ok fields) (hjson : IsJsonFields entries) :
    ∀ f ∈ fields, f.2.IsJson := by
  induction entries generalizing fields with
  | nil =>
    cases h
    simp
  | cons e rest ih =>
    obtain ⟨key, d⟩ := e
    unfold knownFields at h
    obtain ⟨field, -, h⟩ := bind_eq_ok.mp h
    obtain ⟨more, hmore, h⟩ := bind_eq_ok.mp h
    have hrest := ih hmore hjson.2.2
    cases field with
    | none =>
      cases h
      exact hrest
    | some n =>
      dsimp only at h
      split at h
      · cases h
      · cases h
        exact fun f hf => (List.mem_cons.mp hf).elim (fun e => e ▸ hjson.2.1) (hrest f)

/-- The fields of a value that can be written in JSON can be written, too. -/
theorem isJson_of_fields {d : Datum} {fields : List (String × Datum)}
    (h : d.fields names = .ok fields) (hjson : d.IsJson) : ∀ f ∈ fields, f.2.IsJson := by
  cases d with
  | record entries => exact isJson_of_knownFields h hjson
  | list ds =>
    unfold Datum.fields at h
    dsimp only at h
    split at h
    · cases h
      exact fun f hf => isJsonList_iff.mp hjson f.2 (List.of_mem_zip hf).2
    · cases h
  | _ => cases h

/-- The fields of an alternative are JSON, if it is JSON. -/
theorem isJson_of_tagged {tag name : String} {d body : Datum} (h : d.tagged tag = .ok (name, body))
    (hjson : d.IsJson) : body.IsJson := by
  cases d with
  | record entries =>
    unfold tagged at h
    dsimp only at h
    split at h
    · cases h
    · obtain ⟨_, _, heq⟩ := bind_eq_ok.mp h
      cases heq
      exact isJsonFields_iff.mpr fun f hf =>
        isJsonFields_iff.mp hjson f (List.mem_filter.mp hf).1
    · cases h
  | list items =>
    cases items with
    | nil => cases h
    | cons d rest =>
      unfold tagged at h
      obtain ⟨_, _, heq⟩ := bind_eq_ok.mp h
      cases heq
      exact hjson.2
  | _ => cases h

/-- Fields that are written once each are read back, if all of them are declared. -/
theorem knownFields_toDatumFields {fields : List (String × Payload)}
    (hdeclared : ∀ f ∈ fields, f.1 ∈ names) (hnodup : (fields.map Prod.fst).Nodup) :
    knownFields names (Payload.toDatumFields fields) =
      .ok (fields.map fun f => (f.1, f.2.toDatum)) := by
  induction fields with
  | nil => rfl
  | cons f rest ih =>
    obtain ⟨n, p⟩ := f
    obtain ⟨hn, hrest⟩ := List.nodup_cons.mp hnodup
    have hfield : fieldOf names (.text n) = .ok (some n) := by
      show Except.ok (if n ∈ names then some n else none) = _
      rw [if_pos (hdeclared (n, p) List.mem_cons_self)]
    have hfresh : n ∉ (rest.map fun f => (f.1, f.2.toDatum)).map Prod.fst := by
      rw [List.map_map]
      exact hn
    unfold Payload.toDatumFields knownFields
    rw [hfield, ih (fun f hf => hdeclared f (List.mem_cons_of_mem _ hf)) hrest]
    show (if n ∈ _ then _ else _) = _
    rw [if_neg hfresh]
    rfl

/-- A record that was written has the fields that were declared, with their values. -/
theorem fields_toDatum {fields : List (String × Payload)}
    (hdeclared : ∀ f ∈ fields, f.1 ∈ names) (hnodup : (fields.map Prod.fst).Nodup) :
    (Payload.record fields).toDatum.fields names = .ok (fields.map fun f => (f.1, f.2.toDatum)) :=
  knownFields_toDatumFields hdeclared hnodup

/-- A payload that may be null is read back, but for null. -/
theorem nullable_toDatum {p : Payload} (h : p.Proper) :
    nullable payload p.toDatum = .ok (if p = .null then none else some p) := by
  have hpayload := payload_toDatum p h
  have hread : p ≠ .null → nullable payload p.toDatum = (do return some (← payload p.toDatum)) := by
    intro hne
    cases p <;> first | rfl | exact absurd rfl hne
  split
  · next hnull =>
    rw [hnull]
    rfl
  · next hne =>
    rw [hread hne, hpayload]
    rfl

/-- A tag that is written before the fields is read back. -/
theorem tagged_toDatum {tag : String} (name : String) {fields : List (String × Payload)}
    (h : tag ∉ fields.map Prod.fst) :
    (Payload.record ((tag, .text name) :: fields)).toDatum.tagged tag =
      .ok (name, (Payload.record fields).toDatum) := by
  have hkeys : ∀ e ∈ Payload.toDatumFields fields, isKey tag e.1 = false := by
    induction fields with
    | nil => simp [Payload.toDatumFields]
    | cons f rest ih =>
      obtain ⟨n, p⟩ := f
      simp only [List.map_cons, List.mem_cons, not_or] at h
      intro e he
      rcases List.mem_cons.mp he with rfl | he
      · exact beq_false_of_ne fun hn => h.1 hn.symm
      · exact ih h.2 e he
  have hself : isKey tag (.text tag) = true := beq_self_eq_true tag
  have htag : ((text tag, text name) :: Payload.toDatumFields fields).filter
      (fun e => isKey tag e.1) = [(text tag, text name)] := by
    rw [List.filter_cons, if_pos hself, List.filter_eq_nil_iff.mpr fun e he => by simp [hkeys e he]]
  have hbody : ((text tag, text name) :: Payload.toDatumFields fields).filter
      (fun e => !isKey tag e.1) = Payload.toDatumFields fields := by
    rw [List.filter_cons, if_neg (by simp [hself]),
      List.filter_eq_self.mpr fun e he => by simp [hkeys e he]]
  show (record ((text tag, text name) :: Payload.toDatumFields fields)).tagged tag = _
  unfold tagged
  dsimp only
  rw [htag, hbody]
  rfl

end Datum

/-! ## Values of fields -/

section Fields

variable {α : Type} {read : Datum → Except DecodeError α} {name : String}
variable {fields : List (String × Datum)}

/-- A value that is found under a name is that of a field. -/
theorem mem_of_lookup {d : Datum} (h : fields.lookup name = some d) : (name, d) ∈ fields := by
  obtain ⟨before, after, rfl, -⟩ := List.lookup_eq_some_iff.mp h
  exact List.mem_append_right before List.mem_cons_self

/-- A field that must be there is read from its datum. -/
theorem of_requiredField {x : α} (h : requiredField read name fields = .ok x) :
    ∃ d, (name, d) ∈ fields ∧ read d = .ok x := by
  unfold requiredField at h
  split at h
  · next d hd => exact ⟨d, mem_of_lookup hd, h⟩
  · cases h

/-- A field with a default is read from its datum, or has the default. -/
theorem of_fieldOr {default x : α} (h : fieldOr read name default fields = .ok x) :
    x = default ∨ ∃ d, (name, d) ∈ fields ∧ read d = .ok x := by
  unfold fieldOr at h
  split at h
  · next d hd => exact .inr ⟨d, mem_of_lookup hd, h⟩
  · cases h
    exact .inl rfl

/-- The value of a field that may be null is read from a datum that is not. -/
theorem of_optionalField {x : α} (h : optionalField read name fields = .ok (some x)) :
    ∃ d, (name, d) ∈ fields ∧ d ≠ .null ∧ read d = .ok x := by
  rcases of_fieldOr h with hnone | ⟨d, hd, hread⟩
  · cases hnone
  · unfold Datum.nullable at hread
    split at hread
    · cases hread
    · next hnull =>
      obtain ⟨_, hread, heq⟩ := bind_eq_ok.mp hread
      cases heq
      exact ⟨d, hd, hnull, hread⟩

/-- An alternative with one field is read back, if what is written in the field is. -/
theorem read_single {β : Type} (name : String) (make : α → β) {p : Payload} {x : α}
    (h : read p.toDatum = .ok x) :
    (do let fields ← (Payload.record [(name, p)]).toDatum.fields [name]
        return make (← requiredField read name fields)) = .ok (make x) := by
  have hlookup : requiredField read name [(name, p.toDatum)] = read p.toDatum := by
    simp [requiredField]
  rw [Datum.fields_toDatum (by simp) (by simp)]
  show (do return make (← requiredField read name [(name, p.toDatum)])) = _
  rw [hlookup, h]
  rfl

/-- So is one with one field that has a default. -/
theorem read_singleOr {β : Type} (name : String) (default : α) (make : α → β) {p : Payload} {x : α}
    (h : read p.toDatum = .ok x) :
    (do let fields ← (Payload.record [(name, p)]).toDatum.fields [name]
        return make (← fieldOr read name default fields)) = .ok (make x) := by
  have hlookup : fieldOr read name default [(name, p.toDatum)] = read p.toDatum := by
    simp [fieldOr]
  rw [Datum.fields_toDatum (by simp) (by simp)]
  show (do return make (← fieldOr read name default [(name, p.toDatum)])) = _
  rw [hlookup, h]
  rfl

end Fields

end SatelliteWindows
