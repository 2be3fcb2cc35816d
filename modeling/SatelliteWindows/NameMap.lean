/-!
# Tables keyed by name

A table holds at most one value per name and keeps names in the order in which they were first put
in. A name that is put in again keeps its place. `get?` is the view through which the operations
are described: `get?_put`, `get?_erase` and `get?_mapValues` say what each of them does to it.
-/

namespace SatelliteWindows

/-- A table with at most one value per name, in order of first insertion. -/
structure NameMap (α : Type) where
  /-- The names with their values. -/
  entries : List (String × α)
  /-- No name occurs twice. -/
  nodup : (entries.map Prod.fst).Nodup

namespace NameMap

variable {α β : Type}

/-- The table without names. -/
def empty : NameMap α := ⟨[], List.nodup_nil⟩

instance : Inhabited (NameMap α) := ⟨empty⟩

/-- Two tables with the same entries are the same table. -/
theorem ext {s t : NameMap α} (h : s.entries = t.entries) : s = t := by
  cases s; cases t; cases h; rfl

instance [DecidableEq α] : DecidableEq (NameMap α) := fun s t =>
  if h : s.entries = t.entries then isTrue (ext h) else isFalse (fun e => h (e ▸ rfl))

instance [Repr α] : Repr (NameMap α) := ⟨fun t p => reprPrec t.entries p⟩

/-- The names, in order of first insertion. -/
def names (t : NameMap α) : List String := t.entries.map Prod.fst

/-- The names, in the order of their code points. -/
def sortedNames (t : NameMap α) : List String := t.names.mergeSort (fun a b => decide (a ≤ b))

/-- How many names there are. -/
def size (t : NameMap α) : Nat := t.entries.length

/-- Whether there is no name. -/
def isEmpty (t : NameMap α) : Bool := t.entries.isEmpty

/-- The value of a name. -/
def get? (t : NameMap α) (name : String) : Option α := t.entries.lookup name

/-- Whether a name has a value. -/
def contains (t : NameMap α) (name : String) : Bool := (t.get? name).isSome

/-- Entries with the value of one name replaced in place, or put at the end. -/
def putEntry (name : String) (value : α) : List (String × α) → List (String × α)
  | [] => [(name, value)]
  | (n, v) :: rest => if n = name then (name, value) :: rest else (n, v) :: putEntry name value rest

/-- Putting a name in changes no name that is there already. -/
theorem map_fst_putEntry (name : String) (value : α) (l : List (String × α)) :
    (putEntry name value l).map Prod.fst =
      if name ∈ l.map Prod.fst then l.map Prod.fst else l.map Prod.fst ++ [name] := by
  induction l with
  | nil => simp [putEntry]
  | cons e rest ih =>
    obtain ⟨n, v⟩ := e
    by_cases h : n = name
    · subst h; simp [putEntry]
    · have h' : ¬ name = n := fun e => h e.symm
      simp only [putEntry, h, if_false, List.map_cons, ih, List.mem_cons, h', false_or]
      split <;> simp

/-- Give a name a value, replacing the one it had. -/
def put (t : NameMap α) (name : String) (value : α) : NameMap α where
  entries := putEntry name value t.entries
  nodup := by
    rw [map_fst_putEntry]
    split
    · exact t.nodup
    · next h =>
      rw [List.nodup_append]
      refine ⟨t.nodup, by simp, ?_⟩
      intro a ha b hb
      simp only [List.mem_singleton] at hb
      subst hb
      exact fun e => h (e ▸ ha)

/-- Forget a name. -/
def erase (t : NameMap α) (name : String) : NameMap α where
  entries := t.entries.filter (fun e => e.1 != name)
  nodup := t.nodup.sublist (List.Sublist.map _ List.filter_sublist)

/-- Change every value. -/
def mapValues (f : α → β) (t : NameMap α) : NameMap β where
  entries := t.entries.map (fun e => (e.1, f e.2))
  nodup := by simpa [List.map_map, Function.comp_def] using t.nodup

/-- No name has a value at first. -/
@[simp] theorem get?_empty (name : String) : (empty : NameMap α).get? name = none := rfl

/-- An entry that is put in is found under its name, and the others as before. -/
theorem lookup_putEntry (name other : String) (value : α) (l : List (String × α)) :
    (putEntry name value l).lookup other =
      if other = name then some value else l.lookup other := by
  induction l with
  | nil =>
    by_cases h : other = name
    · subst h; simp [putEntry]
    · have : (other == name) = false := by simp [h]
      simp [putEntry, List.lookup_cons, h, this]
  | cons e rest ih =>
    obtain ⟨n, v⟩ := e
    by_cases h : n = name
    · subst h
      by_cases ho : other = n
      · subst ho; simp [putEntry]
      · have : (other == n) = false := by simp [ho]
        simp [putEntry, List.lookup_cons, ho, this]
    · by_cases ho : other = n
      · subst ho; simp [putEntry, h]
      · have : (other == n) = false := by simp [ho]
        simp [putEntry, h, List.lookup_cons, this, ih]

/-- Putting a name in changes the value of that name and of no other. -/
theorem get?_put (t : NameMap α) (name other : String) (value : α) :
    (t.put name value).get? other = if other = name then some value else t.get? other :=
  lookup_putEntry name other value t.entries

/-- Erasing a name takes its value away and leaves every other name alone. -/
theorem get?_erase (t : NameMap α) (name other : String) :
    (t.erase name).get? other = if other = name then none else t.get? other := by
  simp only [get?, erase]
  induction t.entries with
  | nil => simp
  | cons e rest ih =>
    obtain ⟨n, v⟩ := e
    by_cases h : n = name
    · subst h
      simp only [bne_self_eq_false, Bool.false_eq_true, not_false_eq_true, List.filter_cons_of_neg,
        ih]
      by_cases ho : other = n
      · simp [ho]
      · have : (other == n) = false := by simp [ho]
        simp [List.lookup_cons, ho, this]
    · have hb : (n != name) = true := by simp [h]
      rw [List.filter_cons_of_pos (by simpa using hb)]
      by_cases ho : other = n
      · subst ho; simp [h]
      · have : (other == n) = false := by simp [ho]
        simp [List.lookup_cons, this, ih]

/-- A value that is found after a name was erased is that of another name, and was there before. -/
theorem of_get?_erase {t : NameMap α} {name other : String} {value : α}
    (h : (t.erase name).get? other = some value) : other ≠ name ∧ t.get? other = some value := by
  rw [get?_erase] at h
  split at h
  · cases h
  · next hne => exact ⟨hne, h⟩

/-- Changing every value changes the value of each name. -/
theorem get?_mapValues (f : α → β) (t : NameMap α) (name : String) :
    (t.mapValues f).get? name = (t.get? name).map f := by
  simp only [get?, mapValues]
  induction t.entries with
  | nil => rfl
  | cons e rest ih =>
    obtain ⟨n, v⟩ := e
    by_cases h : name = n
    · subst h; simp
    · have : (name == n) = false := by simp [h]
      simp [List.lookup_cons, this, ih]

/-- Values can be changed before or after one is put in. -/
theorem map_putEntry (f : α → β) (name : String) (value : α) (l : List (String × α)) :
    (putEntry name value l).map (fun e => (e.1, f e.2)) =
      putEntry name (f value) (l.map fun e => (e.1, f e.2)) := by
  induction l with
  | nil => rfl
  | cons e rest ih =>
    obtain ⟨n, v⟩ := e
    by_cases h : n = name
    · simp [putEntry, h]
    · simp [putEntry, h, ih]

/-- Changing every value after putting one in is putting the changed one in. -/
theorem mapValues_put (f : α → β) (t : NameMap α) (name : String) (value : α) :
    (t.put name value).mapValues f = (t.mapValues f).put name (f value) :=
  ext (map_putEntry f name value t.entries)

/-- Names are erased before or after their values are changed. -/
theorem mapValues_erase (f : α → β) (t : NameMap α) (name : String) :
    (t.erase name).mapValues f = (t.mapValues f).erase name := by
  refine ext ?_
  simp only [mapValues, erase, List.filter_map]
  rfl

/-- Values are changed one way after the other. -/
theorem mapValues_mapValues {γ : Type} (f : α → β) (g : β → γ) (t : NameMap α) :
    (t.mapValues f).mapValues g = t.mapValues (g ∘ f) := by
  refine ext ?_
  simp [mapValues]

/-- Nothing comes of changing every value into itself. -/
theorem mapValues_id (t : NameMap α) : t.mapValues id = t :=
  ext (List.map_id t.entries)

end NameMap

end SatelliteWindows
