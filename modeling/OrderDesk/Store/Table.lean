import OrderDesk.Uuid.Basic

/-!
# Tables

A table holds at most one value per identifier.  Values stand in the order in which their
identifiers were first inserted.  Each operation is described by what it does to `get?`:
`get?_insert`, `get?_modify` and `get?_erase`.
-/

namespace OrderDesk

/-- A value for each of some identifiers. -/
structure Table (α : Type) where
  entries : List (Uuid × α)

namespace Table

variable {α : Type}

/-- A table without values. -/
def empty : Table α := ⟨[]⟩

/-- The value in a list of entries. -/
def find? (id : Uuid) : List (Uuid × α) → Option α
  | [] => none
  | (k, a) :: rest => if k = id then some a else find? id rest

/-- The value for an identifier. -/
def get? (t : Table α) (id : Uuid) : Option α := find? id t.entries

/-- Is there a value for the identifier? -/
def contains (t : Table α) (id : Uuid) : Bool := (t.get? id).isSome

/-- Puts a value in the place of the old one, or at the end. -/
def insertEntry (id : Uuid) (a : α) : List (Uuid × α) → List (Uuid × α)
  | [] => [(id, a)]
  | (k, b) :: rest => if k = id then (k, a) :: rest else (k, b) :: insertEntry id a rest

/-- The table with a value for an identifier. -/
def insert (t : Table α) (id : Uuid) (a : α) : Table α := ⟨insertEntry id a t.entries⟩

/-- The table with the value for an identifier changed. -/
def modify (t : Table α) (id : Uuid) (f : α → α) : Table α :=
  ⟨t.entries.map fun (k, a) => if k = id then (k, f a) else (k, a)⟩

/-- The table without a value for an identifier. -/
def erase (t : Table α) (id : Uuid) : Table α := ⟨t.entries.filter fun e => e.1 ≠ id⟩

/-- The values. -/
def values (t : Table α) : List α := t.entries.map (·.2)

/-- The number of values. -/
def size (t : Table α) : Nat := t.entries.length

@[simp] theorem get?_empty (id : Uuid) : (empty : Table α).get? id = none := rfl

theorem find?_insertEntry (id other : Uuid) (a : α) (entries : List (Uuid × α)) :
    find? other (insertEntry id a entries) =
      if id = other then some a else find? other entries := by
  induction entries with
  | nil => simp [insertEntry, find?]
  | cons e rest ih =>
    obtain ⟨k, b⟩ := e
    by_cases hk : k = id
    · subst hk
      by_cases h : k = other <;> simp [insertEntry, find?, h]
    · rw [insertEntry, if_neg hk, find?, find?, ih]
      by_cases h : k = other
      · subst h
        have hne : ¬ id = k := fun h => hk h.symm
        simp [hne]
      · simp [h]

theorem get?_insert (t : Table α) (id other : Uuid) (a : α) :
    (t.insert id a).get? other = if id = other then some a else t.get? other :=
  find?_insertEntry id other a t.entries

theorem get?_insert_self (t : Table α) (id : Uuid) (a : α) : (t.insert id a).get? id = some a :=
  (get?_insert ..).trans (if_pos rfl)

theorem get?_modify (t : Table α) (id other : Uuid) (f : α → α) :
    (t.modify id f).get? other = if id = other then (t.get? id).map f else t.get? other := by
  obtain ⟨entries⟩ := t
  simp only [get?, modify]
  induction entries with
  | nil => simp [find?]
  | cons e rest ih =>
    obtain ⟨k, a⟩ := e
    by_cases hk : k = id
    · subst hk
      by_cases h : k = other
      · subst h; simp [find?]
      · simp only [List.map_cons, if_pos, find?, if_neg h] at ih ⊢
        exact ih
    · by_cases h : k = other
      · subst h
        have hne : ¬ id = k := fun h => hk h.symm
        simp [find?, hk, hne]
      · simp only [List.map_cons, if_neg hk, find?, if_neg h]
        exact ih

theorem get?_erase (t : Table α) (id other : Uuid) :
    (t.erase id).get? other = if id = other then none else t.get? other := by
  obtain ⟨entries⟩ := t
  simp only [get?, erase]
  induction entries with
  | nil => simp [find?]
  | cons e rest ih =>
    obtain ⟨k, a⟩ := e
    by_cases hk : k = id
    · subst hk
      by_cases h : k = other
      · subst h; simpa [find?] using ih
      · simpa [find?, h] using ih
    · by_cases h : k = other
      · subst h
        have hne : ¬ id = k := fun h => hk h.symm
        simp [find?, hk, hne]
      · simpa [find?, hk, h] using ih

theorem mem_entries_of_get? {t : Table α} {id : Uuid} {a : α} (h : t.get? id = some a) :
    (id, a) ∈ t.entries := by
  obtain ⟨entries⟩ := t
  simp only [get?] at h ⊢
  induction entries with
  | nil => cases h
  | cons e rest ih =>
    obtain ⟨k, b⟩ := e
    rw [find?] at h
    split at h
    · next hk =>
      cases hk
      cases h
      exact List.mem_cons_self ..
    · exact List.mem_cons_of_mem _ (ih h)

theorem mem_values_of_get? {t : Table α} {id : Uuid} {a : α} (h : t.get? id = some a) :
    a ∈ t.values :=
  List.mem_map_of_mem (mem_entries_of_get? h)

theorem exists_get?_of_mem {t : Table α} {id : Uuid} (h : id ∈ t.entries.map (·.1)) :
    ∃ a, t.get? id = some a := by
  obtain ⟨entries⟩ := t
  unfold get?
  induction entries with
  | nil => cases h
  | cons e rest ih =>
    by_cases hk : e.1 = id
    · exact ⟨e.2, if_pos hk⟩
    · obtain ⟨a, ha⟩ := ih ((List.mem_cons.1 h).resolve_left fun heq => hk heq.symm)
      exact ⟨a, (if_neg hk).trans ha⟩

/-! ## Erasing -/

theorem erase_insert_self (t : Table α) (id : Uuid) (a : α) :
    (t.insert id a).erase id = t.erase id := by
  obtain ⟨entries⟩ := t
  simp only [insert, erase, mk.injEq]
  induction entries with
  | nil => simp [insertEntry]
  | cons e rest ih =>
    obtain ⟨k, b⟩ := e
    by_cases hk : k = id
    · simp [insertEntry, hk]
    · simp only [insertEntry, if_neg hk, List.filter_cons, ih]

theorem erase_insert_of_ne (t : Table α) {id other : Uuid} (a : α) (h : other ≠ id) :
    (t.insert other a).erase id = (t.erase id).insert other a := by
  obtain ⟨entries⟩ := t
  simp only [insert, erase, mk.injEq]
  induction entries with
  | nil => simp [insertEntry, h]
  | cons e rest ih =>
    obtain ⟨k, b⟩ := e
    by_cases hk : k = other
    · subst hk
      simp [insertEntry, h]
    · rw [insertEntry, if_neg hk]
      by_cases hid : k = id
      · simp only [List.filter_cons, ih]
        simp [hid]
      · simp only [List.filter_cons, ih]
        simp [hid, insertEntry, hk]

theorem erase_of_get?_eq_none {t : Table α} {id : Uuid} (h : t.get? id = none) :
    t.erase id = t := by
  obtain ⟨entries⟩ := t
  simp only [get?, erase, mk.injEq] at h ⊢
  induction entries with
  | nil => rfl
  | cons e rest ih =>
    obtain ⟨k, b⟩ := e
    rw [find?] at h
    split at h
    · cases h
    · next hk =>
      simp only [List.filter_cons, ih h]
      simp [hk]

theorem mem_values_of_erase {t : Table α} {id : Uuid} {a : α} (h : a ∈ (t.erase id).values) :
    a ∈ t.values := by
  obtain ⟨e, he, rfl⟩ := List.mem_map.1 h
  exact List.mem_map_of_mem (List.mem_filter.1 he).1

/-! ## Identifiers that stand in a table once -/

/-- No identifier stands twice in the table. -/
def Keyed (t : Table α) : Prop := (t.entries.map (·.1)).Nodup

theorem keyed_empty : (empty : Table α).Keyed := List.nodup_nil

theorem mem_insertEntry {id k : Uuid} {a : α} {entries : List (Uuid × α)}
    (h : k ∈ (insertEntry id a entries).map (·.1)) : k = id ∨ k ∈ entries.map (·.1) := by
  induction entries with
  | nil => exact Or.inl (List.mem_singleton.1 h)
  | cons e rest ih =>
    rw [insertEntry] at h
    split at h
    · exact Or.inr h
    · rcases List.mem_cons.1 h with hk | hk
      · exact Or.inr (hk ▸ List.mem_cons_self ..)
      · exact (ih hk).imp_right (List.mem_cons_of_mem _)

theorem Keyed.insert {t : Table α} (h : t.Keyed) (id : Uuid) (a : α) : (t.insert id a).Keyed := by
  obtain ⟨entries⟩ := t
  unfold Keyed Table.insert at *
  induction entries with
  | nil => exact List.nodup_cons.2 ⟨List.not_mem_nil, List.nodup_nil⟩
  | cons e rest ih =>
    rw [insertEntry]
    split
    · exact h
    · next hk =>
      obtain ⟨hnot, hrest⟩ := List.nodup_cons.1 h
      refine List.nodup_cons.2 ⟨fun hmem => ?_, ih hrest⟩
      rcases mem_insertEntry hmem with heq | hold
      · exact hk heq
      · exact hnot hold

theorem Keyed.erase {t : Table α} (h : t.Keyed) (id : Uuid) : (t.erase id).Keyed :=
  h.sublist (List.filter_sublist.map _)

/-- Where no identifier stands twice, every value is found. -/
theorem Keyed.exists_get? {t : Table α} (h : t.Keyed) {a : α} (ha : a ∈ t.values) :
    ∃ id, t.get? id = some a := by
  obtain ⟨entries⟩ := t
  unfold Keyed values get? at *
  induction entries with
  | nil => cases ha
  | cons e rest ih =>
    obtain ⟨hnot, hrest⟩ := List.nodup_cons.1 h
    rcases List.mem_cons.1 ha with rfl | hmem
    · exact ⟨e.1, if_pos rfl⟩
    · obtain ⟨id, hid⟩ := ih hrest hmem
      have hin : id ∈ rest.map (·.1) :=
        List.mem_map_of_mem (mem_entries_of_get? (t := ⟨rest⟩) hid)
      have hne : e.1 ≠ id := by
        rintro rfl
        exact hnot hin
      exact ⟨id, (if_neg hne).trans hid⟩

end Table

end OrderDesk
