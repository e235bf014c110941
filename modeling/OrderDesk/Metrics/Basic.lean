import OrderDesk.Breaker

/-!
# Counting what happens

`Metrics` counts requests, orders and changes of status, and remembers how long requests took.  What
is counted when a catalog is asked stands apart in `CatalogMetrics`: questions by outcome, and where
the circuit stands.  A count is kept per combination of labels (`Series`).
-/

namespace OrderDesk

/-- A value for each combination of labels that has occurred. -/
structure Series (α : Type) where
  entries : List (List String × α)

namespace Series

variable {α : Type}

/-- Nothing has occurred. -/
def empty : Series α := ⟨[]⟩

/-- The value for a combination of labels. -/
def get? (s : Series α) (labels : List String) : Option α :=
  (s.entries.find? (·.1 == labels)).map (·.2)

/-- Changes the first value with these labels, or adds a changed `start` at the end. -/
def updateEntries (labels : List String) (start : α) (f : α → α) :
    List (List String × α) → List (List String × α)
  | [] => [(labels, f start)]
  | (l, a) :: rest =>
    if l = labels then (l, f a) :: rest else (l, a) :: updateEntries labels start f rest

/-- Changes the value for a combination of labels; one that is new starts with `start`. -/
def update (s : Series α) (labels : List String) (start : α) (f : α → α) : Series α :=
  ⟨updateEntries labels start f s.entries⟩

theorem find?_updateEntries (labels other : List String) (start : α) (f : α → α)
    (entries : List (List String × α)) :
    ((updateEntries labels start f entries).find? (·.1 == other)).map (·.2) =
      if labels = other then some (f (((entries.find? (·.1 == labels)).map (·.2)).getD start))
      else (entries.find? (·.1 == other)).map (·.2) := by
  induction entries with
  | nil =>
    by_cases h : labels = other <;> simp [updateEntries, h]
  | cons e rest ih =>
    obtain ⟨l, a⟩ := e
    by_cases hl : l = labels
    · subst hl
      by_cases h : l = other <;> simp [updateEntries, h]
    · by_cases h : l = other
      · subst h
        have hne : ¬ labels = l := fun h => hl h.symm
        simp [updateEntries, hl, hne]
      · rw [updateEntries]
        simp only [if_neg hl]
        rw [List.find?_cons_of_neg (by simpa using h), ih,
          List.find?_cons_of_neg (by simpa using hl), List.find?_cons_of_neg (by simpa using h)]

/-- After a change of one combination of labels every other one has the value it had. -/
theorem get?_update (s : Series α) (labels other : List String) (start : α) (f : α → α) :
    (s.update labels start f).get? other =
      if labels = other then some (f ((s.get? labels).getD start)) else s.get? other :=
  find?_updateEntries labels other start f s.entries

/-- The combinations of labels that have occurred, the first one first. -/
def labels (s : Series α) : List (List String) := s.entries.map (·.1)

theorem map_fst_updateEntries (labels : List String) (start : α) (f : α → α)
    (entries : List (List String × α)) :
    (updateEntries labels start f entries).map (·.1) =
      if labels ∈ entries.map (·.1) then entries.map (·.1) else entries.map (·.1) ++ [labels] := by
  induction entries with
  | nil => rfl
  | cons e rest ih =>
    obtain ⟨l, a⟩ := e
    by_cases hl : l = labels
    · subst hl
      simp [updateEntries]
    · have hne : ¬ labels = l := fun h => hl h.symm
      by_cases hmem : labels ∈ rest.map (·.1)
      · simp [updateEntries, hl, hne, ih, hmem]
      · simp [updateEntries, hl, hne, ih, hmem]

/-- A combination of labels occurs once, however often its value changes. -/
theorem labels_update (s : Series α) (labels : List String) (start : α) (f : α → α) :
    (s.update labels start f).labels =
      if labels ∈ s.labels then s.labels else s.labels ++ [labels] :=
  map_fst_updateEntries labels start f s.entries

/-- A combination of labels comes before another if its first different label does. -/
def labelsBefore : List String → List String → Bool
  | [], _ => true
  | _ :: _, [] => false
  | a :: as, b :: bs => if a = b then labelsBefore as bs else decide (a < b)

/-- The entries in the order of their labels. -/
def sorted (s : Series α) : List (List String × α) :=
  s.entries.mergeSort fun a b => labelsBefore a.1 b.1

end Series

/-- How long requests took: how many took no longer than each bound, their number, and the sum. -/
structure Histogram where
  buckets : List Nat
  count : Nat
  sum : Float

namespace Histogram

/-- The bounds of the buckets, in seconds. -/
def bounds : List Float := [0.001, 0.005, 0.01, 0.05, 0.1, 0.5, 1, 5]

/-- Nothing has been measured. -/
def empty : Histogram := ⟨bounds.map fun _ => 0, 0, 0⟩

/-- One measurement more. -/
def observe (h : Histogram) (seconds : Float) : Histogram where
  buckets := List.zipWith (fun bound n => if seconds ≤ bound then n + 1 else n) bounds h.buckets
  count := h.count + 1
  sum := h.sum + seconds

end Histogram

/-- What is counted when a catalog is asked. -/
structure CatalogMetrics where
  /-- Questions by outcome. -/
  requests : Series Nat
  circuit : CircuitState

namespace CatalogMetrics

/-- Nobody has asked. -/
def empty : CatalogMetrics := ⟨.empty, .closed⟩

/-- A question had an outcome. -/
def recordRequest (m : CatalogMetrics) (outcome : String) : CatalogMetrics :=
  { m with requests := m.requests.update [outcome] 0 (· + 1) }

/-- The circuit stands somewhere. -/
def setCircuit (m : CatalogMetrics) (state : CircuitState) : CatalogMetrics :=
  { m with circuit := state }

end CatalogMetrics

/-- Everything that is counted. -/
structure Metrics where
  /-- Requests by method, path and status. -/
  requests : Series Nat
  /-- Times by method and path. -/
  durations : Series Histogram
  ordersCreated : Nat
  /-- Changes of status by the new status. -/
  transitions : Series Nat
  catalog : CatalogMetrics

namespace Metrics

/-- Nothing has happened. -/
def empty : Metrics := ⟨.empty, .empty, 0, .empty, .empty⟩

/-- A request was answered. -/
def recordRequest (m : Metrics) (method path : String) (status : Nat) (seconds : Float) : Metrics :=
  { m with
    requests := m.requests.update [method, path, toString status] 0 (· + 1)
    durations := m.durations.update [method, path] .empty (·.observe seconds) }

/-- An order was created. -/
def recordOrder (m : Metrics) : Metrics := { m with ordersCreated := m.ordersCreated + 1 }

/-- An order changed its status. -/
def recordTransition (m : Metrics) (status : String) : Metrics :=
  { m with transitions := m.transitions.update [status] 0 (· + 1) }

/-- Changes of status are counted apart from everything else. -/
theorem foldl_recordTransition {α : Type} (m : Metrics) (status : String) (l : List α) :
    l.foldl (fun m _ => m.recordTransition status) m =
      { m with transitions := l.foldl (fun s _ => s.update [status] 0 (· + 1)) m.transitions } := by
  induction l generalizing m with
  | nil => rfl
  | cons a l ih => rw [List.foldl_cons, ih, List.foldl_cons, recordTransition]

end Metrics

end OrderDesk
