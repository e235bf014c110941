import OrderDesk.Metrics.Basic
import OrderDesk.Number.Shortest

/-!
# The text exposition of metrics

Metrics are written as families of lines.  A family starts with two comment lines, its help text and
its type, and then has a line per combination of labels; a histogram has a line per bucket, with the
number of measurements up to its bound, and lines for sum and count.  Families stand in the order of
their names, and one without a line is left out.
-/

namespace OrderDesk.Metrics

/-- A value in quotes: backslashes, quotes and line ends are escaped. -/
def quoteLabel (s : String) : String :=
  let escape (c : Char) : List Char :=
    if c = '\\' then ['\\', '\\']
    else if c = '"' then ['\\', '"']
    else if c = '\n' then ['\\', 'n']
    else [c]
  String.ofList ('"' :: s.toList.flatMap escape ++ ['"'])

/-- Named labels in braces, or nothing if there are none. -/
def labelText (labels : List (String × String)) : String :=
  if labels.isEmpty then ""
  else
    let assign := fun (name, value) => name ++ "=" ++ quoteLabel value
    "\x7b" ++ String.intercalate "," (labels.map assign) ++ "\x7d"

/-- A line with a value. -/
def sampleLine (name : String) (labels : List (String × String)) (value : String) : String :=
  name ++ labelText labels ++ " " ++ value

/-- A family of lines. -/
structure Family where
  name : String
  help : String
  type : String
  samples : List String

/-- The lines of a family. -/
def Family.lines (f : Family) : List String :=
  ("# HELP " ++ f.name ++ " " ++ f.help) :: ("# TYPE " ++ f.name ++ " " ++ f.type) :: f.samples

/-- A family of counts. -/
def counterFamily (name help : String) (labels : List String) (s : Series Nat) : Family where
  name := name
  help := help
  type := "counter"
  samples := s.sorted.map fun (values, n) => sampleLine name (labels.zip values) (toString n)

/-- The lines of one histogram. -/
def histogramLines (name : String) (labels : List (String × String)) (h : Histogram) :
    List String :=
  List.zipWith (fun bound n =>
      sampleLine (name ++ "_bucket") (labels ++ [("le", Shortest.text bound)]) (toString n))
    Histogram.bounds h.buckets ++
  [sampleLine (name ++ "_bucket") (labels ++ [("le", "+Inf")]) (toString h.count),
    sampleLine (name ++ "_sum") labels (Shortest.text h.sum),
    sampleLine (name ++ "_count") labels (toString h.count)]

/-- Every family, in the order of names, those without lines included. -/
def allFamilies (m : Metrics) : List Family :=
  [⟨"catalog_circuit_state", "Catalog circuit breaker state (0=Closed, 1=Open, 2=HalfOpen)",
      "gauge",
      [sampleLine "catalog_circuit_state" [] (toString m.catalog.circuit.gauge)]⟩,
    counterFamily "catalog_requests_total" "Product catalog lookups by outcome" ["outcome"]
      m.catalog.requests,
    ⟨"http_request_duration_seconds", "HTTP request latency", "histogram",
      m.durations.sorted.flatMap fun (values, h) =>
        histogramLines "http_request_duration_seconds" (["method", "path"].zip values) h⟩,
    counterFamily "http_requests_total" "Total HTTP requests handled" ["method", "path", "status"]
      m.requests,
    counterFamily "order_transitions_total" "Order status transitions" ["to"] m.transitions,
    ⟨"orders_created_total", "Total orders created", "counter",
      [sampleLine "orders_created_total" [] (toString m.ordersCreated)]⟩]

/-- The families that have lines. -/
def families (m : Metrics) : List Family := m.allFamilies.filter fun f => !f.samples.isEmpty

/-- The lines of the exposition. -/
def lines (m : Metrics) : List String := m.families.flatMap Family.lines

/-- The exposition. -/
def text (m : Metrics) : String := String.join (m.lines.map (· ++ "\n"))

end OrderDesk.Metrics
