import StorageGauges.Gauge.Store
import StorageGauges.Decimal.Layout

/-!
# Exposition

What a monitoring server reads from the exporter: every family that has a
gauge, with its help line, its type and one line for each gauge. Families
stand in the order of their names. A gauge's labels stand in the order of
their names, and gauges in the order of the values that this gives.

## Main definitions

* `Exposed`: A gauge with its labels in order.
* `Exposed.family`: The gauges of a family in order.
* `exposed`: All families that have a gauge.
* `exposition`: The lines that are read.
-/

namespace StorageGauges

/-- A gauge as it is exposed: its labels with their values, in the order of
    the labels' names. -/
structure Exposed where
  labels : List (Label × String)
  value : Float
deriving Repr

namespace Exposed

/-- The labels of a series in the order of their names. -/
def labelsOf (s : Series) : List (Label × String) :=
  (s.family.labels.zip s.values).mergeSort fun a b => a.1.name ≤ b.1.name

/-- A gauge as it is exposed. -/
def ofGauge (g : Gauge) : Exposed :=
  { labels := labelsOf g.series, value := g.value }

/-- The label values in the order of the labels' names. -/
def values (e : Exposed) : List String :=
  e.labels.map (·.2)

/-- The gauges of a family in the order of their values. -/
def family (st : Store) (f : Family) : List Exposed :=
  ((st.gauges.filter fun g => g.series.family = f).map ofGauge).mergeSort fun a b =>
    !List.lex b.values a.values fun s t => s < t

/-- A character of a label value, escaped where it would end the value. -/
def escapedChar (c : Char) : List Char :=
  match c with
  | '\\' => ['\\', '\\']
  | '"' => ['\\', '"']
  | '\n' => ['\\', 'n']
  | _ => [c]

/-- A label value between its quotation marks. -/
def escaped (s : String) : String :=
  String.ofList (s.toList.flatMap escapedChar)

/-- A label with its value. -/
def label (l : Label × String) : String :=
  l.1.name ++ "=\"" ++ escaped l.2 ++ "\""

/-- The line of a gauge. -/
def line (f : Family) (e : Exposed) : String :=
  f.name ++ "\x7b" ++ String.intercalate "," (e.labels.map label) ++ "\x7d "
    ++ Decimal.plain.write e.value

end Exposed

/-- The families in the order of their names. -/
def Family.byName : List Family :=
  Family.all.mergeSort fun a b => a.name ≤ b.name

/-- The families that have a gauge, with their gauges. -/
def exposed (st : Store) : List (Family × List Exposed) :=
  (Family.byName.map fun f => (f, Exposed.family st f)).filter fun p => !p.2.isEmpty

/-- The lines of a family. -/
def familyLines (p : Family × List Exposed) : List String :=
  ["# HELP " ++ p.1.name ++ " " ++ p.1.help, "# TYPE " ++ p.1.name ++ " gauge"]
    ++ p.2.map (Exposed.line p.1)

/-- The lines that a monitoring server reads. -/
def exposition (st : Store) : List String :=
  (exposed st).flatMap familyLines

end StorageGauges
