/-!
# Percentages

How full a container, a volume or a node is. Usage is counted in powers of a
thousand and limits are declared in powers of 1024, so usage is scaled by
1.024 before it is compared with a limit.

A container without a usable limit is measured against its node. Where
neither can be a denominator there is no percentage, and the answer is no
number. The order of the operations is part of the result, since doubles are
rounded after each.

## Main definitions

* `LimitSource`: What a container was measured against.
* `containerPercentage`: How full a container is.
* `volumePercentage`: How full a volume is.
* `nodePercentage`: How much of a node is free.
-/

namespace StorageGauges

namespace Percentage

/-- No number. -/
def none : Float := 0.0 / 0.0

/-- The lesser of two numbers; one that is no number does not count. -/
def least (a b : Float) : Float :=
  if a.isNaN then b else if b.isNaN then a else if b < a then b else a

/-- The greater of two numbers; one that is no number does not count. -/
def greatest (a b : Float) : Float :=
  if a.isNaN then b else if b.isNaN then a else if a < b then b else a

/-- What usage is multiplied by before it is compared with a limit. -/
def baseConversion : Float := 1.024

end Percentage

/-- What a container's usage was measured against. -/
inductive LimitSource
  | container
  | node
deriving DecidableEq, Repr

/-- The value of the source label. -/
def LimitSource.label : LimitSource → String
  | .container => "container"
  | .node => "node"

namespace Percentage

/-- The share of a limit that is used, at most all of it. -/
def ofLimit (used limit : Float) : Float :=
  least (used * baseConversion / limit * 100.0) 100.0

/-- The limit, when it can be a denominator. -/
def usable (limit : Option Float) : Option Float :=
  limit.filter fun l => 0.0 < l

/-- How full a container is, and what it was measured against. -/
def container (used : Float) (limit : Option Float) (available capacity : Float) :
    Float × LimitSource :=
  match usable limit with
  | some l => (ofLimit used l, .container)
  | Option.none =>
    if 0.0 < capacity then
      (greatest (capacity - available) 0.0 * 100.0 / capacity, .node)
    else (none, .node)

/-- How full a volume is. -/
def volume (used sizeLimit : Float) : Float :=
  ofLimit used sizeLimit

/-- How much of a node is free. More than all of it can be free, when the
    node says so. -/
def node (available capacity : Float) : Float :=
  if capacity == 0.0 then none else available / capacity * 100.0

end Percentage

end StorageGauges
