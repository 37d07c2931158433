/-
# Datasets as sets

Equal nodes are repeats of one node.  `distinct` keeps the first of them, and the
union of two datasets has the distinct nodes of the first followed by those of
the second that are not among them.
-/

import RecordQuery.Dataset.Basic
import RecordQuery.Record.Equality
import RecordQuery.Record.Paths

namespace RecordQuery
namespace Dataset

/-- The first of each group of equal nodes. -/
def distinct (d : Dataset) : Dataset := ofNodes (firstOccurrences Node.same d.nodes)

/-- **The distinct nodes of two datasets.** -/
def union (d e : Dataset) : Dataset :=
  let first := firstOccurrences Node.same d.nodes
  ofNodes (first ++ dropRepeats Node.same first e.nodes)

/-- The dataset of the nodes of several ones, repeats included. -/
def concat (ds : List Dataset) : Dataset := ofNodes (ds.flatMap (·.nodes))

/-- Whether two datasets have equal nodes in the same order; whether they cascade
does not count. -/
def same (d e : Dataset) : Bool := sameNodes d.nodes e.nodes

end Dataset
end RecordQuery
