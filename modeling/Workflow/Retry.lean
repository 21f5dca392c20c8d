import Workflow.Graph

/-!
# Retries

How often a node may be tried again in place, and how long to wait before.

## Main Definitions

* `Backoff` — a policy for the waits.
* `Backoff.ceiling` — the longest wait before a retry.
* `Retry.budget` — how many retries a node has.
-/

namespace Workflow

/-- A policy for the waits before retries; lengths of time are in nanoseconds. -/
inductive Backoff where
  /-- Always the same wait. -/
  | fixed (wait : Nat)
  /-- Waits that double from `base` up to `most`, each shortened by a random factor. -/
  | exponential (base most : Nat)
  /-- No waits. -/
  | none
  deriving DecidableEq, Repr

namespace Backoff

/-- The nanoseconds in a millisecond. -/
def millisecond : Nat := 1000000

/-- The longest length of time there is. -/
def forever : Nat := UInt64.size * 1000000000 - 1

/-- The policy of runs that state none: from 200 milliseconds up to a minute. -/
def standard : Backoff := .exponential (200 * millisecond) (60000 * millisecond)

/-- The factor of a retry: a power of two that fits a 32-bit word, or the greatest such word. -/
def factor (attempt : Nat) : Nat := if attempt < 32 then Nat.pow 2 attempt else UInt32.size - 1

/-- The longest wait before a retry; the first retry has number 0. -/
def ceiling (policy : Backoff) (attempt : Nat) : Nat :=
  match policy with
  | .fixed wait => wait
  | .exponential base most =>
    let product := base * factor attempt
    if product ≤ forever then min product most else most
  | .none => 0

end Backoff

namespace Retry

/-- How many times a node may be tried again: what it says, or else what the graph says, held to
the range of an unsigned 32-bit word. -/
def budget (g : Graph) (n : Node) : UInt32 :=
  let default := g.attributes.integer "default_max_retry" 0
  let stated := (n.attributes.integer "max_retries" default).toInt
  UInt32.ofNat (min stated.toNat (UInt32.size - 1))

end Retry

end Workflow
