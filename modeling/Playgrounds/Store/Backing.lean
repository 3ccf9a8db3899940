import Playgrounds.Store.Keyed
import Playgrounds.Store.Server
import Playgrounds.Store.Tables

/-!
# Either store

`Backing` is the store that the service has: the one in memory or one on a server. `Backing.run`
performs an operation on it; the records that a listing passed over are reported.
-/

namespace Playgrounds.Store

/-- The store that the service has. -/
inductive Backing where
  | memory (t : Tables)
  | server (s : Server)

namespace Backing

/-- Performs an operation. -/
def run {α : Type} (op : Operation α) : Backing → (Outcome α × List Skipped) × Backing
  | memory t =>
    let (result, t) := t.run op
    ((result, []), memory t)
  | server s =>
    let (result, s) := s.talk (Keyed.dialogue op)
    (result, server s)

end Backing

end Playgrounds.Store
