import DatagramSession.Session.Table

/-!
# Tables and handles

Several handles may name one table: a save through any of them is seen through all of them, and
through no handle of another table.
-/

namespace DatagramSession

structure Registry where
  tables : List Table
  /-- The table that each handle names. -/
  handles : List Nat
deriving DecidableEq, Repr

namespace Registry

/-- One empty table and a handle to it. -/
def single : Registry := ⟨[.empty], [0]⟩

/-- The table behind a handle. -/
def table (r : Registry) (handle : Nat) : Table :=
  (r.handles[handle]? >>= fun place => r.tables[place]?).getD .empty

/-- Another handle to the same table. -/
def clone (r : Registry) (handle : Nat) : Registry :=
  { r with handles := r.handles ++ (r.handles[handle]?).toList }

/-- A handle to a new empty table. -/
def create (r : Registry) : Registry :=
  { tables := r.tables ++ [.empty], handles := r.handles ++ [r.tables.length] }

/-- The table behind a handle becomes `t`. -/
def put (r : Registry) (handle : Nat) (t : Table) : Registry :=
  match r.handles[handle]? with
  | some place => { r with tables := r.tables.set place t }
  | none => r

def save (r : Registry) (handle : Nat) (id : SessionId) (now : Instant) : Bool × Registry :=
  let (stored, t) := (r.table handle).save id now
  (stored, r.put handle t)

end Registry

end DatagramSession
