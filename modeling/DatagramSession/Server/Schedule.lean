import DatagramSession.Server.Basic

/-!
# A schedule

One way to run the parts of a server: a single thread moves the reader before the tasks, the tasks
before the writer, and the writer before the supervisor, and writes a datagram only when nothing
else can move.
-/

namespace DatagramSession.Server

/-- The moves that the thread tries, in this order; a login may take the draw. -/
def schedule (s : Server) (draw : Draw) : List Move :=
  [.quit, .start, .accept, .read]
    ++ s.desk.tasks.flatMap (fun t =>
      [.task (.serve t.ticket draw), .task (.refuse t.ticket), .task (.abandon t.ticket),
        .task (.wait t.ticket)])
    ++ [.take, .finish, .retire]

/-- The server after the first possible move, or none when only a write is left. -/
def advance (s : Server) (draw : Draw) : Option Server := (s.schedule draw).findSome? s.step

end DatagramSession.Server
