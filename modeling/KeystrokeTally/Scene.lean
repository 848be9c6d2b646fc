import KeystrokeTally.Window.Table
import KeystrokeTally.Proc.Table
import KeystrokeTally.Proc.Graph.Upsert
import KeystrokeTally.Proc.Graph.Remove

namespace KeystrokeTally

/-- The declared windows and processes and the process graph. -/
structure Scene where
  windows : Window.Table := {}
  processes : Proc.Table := {}
  graph : Proc.Graph := Proc.Graph.empty

namespace Scene

instance : Inhabited Scene := ⟨{}⟩

def declareProcess (s : Scene) (e : Proc.Entry) : Scene :=
  let processes := s.processes.insert e
  { s with processes, graph := (s.graph.upsert e).1 }

/-- A process exits: it leaves the table, then the graph, where its children still in the table
stay as roots of their own trees. -/
def exitProcess (s : Scene) (p : Proc.Pid) : Scene :=
  let (processes, _) := s.processes.kill p
  { s with processes, graph := (s.graph.remove p processes.has).1 }

def declareWindow (s : Scene) (w : Window.Handle) (m : Window.Metadata) : Scene :=
  { s with windows := s.windows.declare w m }

end Scene

end KeystrokeTally
