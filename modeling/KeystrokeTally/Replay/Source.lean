import KeystrokeTally.Replay.Record
import KeystrokeTally.Event.Basic
import KeystrokeTally.Scene
import KeystrokeTally.Disk.Tree
import KeystrokeTally.Text.Blank

namespace KeystrokeTally.Replay

/-- Why a replay stopped early. -/
inductive ReplayError where
  | io (path : String) (cause : Disk.IoError)
  | parse (line : Nat) (cause : Json.Error)

namespace ReplayError

def kind : ReplayError → String
  | .io _ _ => "Io"
  | .parse _ _ => "Parse"

def message : ReplayError → String
  | .io p e => "Failed to read events from " ++ p ++ ": " ++ e.message
  | .parse n e => "Malformed replay record on line " ++ toString n ++ ": " ++ e.render

def chain : ReplayError → String
  | .io p e => (ReplayError.io p e).message ++ ": " ++ e.message
  | e => e.message

end ReplayError

/-- The lines of a text as a line reader returns them: split at line feeds, a final line feed
ending the last line rather than starting an empty one. -/
def splitLines (text : String) : List String :=
  let cs := text.toList
  if cs.isEmpty then []
  else
    let parts := cs.splitOn '\n'
    (if cs.getLast? = some '\n' then parts.dropLast else parts).map String.ofList

/-- A replay being read. -/
structure Reader where
  origin : String
  lines : List String
  line : Nat := 0
  fault : Option Disk.IoError := none
  clock : Int := 0

/-- What a read gave. -/
inductive Next where
  | event (e : Event.Raw)
  | exhausted
  | failed (e : ReplayError)

namespace Reader

def ofText (origin text : String) : Reader := ⟨origin, splitLines text, 0, none, 0⟩

/-- A reader over the file at `path`; a file that cannot be opened is an error, one that cannot
be read fails at the first read. -/
def openAt (d : Disk.Tree) (path : String) : Except ReplayError Reader :=
  match d.stat path with
  | .error e => .error (.io path e)
  | .ok (.dir _) => .ok ⟨path, [], 0, some .isADirectory, 0⟩
  | .ok (.file _ _) =>
    match d.readText path with
    | .ok text => .ok (ofText path text)
    | .error e => .ok ⟨path, [], 0, some e, 0⟩

def apply (clock : Int) (s : Scene) : Record → Scene × Option Event.Raw
  | .process p q n => (s.declareProcess ⟨p, q, n⟩, none)
  | .processExit p => (s.exitProcess p, none)
  | .window w c o => (s.declareWindow w (Window.Metadata.make c (o.bind Window.ownerOfRaw)), none)
  | .keyPress w t => (s, some (.keyPress w (t.getD clock)))
  | .destroyNotify w => (s, some (.destroyNotify w))
  | .focusIn w => (s, some (.focusIn w))

def readFrom (r : Reader) : List String → Nat → Scene → Next × Reader × Scene
  | [], n, s => (.exhausted, { r with lines := [], line := n }, s)
  | l :: ls, n, s =>
    let n := n + 1
    let t := Text.trim l
    if t.isEmpty || t.startsWith "#" then readFrom r ls n s
    else
      match Record.parse t with
      | .error e => (.failed (.parse n e), { r with lines := ls, line := n }, s)
      | .ok rec =>
        match apply r.clock s rec with
        | (s, some e) => (.event e, { r with lines := ls, line := n }, s)
        | (s, none) => readFrom r ls n s

def next (r : Reader) (s : Scene) : Next × Reader × Scene :=
  match r.fault with
  | some e => (.failed (.io r.origin e), r, s)
  | none => r.readFrom r.lines r.line s

end Reader

end KeystrokeTally.Replay
