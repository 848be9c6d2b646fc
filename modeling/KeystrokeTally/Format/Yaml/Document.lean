import KeystrokeTally.Format.Yaml.Event

namespace KeystrokeTally.Yaml

/-- A node event of a document. -/
inductive Item where
  | alias (anchor : Nat)
  | scalar (tag : Option String) (text : String) (style : ScalarStyle)
  | sequenceStart (tag : Option String)
  | sequenceEnd
  | mappingStart (tag : Option String)
  | mappingEnd
  | void
  deriving Repr, Inhabited

/-- The first document of a text: its events, each with where it starts, and the error that
stopped the reading, if any. -/
structure Document where
  items : Array (Item × Mark) := #[]
  targets : List (Nat × Nat) := []
  error : Option Error := none
  more : Bool := false
  deriving Inhabited

namespace Document

/-- Names an anchor on the event about to be added: the name takes the number of distinct names
seen so far, and that number leads to the event. -/
def anchorAt (d : Document) (anchors : List (String × Nat)) (a : Option String) :
    Document × List (String × Nat) :=
  match a with
  | none => (d, anchors)
  | some name =>
    let id := anchors.length
    let anchors := (name, id) :: anchors.filter (·.1 != name)
    ({ d with targets := (id, d.items.size) :: d.targets.filter (·.1 != id) }, anchors)

/-- Reads the events of the first document, from a parser at the start of the text; `anchors`
maps each anchor name to its number. -/
def collect : Nat → Parser → Document → List (String × Nat) → Document × Option Parser
  | 0, _, d, _ => (d, none)
  | fuel + 1, p, d, anchors =>
    match p.next with
    | .error e => ({ d with error := some e }, none)
    | .ok none => (d, none)
    | .ok (some (ev, p)) =>
      let here := ev.start
      let push (d : Document) (item : Item) : Document := { d with items := d.items.push (item, here) }
      match ev.kind with
      | .streamStart | .documentStart _ => collect fuel p d anchors
      | .streamEnd => ((if d.items.isEmpty then push d .void else d), none)
      | .documentEnd _ => (d, some p)
      | .alias name =>
        match anchors.find? (·.1 == name) with
        | some (_, id) => collect fuel p (push d (.alias id)) anchors
        | none => ({ d with error := some { problem := "unknown anchor", mark := here } }, none)
      | .scalar a tag text style =>
        let (d, anchors) := d.anchorAt anchors a
        collect fuel p (push d (.scalar tag text style)) anchors
      | .sequenceStart a tag _ =>
        let (d, anchors) := d.anchorAt anchors a
        collect fuel p (push d (.sequenceStart tag)) anchors
      | .sequenceEnd => collect fuel p (push d .sequenceEnd) anchors
      | .mappingStart a tag _ =>
        let (d, anchors) := d.anchorAt anchors a
        collect fuel p (push d (.mappingStart tag)) anchors
      | .mappingEnd => collect fuel p (push d .mappingEnd) anchors

def target? (d : Document) (id : Nat) : Option Nat :=
  (d.targets.find? (·.1 == id)).map (·.2)

def follows (p : Parser) : Bool :=
  match p.next with
  | .error _ => true
  | .ok (some (ev, _)) => match ev.kind with
    | .streamEnd => false
    | _ => true
  | .ok none => false

def load (text : String) : Document :=
  match Parser.start text with
  | .error e => { error := some e }
  | .ok p =>
    match collect (4 * text.length + 8) p {} [] with
    | (d, some p) => { d with more := follows p }
    | (d, none) => d

end Document

end KeystrokeTally.Yaml
