import KeystrokeTally.Config.Schema
import KeystrokeTally.Format.Yaml.Document
import KeystrokeTally.Format.Yaml.Plain

namespace KeystrokeTally.Config.YamlFile

open Yaml (Mark Item Document ScalarStyle Plain)
open Yaml.Plain (parseBool parseF64 isNull parseSigned parseUnsigned)

/-- Why a YAML text does not give a configuration. -/
inductive Failure where
  | message (text : String) (place : Option (Mark × String))
  | document (e : Yaml.Error)
  | endOfStream
  | moreThanOneDocument
  | repetition
  deriving Inhabited

def Failure.render : Failure → String
  | .message t none => t
  | .message t (some (m, path)) =>
    (if path == "." then "" else path ++ ": ") ++ t ++ (if m.isStart then "" else " at " ++ m.render)
  | .document e => e.render
  | .endOfStream => "EOF while parsing a value"
  | .moreThanOneDocument => "deserializing from YAML containing more than one document is not supported"
  | .repetition => "repetition limit exceeded"

def Failure.fix (f : Failure) (m : Mark) (path : String) : Failure :=
  match f with
  | .message t none => .message t (some (m, path))
  | f => f

def seqPath (path : String) (i : Nat) : String := path ++ "[" ++ toString i ++ "]"

def mapPath (path key : String) : String := (if path == "." then "" else path ++ ".") ++ key

def unknownPath (path : String) : String := (if path == "." then "" else path ++ ".") ++ "?"

def plainUnexpected (text : String) : Plain → Unexpected
  | .null => .unit
  | .bool b => .bool b
  | .unsigned n => .unsigned n
  | .signed i => .signed i
  | .wideUnsigned n => .other ("integer `" ++ toString n ++ "` as u128")
  | .wideSigned i => .other ("integer `" ++ toString i ++ "` as i128")
  | .float x => .float x
  | .text => .str text

def intUnexpected (s : String) : Option Unexpected := (Plain.integer? s).map (plainUnexpected s)

def untagged (s : String) : Unexpected := plainUnexpected s (Plain.resolve s)

def coreTag (name : String) : String := "tag:yaml.org,2002:" ++ name

def scalarMismatch (tag : Option String) (text : String) (style : ScalarStyle) (expecting : String) : String :=
  match tag with
  | some t =>
    if t == coreTag "bool" then
      match parseBool text with
      | some b => invalidType false (.bool b) expecting
      | none => invalidValue false (.str text) "a boolean"
    else if t == coreTag "int" then
      match intUnexpected text with
      | some u => invalidType false u expecting
      | none => invalidValue false (.str text) "an integer"
    else if t == coreTag "float" then
      match parseF64 text with
      | some x => invalidType false (.float x) expecting
      | none => invalidValue false (.str text) "a float"
    else if t == coreTag "null" then
      if isNull text then invalidType false .unit expecting else invalidValue false (.str text) "null"
    else if t.startsWith "!" && style == .plain then invalidType false (untagged text) expecting
    else invalidType false (.str text) expecting
  | none =>
    if style == .plain then invalidType false (untagged text) expecting
    else invalidType false (.str text) expecting

def mismatch (item : Item) (expecting : String) : Failure :=
  match item with
  | .scalar tag text style => .message (scalarMismatch tag text style expecting) none
  | .sequenceStart _ => .message (invalidType false .seq expecting) none
  | .mappingStart _ => .message (invalidType false .map expecting) none
  | _ => .endOfStream

def plainValue (s : Shape) (text : String) : Option Value :=
  match s with
  | .i64 => (parseSigned text Word.min Word.max).map .int
  | .u64 => (parseUnsigned text Word.maxUnsigned).map .int
  | .bool => (parseBool text).map .bool
  | _ => none

def isPresent (item : Item) : Except String Bool :=
  match item with
  | .scalar tag text style =>
    if style != .plain then .ok true
    else match tag with
      | some t =>
        if t == coreTag "null" then
          if isNull text then .ok false else .error (invalidValue false (.str text) "null")
        else .ok true
      | none => .ok (!text.isEmpty && !isNull text)
  | .sequenceStart _ | .mappingStart _ => .ok true
  | _ => .ok false

def isEmptyNode (item : Item) : Bool :=
  match item with
  | .void => true
  | .scalar _ text style => text.isEmpty && style == .plain
  | _ => false

/-- The place of a reader among the events, and how many aliases have been followed. -/
structure Walk where
  pos : Nat := 0
  jumps : Nat := 0

def peek (doc : Document) (w : Walk) : Except Failure (Item × Mark) :=
  match doc.items[w.pos]? with
  | some e => .ok e
  | none => .error (match doc.error with
    | some e => .document e
    | none => .endOfStream)

def next (doc : Document) (w : Walk) : Except Failure (Item × Mark × Walk) := do
  let (i, m) ← peek doc w
  pure (i, m, { w with pos := w.pos + 1 })

/-- Follows an alias to the node of its anchor; following more aliases than a hundred times
the number of events is refused. -/
def jump (doc : Document) (w : Walk) (id : Nat) : Except Failure Walk :=
  let jumps := w.jumps + 1
  if jumps > doc.items.size * 100 then .error .repetition
  else match doc.target? id with
    | some t => .ok { pos := t, jumps }
    | none => .error .endOfStream

def skipNode (doc : Document) : Nat → Nat → Walk → Except Failure Walk
  | 0, _, w => .ok w
  | fuel + 1, open_, w => do
    let (item, _, w) ← next doc w
    let open_ := match item with
      | .sequenceStart _ | .mappingStart _ => open_ + 1
      | .sequenceEnd | .mappingEnd => open_ - 1
      | _ => open_
    if open_ == 0 then pure w else skipNode doc fuel open_ w

def readKey (doc : Document) (path : String) (item : Item) (mark : Mark) (w : Walk) :
    Except Failure (String × String × Walk) :=
  let w1 := { w with pos := w.pos + 1 }
  match item with
  | .scalar _ text _ => .ok (text, mapPath path text, w1)
  | .alias id => do
    let wj ← jump doc w1 id
    let (target, tmark, _) ← next doc wj
    match target with
    | .scalar _ text _ => pure (text, unknownPath path, { w1 with jumps := wj.jumps })
    | target => throw ((mismatch target "field identifier").fix tmark path)
  | item => .error ((mismatch item "field identifier").fix mark path)

mutual

/-- Reads a value of shape `s` at `path`. Every reader takes one unit of the fuel `n` per call;
the fuel given is more than the calls a document can take. -/
def readShape (doc : Document) : Nat → Shape → String → Walk → Except Failure (Value × Walk)
  | 0, _, _, _ => .error .endOfStream
  | n + 1, .option s, path, w => do
    let (item, _) ← peek doc w
    match item with
    | .alias id =>
      let wj ← jump doc { w with pos := w.pos + 1 } id
      let (v, wj) ← readShape doc n (.option s) path wj
      pure (v, { pos := w.pos + 1, jumps := wj.jumps })
    | _ =>
      match isPresent item with
      | .error msg => throw (.message msg none)
      | .ok true => do
        let (v, w) ← readShape doc n s path w
        pure (.some v, w)
      | .ok false => pure (.none, { w with pos := w.pos + 1 })
  | n + 1, s, path, w => do
    let (item, mark, w1) ← next doc w
    match item with
    | .alias id =>
      let wj ← jump doc w1 id
      let (item, mark, wj) ← next doc wj
      let (v, wj) ← readNode doc n s path item mark wj
      pure (v, { w1 with jumps := wj.jumps })
    | _ => readNode doc n s path item mark w1

def readNode (doc : Document) : Nat → Shape → String → Item → Mark → Walk → Except Failure (Value × Walk)
  | 0, _, _, _, _, _ => .error .endOfStream
  | n + 1, s, path, item, mark, w =>
    let fixed {α : Type} (r : Except Failure α) : Except Failure α := r.mapError (·.fix mark path)
    match s with
    | .list e =>
      match item with
      | .sequenceStart _ => fixed do
        let (vs, w) ← readElements doc n e path 0 w
        let (_, _, w) ← next doc w
        pure (.list vs, w)
      | item => if isEmptyNode item then .ok (.list [], w) else .error ((mismatch item s.expecting).fix mark path)
    | .record r =>
      match item with
      | .mappingStart _ => fixed do
        let (given, w) ← readEntries doc n r path [] w
        let v ← (r.complete given).mapError fun m => Failure.message m none
        let (_, _, w) ← next doc w
        pure (v, w)
      | item =>
        if isEmptyNode item then fixed ((r.complete []).mapError (Failure.message · none) |>.map (·, w))
        else .error ((mismatch item r.expecting).fix mark path)
    | .text | .path =>
      match item with
      | .scalar _ text _ => .ok (.text text, w)
      | item => .error ((mismatch item s.expecting).fix mark path)
    | .option s => fixed do
      let (v, w) ← readNode doc n s path item mark w
      pure (.some v, w)
    | s =>
      match item with
      | .scalar _ text .plain =>
        match plainValue s text with
        | some v => .ok (v, w)
        | none => .error ((mismatch item s.expecting).fix mark path)
      | item => .error ((mismatch item s.expecting).fix mark path)

def readElements (doc : Document) : Nat → Shape → String → Nat → Walk →
    Except Failure (List Value × Walk)
  | 0, _, _, _, w => .ok ([], w)
  | n + 1, s, path, i, w => do
    let (item, _) ← peek doc w
    match item with
    | .sequenceEnd | .void => pure ([], w)
    | _ =>
      let (v, w) ← readShape doc n s (seqPath path i) w
      let (vs, w) ← readElements doc n s path (i + 1) w
      pure (v :: vs, w)

/-- Reads the members of a mapping as fields of a record, up to its end; `given` holds the
fields read so far. -/
def readEntries (doc : Document) : Nat → Record → String → List (String × Value) → Walk →
    Except Failure (List (String × Value) × Walk)
  | 0, _, _, given, w => .ok (given, w)
  | n + 1, r, path, given, w => do
    let (item, mark) ← peek doc w
    match item with
    | .mappingEnd | .void => pure (given, w)
    | _ =>
      let (key, valuePath, w) ← readKey doc path item mark w
      match r.field? key with
      | none =>
        let w ← skipNode doc (doc.items.size + 1) 0 w
        readEntries doc n r path given w
      | some f =>
        if given.any (·.1 == f.name) then throw (.message (duplicateField f.name) none)
        else
          let (v, w) ← readShape doc n f.shape valuePath w
          readEntries doc n r path (given ++ [(f.name, v)]) w

end

def read (text : String) : Except Failure Value :=
  let doc := Document.load text
  match readShape doc (8 * doc.items.size + 64) (.record .settings) "." {} with
  | .error f => .error f
  | .ok (v, _) =>
    match doc.error with
    | some e => .error (.document e)
    | none => if doc.more then .error .moreThanOneDocument else .ok v

end KeystrokeTally.Config.YamlFile
