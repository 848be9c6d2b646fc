import KeystrokeTally.Format.Yaml.Token.Lexer

namespace KeystrokeTally.Yaml

/-- What an event is. -/
inductive EventKind where
  | streamStart
  | streamEnd
  | documentStart (implicit : Bool)
  | documentEnd (implicit : Bool)
  | alias (name : String)
  | scalar (anchor : Option String) (tag : Option String) (text : String) (style : ScalarStyle)
  | sequenceStart (anchor : Option String) (tag : Option String) (flow : Bool)
  | sequenceEnd
  | mappingStart (anchor : Option String) (tag : Option String) (flow : Bool)
  | mappingEnd
  deriving Repr, Inhabited

/-- An event and where its text starts and ends. -/
structure Event where
  kind : EventKind
  start : Mark
  stop : Mark
  deriving Repr, Inhabited

/-- What the reader of events expects next. -/
inductive Expecting where
  | streamStart
  | implicitDocumentStart
  | documentStart
  | documentContent
  | documentEnd
  | blockNode
  | blockNodeOrIndentlessSequence
  | flowNode
  | blockSequenceFirstEntry
  | blockSequenceEntry
  | indentlessSequenceEntry
  | blockMappingFirstKey
  | blockMappingKey
  | blockMappingValue
  | flowSequenceFirstEntry
  | flowSequenceEntry
  | flowSequenceEntryMappingKey
  | flowSequenceEntryMappingValue
  | flowSequenceEntryMappingEnd
  | flowMappingFirstKey
  | flowMappingKey
  | flowMappingValue
  | flowMappingEmptyValue
  | finished
  deriving Repr, Inhabited, BEq

/-- The state of reading events. -/
structure Parser where
  lexer : Lexer
  expecting : Expecting := .streamStart
  pending : List Expecting := []
  marks : List Mark := []
  handles : List (String × String) := []
  deriving Inhabited

namespace Parser

def start (text : String) : Except Error Parser := do
  pure { lexer := ← Lexer.start text }

def peek (p : Parser) : Except Error (Token × Parser) := do
  let (t, lx) ← p.lexer.peek
  pure (t, { p with lexer := lx })

def take (p : Parser) : Parser := { p with lexer := p.lexer.take }

def pop (p : Parser) : Parser :=
  { p with expecting := p.pending.head?.getD .finished, pending := p.pending.drop 1 }

def push (p : Parser) (e : Expecting) : Parser := { p with pending := e :: p.pending }

def popMark (p : Parser) : Mark × Parser := (p.marks.head?.getD {}, { p with marks := p.marks.drop 1 })

def emptyScalar (m : Mark) : Event := ⟨.scalar none none "" .plain, m, m⟩

def isDirective : TokenKind → Bool
  | .versionDirective _ _ | .tagDirective _ _ => true
  | _ => false

/-- Reads the directives before a document; `!` and `!!` are declared after them unless they
were. A second `%YAML`, a version other than 1.1 or 1.2, and a handle declared twice are
errors. -/
def directives (p : Parser) : Except Error Parser :=
  let rec go : Nat → Bool → Parser → Except Error (Parser × Mark)
    | 0, _, p => do let (t, p) ← p.peek; pure (p, t.start)
    | fuel + 1, seenVersion, p => do
      let (t, p) ← p.peek
      match t.kind with
      | .versionDirective major minor =>
        if seenVersion then throw { problem := "found duplicate %YAML directive", mark := t.start }
        if major != 1 || (minor != 1 && minor != 2) then
          throw { problem := "found incompatible YAML document", mark := t.start }
        go fuel true p.take
      | .tagDirective handle pfx =>
        if p.handles.any (·.1 == handle) then throw { problem := "found duplicate %TAG directive", mark := t.start }
        go fuel seenVersion { p.take with handles := p.handles ++ [(handle, pfx)] }
      | _ => pure (p, t.start)
  do
    let (p, _) ← go (p.lexer.cursor.rest.length + 2) false p
    let defaults := [("!", "!"), ("!!", "tag:yaml.org,2002:")]
    pure { p with handles := p.handles ++ defaults.filter fun (h, _) => !p.handles.any (·.1 == h) }

def documentStart (p : Parser) (implicit : Bool) : Except Error (Event × Parser) := do
  let (t, p) ← p.peek
  let rec skipEnds : Nat → Token → Parser → Except Error (Token × Parser)
    | 0, t, p => .ok (t, p)
    | fuel + 1, t, p =>
      match t.kind with
      | .documentEnd => do let (t, p) ← p.take.peek; skipEnds fuel t p
      | _ => .ok (t, p)
  let (t, p) ← if implicit then pure (t, p) else skipEnds (p.lexer.cursor.rest.length + 2) t p
  match t.kind with
  | .streamEnd => pure (⟨.streamEnd, t.start, t.stop⟩, { p.take with expecting := .finished })
  | .documentStart | .versionDirective _ _ | .tagDirective _ _ => explicit t p
  | _ =>
    if implicit then do
      let p ← p.directives
      pure (⟨.documentStart true, t.start, t.start⟩, { p.push .documentEnd with expecting := .blockNode })
    else explicit t p
where
  explicit (t : Token) (p : Parser) : Except Error (Event × Parser) := do
    let start := t.start
    let p ← p.directives
    let (t, p) ← p.peek
    match t.kind with
    | .documentStart =>
      pure (⟨.documentStart false, start, t.stop⟩, { (p.push .documentEnd).take with expecting := .documentContent })
    | _ => throw { problem := "did not find expected <document start>", mark := t.start }

def documentEnd (p : Parser) : Except Error (Event × Parser) := do
  let (t, p) ← p.peek
  match t.kind with
  | .documentEnd =>
    pure (⟨.documentEnd false, t.start, t.stop⟩, { p.take with expecting := .documentStart, handles := [] })
  | _ => pure (⟨.documentEnd true, t.start, t.start⟩, { p with expecting := .documentStart, handles := [] })

/-- Reads a node: an alias, or a scalar or collection start after an optional anchor and tag.
`block` allows block collections; `indentless` allows a sequence of `-` entries at the
enclosing key's indentation. -/
def node (p : Parser) (block indentless : Bool) : Except Error (Event × Parser) := do
  let (t, p) ← p.peek
  match t.kind with
  | .alias name => pure (⟨.alias name, t.start, t.stop⟩, p.pop.take)
  | _ =>
    let start := t.start
    let (anchor, tagged, stop, t, p) ← (match t.kind with
      | .anchor name => do
        let p := p.take
        let (t2, p) ← p.peek
        match t2.kind with
        | .tag h s => do
          let p := p.take
          let (t3, p) ← p.peek
          pure (some name, some (h, s, t2.start), t2.stop, t3, p)
        | _ => pure (some name, none, t.stop, t2, p)
      | .tag h s => do
        let p := p.take
        let (t2, p) ← p.peek
        match t2.kind with
        | .anchor name => do
          let p := p.take
          let (t3, p) ← p.peek
          pure (some name, some (h, s, t.start), t2.stop, t3, p)
        | _ => pure (none, some (h, s, t.start), t.stop, t2, p)
      | _ => pure (none, none, t.start, t, p) : Except Error _)
    let tag ← match tagged with
      | none => pure none
      | some (handle, suffix, tagMark) =>
        if handle.isEmpty then pure (some suffix)
        else match p.handles.find? (·.1 == handle) with
          | some (_, pfx) => pure (some (pfx ++ suffix))
          | none => throw (Error.within "while parsing a node" start "found undefined tag handle" tagMark)
    match t.kind with
    | .blockEntry =>
      if indentless then
        pure (⟨.sequenceStart anchor tag false, start, t.stop⟩, { p with expecting := .indentlessSequenceEntry })
      else rest anchor tag start stop t p
    | _ => rest anchor tag start stop t p
where
  rest (anchor tag : Option String) (start stop : Mark) (t : Token) (p : Parser) : Except Error (Event × Parser) :=
    match t.kind with
    | .scalar text style => .ok (⟨.scalar anchor tag text style, start, t.stop⟩, p.pop.take)
    | .flowSequenceStart =>
      .ok (⟨.sequenceStart anchor tag true, start, t.stop⟩, { p with expecting := .flowSequenceFirstEntry })
    | .flowMappingStart =>
      .ok (⟨.mappingStart anchor tag true, start, t.stop⟩, { p with expecting := .flowMappingFirstKey })
    | .blockSequenceStart =>
      if block then .ok (⟨.sequenceStart anchor tag false, start, t.stop⟩, { p with expecting := .blockSequenceFirstEntry })
      else fallback anchor tag start stop t p
    | .blockMappingStart =>
      if block then .ok (⟨.mappingStart anchor tag false, start, t.stop⟩, { p with expecting := .blockMappingFirstKey })
      else fallback anchor tag start stop t p
    | _ => fallback anchor tag start stop t p
  fallback (anchor tag : Option String) (start stop : Mark) (t : Token) (p : Parser) : Except Error (Event × Parser) :=
    if anchor.isSome || tag.isSome then .ok (⟨.scalar anchor tag "" .plain, start, stop⟩, p.pop)
    else .error (Error.within (if block then "while parsing a block node" else "while parsing a flow node") start
      "did not find expected node content" t.start)

def documentContent (p : Parser) : Except Error (Event × Parser) := do
  let (t, p) ← p.peek
  match t.kind with
  | .versionDirective _ _ | .tagDirective _ _ | .documentStart | .documentEnd | .streamEnd =>
    pure (emptyScalar t.start, p.pop)
  | _ => p.node true false

def openCollection (p : Parser) (first : Bool) : Except Error Parser := do
  if !first then return p
  let (t, p) ← p.peek
  pure { p.take with marks := t.start :: p.marks }

def blockSequenceEntry (p : Parser) (first : Bool) : Except Error (Event × Parser) := do
  let p ← p.openCollection first
  let (t, p) ← p.peek
  match t.kind with
  | .blockEntry =>
    let p := p.take
    let (t2, p) ← p.peek
    match t2.kind with
    | .blockEntry | .blockEnd => pure (emptyScalar t.stop, { p with expecting := .blockSequenceEntry })
    | _ => (p.push .blockSequenceEntry).node true false
  | .blockEnd =>
    let (_, p) := p.popMark
    pure (⟨.sequenceEnd, t.start, t.stop⟩, p.pop.take)
  | _ =>
    let (m, _) := p.popMark
    throw (Error.within "while parsing a block collection" m "did not find expected '-' indicator" t.start)

def indentlessSequenceEntry (p : Parser) : Except Error (Event × Parser) := do
  let (t, p) ← p.peek
  match t.kind with
  | .blockEntry =>
    let p := p.take
    let (t2, p) ← p.peek
    match t2.kind with
    | .blockEntry | .key | .value | .blockEnd => pure (emptyScalar t.stop, { p with expecting := .indentlessSequenceEntry })
    | _ => (p.push .indentlessSequenceEntry).node true false
  | _ => pure (⟨.sequenceEnd, t.start, t.start⟩, p.pop)

def blockMappingKey (p : Parser) (first : Bool) : Except Error (Event × Parser) := do
  let p ← p.openCollection first
  let (t, p) ← p.peek
  match t.kind with
  | .key =>
    let p := p.take
    let (t2, p) ← p.peek
    match t2.kind with
    | .key | .value | .blockEnd => pure (emptyScalar t.stop, { p with expecting := .blockMappingValue })
    | _ => (p.push .blockMappingValue).node true true
  | .blockEnd =>
    let (_, p) := p.popMark
    pure (⟨.mappingEnd, t.start, t.stop⟩, p.pop.take)
  | _ =>
    let (m, _) := p.popMark
    throw (Error.within "while parsing a block mapping" m "did not find expected key" t.start)

def blockMappingValue (p : Parser) : Except Error (Event × Parser) := do
  let (t, p) ← p.peek
  match t.kind with
  | .value =>
    let p := p.take
    let (t2, p) ← p.peek
    match t2.kind with
    | .key | .value | .blockEnd => pure (emptyScalar t.stop, { p with expecting := .blockMappingKey })
    | _ => (p.push .blockMappingKey).node true true
  | _ => pure (emptyScalar t.start, { p with expecting := .blockMappingKey })

def flowSequenceEntry (p : Parser) (first : Bool) : Except Error (Event × Parser) := do
  let p ← p.openCollection first
  let (t, p) ← p.peek
  match t.kind with
  | .flowSequenceEnd => finish t p
  | _ =>
    let (t, p) ←
      if first then pure (t, p)
      else match t.kind with
        | .flowEntry => p.take.peek
        | _ =>
          let (m, _) := p.popMark
          throw (Error.within "while parsing a flow sequence" m "did not find expected ',' or ']'" t.start)
    match t.kind with
    | .key => pure (⟨.mappingStart none none true, t.start, t.stop⟩, { p.take with expecting := .flowSequenceEntryMappingKey })
    | .flowSequenceEnd => finish t p
    | _ => (p.push .flowSequenceEntry).node false false
where
  finish (t : Token) (p : Parser) : Except Error (Event × Parser) :=
    let (_, p) := p.popMark
    .ok (⟨.sequenceEnd, t.start, t.stop⟩, p.pop.take)

def flowSequenceEntryMappingKey (p : Parser) : Except Error (Event × Parser) := do
  let (t, p) ← p.peek
  match t.kind with
  | .value | .flowEntry | .flowSequenceEnd => pure (emptyScalar t.start, { p with expecting := .flowSequenceEntryMappingValue })
  | _ => (p.push .flowSequenceEntryMappingValue).node false false

def flowSequenceEntryMappingValue (p : Parser) : Except Error (Event × Parser) := do
  let (t, p) ← p.peek
  match t.kind with
  | .value =>
    let p := p.take
    let (t2, p) ← p.peek
    match t2.kind with
    | .flowEntry | .flowSequenceEnd => pure (emptyScalar t2.start, { p with expecting := .flowSequenceEntryMappingEnd })
    | _ => (p.push .flowSequenceEntryMappingEnd).node false false
  | _ => pure (emptyScalar t.start, { p with expecting := .flowSequenceEntryMappingEnd })

def flowSequenceEntryMappingEnd (p : Parser) : Except Error (Event × Parser) := do
  let (t, p) ← p.peek
  pure (⟨.mappingEnd, t.start, t.start⟩, { p with expecting := .flowSequenceEntry })

def flowMappingKey (p : Parser) (first : Bool) : Except Error (Event × Parser) := do
  let p ← p.openCollection first
  let (t, p) ← p.peek
  match t.kind with
  | .flowMappingEnd => finish t p
  | _ =>
    let (t, p) ←
      if first then pure (t, p)
      else match t.kind with
        | .flowEntry => p.take.peek
        | _ =>
          let (m, _) := p.popMark
          throw (Error.within "while parsing a flow mapping" m "did not find expected ',' or '\x7d'" t.start)
    match t.kind with
    | .key =>
      let p := p.take
      let (t2, p) ← p.peek
      match t2.kind with
      | .value | .flowEntry | .flowMappingEnd => pure (emptyScalar t2.start, { p with expecting := .flowMappingValue })
      | _ => (p.push .flowMappingValue).node false false
    | .flowMappingEnd => finish t p
    | _ => (p.push .flowMappingEmptyValue).node false false
where
  finish (t : Token) (p : Parser) : Except Error (Event × Parser) :=
    let (_, p) := p.popMark
    .ok (⟨.mappingEnd, t.start, t.stop⟩, p.pop.take)

def flowMappingValue (p : Parser) (empty : Bool) : Except Error (Event × Parser) := do
  let (t, p) ← p.peek
  if empty then return (emptyScalar t.start, { p with expecting := .flowMappingKey })
  match t.kind with
  | .value =>
    let p := p.take
    let (t2, p) ← p.peek
    match t2.kind with
    | .flowEntry | .flowMappingEnd => pure (emptyScalar t2.start, { p with expecting := .flowMappingKey })
    | _ => (p.push .flowMappingKey).node false false
  | _ => pure (emptyScalar t.start, { p with expecting := .flowMappingKey })

def next (p : Parser) : Except Error (Option (Event × Parser)) :=
  let some' (r : Except Error (Event × Parser)) : Except Error (Option (Event × Parser)) := r.map some
  match p.expecting with
  | .streamStart => some' do
    let (t, p) ← p.peek
    match t.kind with
    | .streamStart => pure (⟨.streamStart, t.start, t.start⟩, { p.take with expecting := .implicitDocumentStart })
    | _ => throw { problem := "did not find expected <stream-start>", mark := t.start }
  | .implicitDocumentStart => some' (p.documentStart true)
  | .documentStart => some' (p.documentStart false)
  | .documentContent => some' p.documentContent
  | .documentEnd => some' p.documentEnd
  | .blockNode => some' (p.node true false)
  | .blockNodeOrIndentlessSequence => some' (p.node true true)
  | .flowNode => some' (p.node false false)
  | .blockSequenceFirstEntry => some' (p.blockSequenceEntry true)
  | .blockSequenceEntry => some' (p.blockSequenceEntry false)
  | .indentlessSequenceEntry => some' p.indentlessSequenceEntry
  | .blockMappingFirstKey => some' (p.blockMappingKey true)
  | .blockMappingKey => some' (p.blockMappingKey false)
  | .blockMappingValue => some' p.blockMappingValue
  | .flowSequenceFirstEntry => some' (p.flowSequenceEntry true)
  | .flowSequenceEntry => some' (p.flowSequenceEntry false)
  | .flowSequenceEntryMappingKey => some' p.flowSequenceEntryMappingKey
  | .flowSequenceEntryMappingValue => some' p.flowSequenceEntryMappingValue
  | .flowSequenceEntryMappingEnd => some' p.flowSequenceEntryMappingEnd
  | .flowMappingFirstKey => some' (p.flowMappingKey true)
  | .flowMappingKey => some' (p.flowMappingKey false)
  | .flowMappingValue => some' (p.flowMappingValue false)
  | .flowMappingEmptyValue => some' (p.flowMappingValue true)
  | .finished => .ok none

end Parser

end KeystrokeTally.Yaml
