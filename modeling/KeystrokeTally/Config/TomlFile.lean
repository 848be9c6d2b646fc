import KeystrokeTally.Config.Schema
import KeystrokeTally.Format.Toml.Document

namespace KeystrokeTally.Config.TomlFile

open Toml (Error Node Scalar Table)

def unplaced (message : String) : Error := { message }

def Scalar.unexpected : Scalar → Unexpected
  | .integer i => .signed i
  | .float x => .float x
  | .boolean b => .bool b
  | .string s => .str s
  | .datetime _ => .map

def Node.unexpected : Node → Unexpected
  | .scalar v _ => Scalar.unexpected v
  | .array _ _ => .seq
  | .table _ _ _ => .map

def elementsInSequence (n : Nat) : String :=
  if n == 1 then "1 element in sequence" else toString n ++ " elements in sequence"

mutual

/-- Reads a pair's value as shape `s`. Every reader takes one unit of the fuel per call; the fuel
given is more than the calls a value can take. A diagnostic without a place is placed where the
value starts. -/
def fromNode : Nat → Shape → Node → Except Error Value
  | 0, _, n => .error (Error.at n.start "recursion limit exceeded")
  | d + 1, s, n =>
    let placed {α : Type} (r : Except Error α) : Except Error α := r.mapError (·.placeAt n.start)
    match s, n with
    | .option s, n => (fromNode d s n).map .some
    | .list s, .array items _ => placed ((fromNodes d s items).map .list)
    | .record r, .table pairs _ _ => placed (fromPairs d r [] pairs)
    | .record r, .array items _ => placed (fromItems d r 0 r.fields items)
    | .record r, .scalar (.datetime _) _ => placed ((r.complete []).mapError unplaced)
    | s, n => placed ((Shape.ofScalar false s (Node.unexpected n)).mapError unplaced)

def fromNodes : Nat → Shape → List Node → Except Error (List Value)
  | _, _, [] => .ok []
  | 0, _, _ :: _ => .ok []
  | d + 1, s, n :: ns => do
    let v ← fromNode d s n
    let vs ← fromNodes d s ns
    pure (v :: vs)

def fromPairs : Nat → Record → List (String × Value) → List (String × Node) → Except Error Value
  | _, r, given, [] => (r.complete given).mapError unplaced
  | 0, r, given, _ :: _ => (r.complete given).mapError unplaced
  | d + 1, r, given, (k, n) :: rest =>
    match r.field? k with
    | none => fromPairs d r given rest
    | some f =>
      if given.any (·.1 == f.name) then .error (unplaced (duplicateField f.name))
      else do
        let v ← fromNode d f.shape n
        fromPairs d r (given ++ [(f.name, v)]) rest

def fromItems : Nat → Record → Nat → List Field → List Node → Except Error Value
  | _, _, i, [], items =>
    if items.isEmpty then .ok (.record [])
    else .error (unplaced (invalidLength (i + items.length) (elementsInSequence i)))
  | 0, _, _, _ :: _, _ => .ok (.record [])
  | d + 1, r, i, f :: fs, items =>
    match items with
    | n :: ns => do
      let v ← fromNode d f.shape n
      let rest ← fromItems d r (i + 1) fs ns
      match rest with
      | .record more => pure (.record ((f.name, v) :: more))
      | other => pure other
    | [] =>
      match f.missingElement with
      | some v => do
        let rest ← fromItems d r (i + 1) fs []
        match rest with
        | .record more => pure (.record ((f.name, v) :: more))
        | other => pure other
      | none => .error (unplaced (invalidLength i r.expectingElements))

end

/-- A reader of tables: the pairs of the table being read, the pair whose value is next, how
many header keys are behind, the first table still to look at, the table whose header is being
extended, the end of the tables that belong to it, and whether it stands for an array of
tables. -/
structure Frame where
  values : List (String × Node) := []
  pending : Option (String × Node) := none
  depth : Nat
  cur : Nat := 0
  parent : Nat
  max : Nat
  array : Bool

def headerOf (ts : Array Table) (i : Nat) : List String := (ts[i]?.map (·.header)).getD []

def findTable (ts : Array Table) (p : Table → Bool) : Nat → Nat → Option Nat
  | 0, _ => none
  | fuel + 1, i =>
    match ts[i]? with
    | some t => if p t then some i else findTable ts p fuel (i + 1)
    | none => none

/-- The next key of a reader of tables: the next pair of its table, or the next header key of a
table extending it. -/
def nextKey : Nat → Frame → Array Table → Except Error (Option String × Frame × Array Table)
  | 0, f, ts => .ok (none, f, ts)
  | fuel + 1, f, ts =>
    if f.parent == f.max || f.cur == f.max then .ok (none, f, ts)
    else
      match f.values with
      | (k, n) :: rest => .ok (some k, { f with values := rest, pending := some (k, n) }, ts)
      | [] =>
        let pfx := (headerOf ts f.parent).take f.depth
        let within (t : Table) : Bool := pfx.isPrefixOf t.header && t.values.isSome
        match findTable ts within (f.max - f.cur) f.cur with
        | none => .ok (none, f, ts)
        | some pos =>
          let f := { f with cur := pos }
          let t := ts[pos]?.getD default
          if f.parent != pos && headerOf ts f.parent == t.header then
            .error (Error.at t.start ("redefinition of table `" ++ ".".intercalate t.header ++ "`"))
          else
            let f := if f.parent != pos && t.header.length < (headerOf ts f.parent).length then { f with parent := pos } else f
            if f.depth != t.header.length then
              .ok ((t.header[f.depth]?), { f with pending := none }, ts)
            else if t.array then .error (Error.at t.start "table redefined as array")
            else
              let ts := ts.set! pos { t with values := none }
              nextKey fuel { f with values := t.values.getD [] } ts

/-- The next element table of a reader standing for an array of tables: a reader of it, and
where the element after it starts. -/
def nextElement (f : Frame) (ts : Array Table) : Option (Frame × Nat) × Array Table :=
  if f.parent == f.max then (none, ts)
  else
    let header := headerOf ts f.parent
    let next := (findTable ts (fun t => t.header == header && t.array) (f.max - (f.parent + 1)) (f.parent + 1)).getD f.max
    let values := ((ts[f.parent]?).bind (·.values)).getD []
    let ts := match ts[f.parent]? with
      | some t => ts.set! f.parent { t with values := none }
      | none => ts
    (some ({ values, depth := f.depth + 1, parent := f.parent, max := next, array := false }, next), ts)

mutual

def fromFrame : Nat → Option Shape → Frame → Array Table → Except Error (Value × Array Table)
  | 0, _, _, _ => .error (unplaced "recursion limit exceeded")
  | d + 1, target, f, ts =>
    match target with
    | none => if f.array then skipElements d f ts else skipEntries d f ts
    | some (.option s) => do
      let (v, ts) ← fromFrame d (some s) f ts
      pure (.some v, ts)
    | some (.record r) =>
      if f.array then readFieldElements d r 0 r.fields f ts [] else readFieldEntries d r f ts []
    | some (.list e) =>
      if f.array then do
        let (vs, ts) ← readElements d e f ts
        pure (.list vs, ts)
      else .error (unplaced (invalidType false .map (Shape.list e).expecting))
    | some s => .error (unplaced (invalidType false (if f.array then .seq else .map) s.expecting))

def nextValue : Nat → Option Shape → Frame → Array Table → Except Error (Value × Frame × Array Table)
  | 0, _, f, ts => .ok (.none, f, ts)
  | d + 1, target, f, ts =>
    match f.pending with
    | some (k, n) =>
      let f := { f with pending := none }
      match target with
      | none => .ok (.none, f, ts)
      | some s => (fromNode d s n).mapError (·.under k) |>.map (·, f, ts)
    | none =>
      let t := ts[f.cur]?.getD default
      let key := (t.header[f.depth]?).getD ""
      let array := t.array && f.depth + 1 == t.header.length
      let sub : Frame :=
        { depth := f.depth + (if array then 0 else 1), parent := f.cur, max := f.max, array }
      let f := { f with cur := f.cur + 1 }
      match fromFrame d target sub ts with
      | .ok (v, ts) => .ok (v, f, ts)
      | .error e => .error (e.under key)

def readFieldEntries : Nat → Record → Frame → Array Table → List (String × Value) →
    Except Error (Value × Array Table)
  | 0, r, _, ts, given => (r.complete given).mapError unplaced |>.map (·, ts)
  | d + 1, r, f, ts, given => do
    let (key, f, ts) ← nextKey (ts.size + f.values.length + 2) f ts
    match key with
    | none => ((r.complete given).mapError unplaced).map (·, ts)
    | some k =>
      match r.field? k with
      | none => do
        let (_, f, ts) ← nextValue d none f ts
        readFieldEntries d r f ts given
      | some fld =>
        if given.any (·.1 == fld.name) then .error (unplaced (duplicateField fld.name))
        else do
          let (v, f, ts) ← nextValue d (some fld.shape) f ts
          readFieldEntries d r f ts (given ++ [(fld.name, v)])

def readFieldElements : Nat → Record → Nat → List Field → Frame → Array Table →
    List (String × Value) → Except Error (Value × Array Table)
  | _, _, _, [], _, ts, given => .ok (.record given, ts)
  | 0, _, _, _, _, ts, given => .ok (.record given, ts)
  | d + 1, r, i, fld :: fs, f, ts, given =>
    match nextElement f ts with
    | (some (ef, next), ts) => do
      let (v, ts) ← fromFrame d (some fld.shape) ef ts
      readFieldElements d r (i + 1) fs { f with parent := next } ts (given ++ [(fld.name, v)])
    | (none, ts) =>
      match fld.missingElement with
      | some v => readFieldElements d r (i + 1) fs f ts (given ++ [(fld.name, v)])
      | none => .error (unplaced (invalidLength i r.expectingElements))

def readElements : Nat → Shape → Frame → Array Table → Except Error (List Value × Array Table)
  | 0, _, _, ts => .ok ([], ts)
  | d + 1, s, f, ts =>
    match nextElement f ts with
    | (none, ts) => .ok ([], ts)
    | (some (ef, next), ts) => do
      let (v, ts) ← fromFrame d (some s) ef ts
      let (vs, ts) ← readElements d s { f with parent := next } ts
      pure (v :: vs, ts)

def skipEntries : Nat → Frame → Array Table → Except Error (Value × Array Table)
  | 0, _, ts => .ok (.none, ts)
  | d + 1, f, ts => do
    let (key, f, ts) ← nextKey (ts.size + f.values.length + 2) f ts
    match key with
    | none => pure (.none, ts)
    | some _ => do
      let (_, f, ts) ← nextValue d none f ts
      skipEntries d f ts

def skipElements : Nat → Frame → Array Table → Except Error (Value × Array Table)
  | 0, _, ts => .ok (.none, ts)
  | d + 1, f, ts =>
    match nextElement f ts with
    | (none, ts) => .ok (.none, ts)
    | (some (ef, next), ts) => do
      let (_, ts) ← fromFrame d none ef ts
      skipElements d { f with parent := next } ts

end

/-- Reads a configuration from TOML text. A diagnostic without a place is placed where the last
table of the text starts. -/
def read (text : String) : Except Error Value := do
  let ts ← Toml.tables text
  let root : Frame := { depth := 0, parent := 0, max := ts.size, array := false }
  match fromFrame (8 * text.length + 64) (some (.record .settings)) root ts with
  | .ok (v, _) => pure v
  | .error e => throw (match ts.back? with
    | some t => e.placeAt t.start
    | none => e)

end KeystrokeTally.Config.TomlFile
