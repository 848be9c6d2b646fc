import Std.Data.TreeMap
import KeystrokeTally.Tally.CounterFile

namespace KeystrokeTally.Disk

/-- Why a file-system call failed. -/
inductive IoError where
  | notFound
  | notADirectory
  | isADirectory
  | alreadyExists
  | invalidText
  deriving DecidableEq, Repr

namespace IoError

def code? : IoError → Option Nat
  | .notFound => some 2
  | .notADirectory => some 20
  | .isADirectory => some 21
  | .alreadyExists => some 17
  | .invalidText => none

def text : IoError → String
  | .notFound => "No such file or directory"
  | .notADirectory => "Not a directory"
  | .isADirectory => "Is a directory"
  | .alreadyExists => "File exists"
  | .invalidText => "stream did not contain valid UTF-8"

def kind : IoError → String
  | .notFound => "NotFound"
  | .notADirectory => "NotADirectory"
  | .isADirectory => "IsADirectory"
  | .alreadyExists => "AlreadyExists"
  | .invalidText => "InvalidData"

def message (e : IoError) : String :=
  match e.code? with
  | some c => e.text ++ " (os error " ++ toString c ++ ")"
  | none => e.text

def dump (e : IoError) : String :=
  match e.code? with
  | some c => "Os \x7b code: " ++ toString c ++ ", kind: " ++ e.kind ++ ", message: \"" ++ e.text ++ "\" \x7d"
  | none => "Custom \x7b kind: " ++ e.kind ++ ", error: \"" ++ e.text ++ "\" \x7d"

end IoError

/-- What a file holds: text, or the counter table of a database. -/
inductive Content where
  | text (s : String)
  | counters (t : Tally.CounterFile)

/-- A file or a directory, with its permission bits. -/
inductive Item where
  | file (content : Content) (mode : Nat)
  | dir (mode : Nat)

def Item.mode : Item → Nat
  | .file _ m => m
  | .dir m => m

def Item.isDir : Item → Bool
  | .dir _ => true
  | .file _ _ => false

def Item.readonly (i : Item) : Bool :=
  i.mode % 512 / 128 % 2 == 0 && i.mode % 128 / 16 % 2 == 0 && i.mode % 16 / 2 % 2 == 0

def workName : String := "<dir>"

def components (path : String) : List String :=
  let parts := ((path.toList.splitOn '/').map String.ofList).filter fun c => c != "" && c != "."
  let start : List String :=
    if path.toList.head? == some '/' then []
    else if parts.head? == some workName then []
    else [workName]
  (parts.foldl (fun acc c => if c == ".." then acc.dropLast else acc ++ [c]) start)

def keyOf (cs : List String) : String :=
  "/" ++ "/".intercalate cs

/-- A directory tree. -/
structure Tree where
  items : Std.TreeMap String Item compare

namespace Tree

def empty : Tree :=
  ⟨((∅ : Std.TreeMap String Item compare).insert "/" (.dir 0o755)).insert (keyOf [workName]) (.dir 0o755)⟩

instance : Inhabited Tree := ⟨empty⟩

def at? (t : Tree) (cs : List String) : Option Item := t.items[keyOf cs]?

def stat (t : Tree) (path : String) : Except IoError Item :=
  let cs := components path
  let rec walk : List String → List String → Except IoError Item
    | _, [] => match t.at? [] with
      | some i => .ok i
      | none => .error .notFound
    | done, [c] => match t.at? (done ++ [c]) with
      | some i => .ok i
      | none => .error .notFound
    | done, c :: rest => match t.at? (done ++ [c]) with
      | some (.dir _) => walk (done ++ [c]) rest
      | some (.file _ _) => .error .notADirectory
      | none => .error .notFound
  walk [] cs

def exists? (t : Tree) (path : String) : Bool :=
  (t.stat path).toOption.isSome

def readText (t : Tree) (path : String) : Except IoError String :=
  match t.stat path with
  | .ok (.file (.text s) _) => .ok s
  | .ok (.file (.counters _) _) => .error .invalidText
  | .ok (.dir _) => .error .isADirectory
  | .error e => .error e

def list (t : Tree) (path : String) : Except IoError (List String) :=
  match t.stat path with
  | .ok (.dir _) =>
    let cs := components path
    let n := cs.length
    .ok ((t.items.keys.filterMap fun k =>
      let kc := components k
      if kc.length == n + 1 && kc.take n == cs then kc.getLast? else none))
  | .ok (.file _ _) => .error .notADirectory
  | .error e => .error e

def checkParent (t : Tree) (cs : List String) : Except IoError Unit :=
  match t.stat (keyOf cs.dropLast) with
  | .ok (.dir _) => .ok ()
  | .ok (.file _ _) => .error .notADirectory
  | .error e => .error e

def writeContent (t : Tree) (path : String) (c : Content) : Except IoError Tree := do
  let cs := components path
  checkParent t cs
  match t.at? cs with
  | some (.dir _) => .error .isADirectory
  | some (.file _ m) => pure ⟨t.items.insert (keyOf cs) (.file c m)⟩
  | none => pure ⟨t.items.insert (keyOf cs) (.file c 0o644)⟩

def writeText (t : Tree) (path : String) (s : String) : Except IoError Tree :=
  t.writeContent path (.text s)

def makeDirs (t : Tree) (path : String) : Except IoError Tree :=
  let cs := components path
  let rec go : List String → List String → Tree → Except IoError Tree
    | _, [], t => .ok t
    | done, c :: rest, t =>
      let here := done ++ [c]
      match t.at? here with
      | some (.dir _) => go here rest t
      | some (.file _ _) => .error (if rest.isEmpty then .alreadyExists else .notADirectory)
      | none => go here rest ⟨t.items.insert (keyOf here) (.dir 0o755)⟩
  go [] cs t

def setMode (t : Tree) (path : String) (mode : Nat) : Tree :=
  let cs := components path
  match t.at? cs with
  | some (.file c _) => ⟨t.items.insert (keyOf cs) (.file c mode)⟩
  | some (.dir _) => ⟨t.items.insert (keyOf cs) (.dir mode)⟩
  | none => t

def parentText (path : String) : Option String :=
  let trimmed := if path.length > 1 && path.endsWith "/" then String.ofList path.toList.dropLast else path
  match (trimmed.splitOn "/").dropLast with
  | [] => none
  | [""] => if trimmed == "/" then none else some "/"
  | parts => some ("/".intercalate parts)

/-- A file (with its text) or a directory (without) to lay down, with optional permission bits. -/
structure Seed where
  path : String
  content : Option String
  mode : Option Nat

/-- Lays down seeds in order, creating missing parents; permission bits are set once every seed
exists. A seed that cannot be laid down is skipped. -/
def plant (t : Tree) (seeds : List Seed) : Tree :=
  let put (t : Tree) (s : Seed) : Tree :=
    match s.content with
    | none => (t.makeDirs s.path).toOption.getD t
    | some text =>
      let t := match parentText s.path with
        | some p => (t.makeDirs p).toOption.getD t
        | none => t
      (t.writeText s.path text).toOption.getD t
  let t := seeds.foldl put t
  seeds.foldl (fun t s => match s.mode with | some m => t.setMode s.path m | none => t) t

def pathOfKey (k : String) : String :=
  match components k with
  | w :: rest => if w == workName then "/".intercalate rest else "/" ++ "/".intercalate (w :: rest)
  | [] => "/"

def textFiles (t : Tree) : List (String × String) :=
  t.items.toList.filterMap fun (k, i) =>
    match i with
    | .file (.text s) _ => some (pathOfKey k, s)
    | _ => none

def changedTexts (before after : Tree) : List (String × String) :=
  after.textFiles.filter fun (p, s) =>
    match before.readText p with
    | .ok old => old != s
    | .error _ => true

end Tree

end KeystrokeTally.Disk
