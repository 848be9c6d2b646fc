import KeystrokeTally.Tally.Store

namespace KeystrokeTally.Tally

open Classify (GroupId)

/-- The statements the database store runs on its counter table: the keyed upsert, the count of
one bucket start and group, the rows of a range of bucket starts, the sum per group and the
number of rows. -/
class CounterTable (τ : Type) where
  empty : τ
  upsert : τ → (bucket bucketEnd group delta : Int) → τ
  countFor : τ → (bucket group : Int) → Except ReadError (Option Int)
  between : τ → (lo hi : Int) → Except ReadError (List (Int × Int × Int × Int))
  totals : τ → Except ReadError (List (Int × Int))
  rowCount : τ → Nat

instance : CounterTable CounterFile where
  empty := {}
  upsert := CounterFile.upsert
  countFor := CounterFile.countFor
  between := CounterFile.between
  totals := CounterFile.totals
  rowCount := CounterFile.rowCount

structure Database (τ : Type) where
  clusterSize : Int
  table : τ

namespace Database

section Statements

variable {τ : Type} [CounterTable τ]

def inMemory (clusterSize : Int) : Except StoreError (Database τ) := do
  pure { clusterSize := ← checkClusterSize clusterSize, table := CounterTable.empty }

/-- Adds `delta` to the row of a bucket start and group, creating it when missing; the row's
bucket end is a checked word sum. -/
def upsert (db : Database τ) (bucket : Int) (group : GroupId) (delta : Int) :
    Except Fault (Except StoreError (Database τ)) := do
  let bucketEnd ← Word.add bucket db.clusterSize
  pure (.ok { db with table := CounterTable.upsert db.table bucket bucketEnd group delta })

def readFailure {α : Type} (r : Except ReadError α) : Except StoreError α :=
  r.mapError fun e => .database (.read e)

def countFor (db : Database τ) (bucket : Int) (group : GroupId) : Except StoreError (Option Int) :=
  readFailure (CounterTable.countFor db.table bucket group)

def between (db : Database τ) (lo hi : Int) : Except StoreError (List (Int × Int × Int × Int)) :=
  readFailure (CounterTable.between db.table lo hi)

def totals (db : Database τ) : Except StoreError (List (GroupId × Int)) :=
  readFailure (CounterTable.totals db.table)

def rowCount (db : Database τ) : Nat := CounterTable.rowCount db.table

end Statements

/-- Opens the database file at `path`, creating it and its parent directories when missing.
Returns the database and the directory tree with the file in place. -/
def openAt (d : Disk.Tree) (path : String) (clusterSize : Int) :
    Except StoreError (Database CounterFile × Disk.Tree) := do
  let clusterSize ← checkClusterSize clusterSize
  let d ← match Disk.Tree.parentText path with
    | some parent =>
      match d.makeDirs parent with
      | .ok d => pure d
      | .error e => throw (StoreError.location parent e)
    | none => pure d
  let fresh : Except StoreError (Database CounterFile × Disk.Tree) :=
    match d.writeContent path (.counters {}) with
    | .ok d => pure ({ clusterSize, table := {} }, d)
    | .error _ => throw (.database (.cannotOpen path))
  match d.stat path with
  | .ok (.file (.counters t) _) => pure ({ clusterSize, table := t }, d)
  | .ok (.file (.text "") _) => fresh
  | .ok (.file (.text _) _) => throw (.database .notADatabase)
  | .ok (.dir _) => throw (.database (.cannotOpen path))
  | .error .notFound => fresh
  | .error _ => throw (.database (.cannotOpen path))

def saveAt (db : Database CounterFile) (d : Disk.Tree) (path : String) : Disk.Tree :=
  (d.writeContent path (.counters db.table)).toOption.getD d

def seedAt (d : Disk.Tree) (path : String) (clusterSize : Int) (writes : List (Int × GroupId × Int)) :
    Except Fault (Except StoreError Disk.Tree) := do
  match openAt d path clusterSize with
  | .error e => pure (.error e)
  | .ok (db, d) =>
    let db ← writes.foldlM (fun db (b, g, n) => do
      match ← db.upsert b g n with
      | .ok db => pure db
      | .error _ => pure db) db
    pure (.ok (db.saveAt d path))

end Database

instance {τ : Type} [CounterTable τ] : CounterStore (Database τ) where
  clusterSize := Database.clusterSize
  upsert := Database.upsert

end KeystrokeTally.Tally
