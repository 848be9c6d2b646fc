import KeystrokeTally.Proofs.Graph.Sweep
import KeystrokeTally.Proofs.Monitor.Tables
import KeystrokeTally.Replay.Source

namespace KeystrokeTally

open Proc Proc.Graph

/-- How far the replay thread is in applying a process record: the table's half is done and
the graph's half is next. -/
inductive ReplayAt where
  | ready
  | upserting (e : Entry)
  | removing (p : Pid)
  deriving DecidableEq

/-- How far the monitor is in a sync pass: enumerated and about to refresh, checking the stale
pids one by one, or about to remove one it found gone. -/
inductive SyncAt where
  | idle
  | refreshing (es : List Entry)
  | checking (stale : List Pid)
  | removing (p : Pid) (stale : List Pid)
  deriving DecidableEq

def SyncAt.isRemoving : SyncAt → Bool
  | .removing _ _ => true
  | _ => false

/-- The two threads. -/
inductive Thread where
  | replay
  | monitor
  deriving DecidableEq

/-- The replay thread and the monitor, sharing the process table and the graph of a scene. The
monitor reads the table alone, or as the declared table over a host source. -/
structure Race where
  host : Option Source
  disk : Disk.Tree
  scene : Scene
  records : List Replay.Record
  replayAt : ReplayAt := .ready
  syncAt : SyncAt := .idle

namespace Race

def source (s : Race) : Source :=
  match s.host with
  | none => .table s.scene.processes
  | some h => .layered h s.scene.processes

def alive (s : Race) : Pid → Bool := s.source.alive s.disk

/-- One atomic step of the replay thread: the graph's half of a process record, or the next
record, whose table half it applies. Other records leave the table and the graph alone. -/
def replayStep (s : Race) : Race :=
  match s.replayAt with
  | .upserting e => { s with scene := { s.scene with graph := (s.scene.graph.upsert e).1 }, replayAt := .ready }
  | .removing p =>
    { s with scene := { s.scene with graph := (s.scene.graph.remove p s.scene.processes.has).1 }, replayAt := .ready }
  | .ready =>
    match s.records with
    | [] => s
    | r :: rest =>
      match r with
      | .process p q n =>
        { s with
          scene := { s.scene with processes := s.scene.processes.insert ⟨p, q, n⟩ }
          records := rest
          replayAt := .upserting ⟨p, q, n⟩ }
      | .processExit p =>
        { s with
          scene := { s.scene with processes := (s.scene.processes.kill p).1 }
          records := rest
          replayAt := .removing p }
      | r => { s with scene := (Replay.Reader.apply 0 s.scene r).1, records := rest }

def monitorStep (s : Race) : Race :=
  match s.syncAt with
  | .idle =>
    match s.source.enumerate s.disk with
    | .ok (es, _) => { s with syncAt := .refreshing es }
    | .error _ => s
  | .refreshing es =>
    { s with
      scene := { s.scene with graph := (s.scene.graph.refresh es).1 }
      syncAt := .checking (s.scene.graph.refresh es).1.unseen }
  | .checking [] => { s with syncAt := .idle }
  | .checking (p :: ps) => if s.alive p then { s with syncAt := .checking ps } else { s with syncAt := .removing p ps }
  | .removing p ps => { s with scene := { s.scene with graph := (s.scene.graph.remove p s.alive).1 }, syncAt := .checking ps }

def step (s : Race) : Thread → Race
  | .replay => s.replayStep
  | .monitor => s.monitorStep

def start (host : Option Source) (disk : Disk.Tree) (records : List Replay.Record) : Race :=
  { host, disk, scene := {}, records }

def run (host : Option Source) (disk : Disk.Tree) (records : List Replay.Record) (sched : List Thread) : Race :=
  sched.foldl step (start host disk records)

/-- A schedule that never runs the replay thread between the monitor's check of a stale pid and
the removal it decides. -/
def guarded : Race → List Thread → Bool
  | _, [] => true
  | s, t :: ts => (t == .monitor || !s.syncAt.isRemoving) && guarded (s.step t) ts

def Quiet (s : Race) : Prop := s.replayAt = .ready ∧ s.syncAt = .idle

instance : DecidablePred Quiet := fun _ ↦ instDecidableAnd

variable {s : Race}

theorem alive_of_has {p : Pid} (hp : s.scene.processes.has p = true) : s.alive p = true := by
  unfold Race.alive Race.source
  split <;> simp [Source.alive, hp]

theorem replay_alone (s : Race) (r : Replay.Record) (rest : List Replay.Record) :
    ∃ n, replayStep^[n] { s with replayAt := .ready, records := r :: rest } =
      { s with scene := (Replay.Reader.apply 0 s.scene r).1, replayAt := .ready, records := rest } := by
  cases r with
  | process p q n => exact ⟨2, rfl⟩
  | processExit p => exact ⟨2, rfl⟩
  | window w c o => exact ⟨1, rfl⟩
  | keyPress w t => exact ⟨1, rfl⟩
  | destroyNotify w => exact ⟨1, rfl⟩
  | focusIn w => exact ⟨1, rfl⟩

theorem monitor_checks : ∀ (ps : List Pid) (s : Race), ∃ n, monitorStep^[n] { s with syncAt := .checking ps } =
    { s with scene := { s.scene with graph := sweep s.alive ps s.scene.graph }, syncAt := .idle }
  | [], s => ⟨1, rfl⟩
  | p :: ps, s => by
    by_cases hp : s.alive p = true
    · have h1 : monitorStep { s with syncAt := .checking (p :: ps) } = { s with syncAt := .checking ps } :=
        if_pos hp
      obtain ⟨n, hn⟩ := monitor_checks ps s
      refine ⟨n + 1, ?_⟩
      rw [Function.iterate_succ_apply, h1, hn]
      simp only [sweep, List.foldl_cons, hp, if_true]
    · have h1 : monitorStep { s with syncAt := .checking (p :: ps) } = { s with syncAt := .removing p ps } :=
        if_neg hp
      obtain ⟨n, hn⟩ := monitor_checks ps { s with scene := { s.scene with graph := (s.scene.graph.remove p s.alive).1 } }
      refine ⟨n + 2, ?_⟩
      rw [Function.iterate_add_apply, Function.iterate_succ_apply, Function.iterate_one, h1]
      exact hn.trans (by simp only [sweep, List.foldl_cons, hp, Bool.false_eq_true, if_false]; rfl)

theorem monitor_alone (hs : s.syncAt = .idle) (stats : Stats.Counters) {es : List Entry} {k : Nat}
    (hen : s.source.enumerate s.disk = .ok (es, k)) :
    ∃ n G stats' report, sync s.disk s.source s.scene.graph stats = .ok (G, stats', report, k) ∧
      monitorStep^[n] s = { s with scene := { s.scene with graph := G } } := by
  obtain ⟨stats', hsync⟩ := sync_eq s.scene.graph stats hen
  obtain ⟨n, hn⟩ := monitor_checks (s.scene.graph.refresh es).1.unseen
    { s with scene := { s.scene with graph := (s.scene.graph.refresh es).1 } }
  refine ⟨n + 2, _, stats', _, hsync, ?_⟩
  have h1 : monitorStep s = { s with syncAt := .refreshing es } := by
    simp only [monitorStep, hs, hen]
  rw [Function.iterate_add_apply, Function.iterate_succ_apply, Function.iterate_one, h1]
  refine hn.trans ?_
  rcases s with ⟨host, disk, scene, records, replayAt, syncAt⟩
  cases hs
  rfl

theorem apply_keeps (c : Int) (sc : Scene) (r : Replay.Record) (hnp : ∀ p q n, r = .process p q n → False)
    (hne : ∀ p, r = .processExit p → False) :
    (Replay.Reader.apply c sc r).1.processes = sc.processes ∧ (Replay.Reader.apply c sc r).1.graph = sc.graph := by
  cases r with
  | process p q n => exact (hnp p q n rfl).elim
  | processExit p => exact (hne p rfl).elim
  | window => exact ⟨rfl, rfl⟩
  | keyPress => exact ⟨rfl, rfl⟩
  | destroyNotify => exact ⟨rfl, rfl⟩
  | focusIn => exact ⟨rfl, rfl⟩

/-- What every state of a guarded schedule keeps: the graph is reachable; each pid of the table is
tracked, or the replay thread is about to insert it; a pid the replay thread is about to remove
has left the table; and a pid the monitor is about to remove is reported gone. -/
structure Safe (s : Race) : Prop where
  reachable : Reachable s.scene.graph
  tracked : ∀ p, s.scene.processes.has p = true →
    (s.scene.graph.index[p]?).isSome ∨ ∃ e, s.replayAt = .upserting e ∧ e.pid = p
  exiting : ∀ p, s.replayAt = .removing p → s.scene.processes.has p = false
  removing : ∀ p ps, s.syncAt = .removing p ps → s.alive p = false

theorem safe_start (host : Option Source) (disk : Disk.Tree) (records : List Replay.Record) :
    (start host disk records).Safe := by
  refine ⟨.empty, fun p hp ↦ ?_, fun _ h ↦ (by cases h), fun _ _ h ↦ (by cases h)⟩
  simp [start, Table.has] at hp

theorem Safe.replayStep (hs : s.Safe) (hr : s.syncAt.isRemoving = false) : s.replayStep.Safe := by
  have hnot : ∀ p ps, s.syncAt ≠ .removing p ps := fun p ps h ↦ by rw [h] at hr; cases hr
  obtain ⟨hreach, htr, hexit, -⟩ := hs
  unfold Race.replayStep
  split
  case h_1 e he =>
    have hins := inserted_upsert (e := e) hreach.consistent
    refine ⟨.step (.upsert e) hreach, fun p hp ↦ Or.inl ?_, fun _ h ↦ (by cases h), fun p ps h ↦ absurd h (hnot p ps)⟩
    rcases htr p hp with htp | ⟨e', he', rfl⟩
    · obtain ⟨x, hx⟩ := Option.isSome_iff_exists.mp htp
      exact Option.isSome_iff_exists.mpr ⟨x, hins.index_mono hx⟩
    · rw [he] at he'
      cases he'
      exact Option.isSome_iff_exists.mpr ⟨_, hins.index_self⟩
  case h_2 p hp =>
    refine ⟨.step (.remove p _) hreach, fun q hq ↦ Or.inl ?_, fun _ h ↦ (by cases h), fun p ps h ↦ absurd h (hnot p ps)⟩
    have hqp : q ≠ p := fun h ↦ by rw [h, hexit p hp] at hq; cases hq
    rw [index_remove_alive hq _ _ hqp]
    rcases htr q hq with htq | ⟨e, he, -⟩
    · exact htq
    · rw [hp] at he
      cases he
  case h_3 hready =>
    have htr' : ∀ p, s.scene.processes.has p = true → (s.scene.graph.index[p]?).isSome := fun p hp ↦
      (htr p hp).resolve_right fun ⟨e, he, _⟩ ↦ by rw [hready] at he; cases he
    split
    · exact ⟨hreach, htr, hexit, fun p ps h ↦ absurd h (hnot p ps)⟩
    · split
      · refine ⟨hreach, fun q hq ↦ ?_, fun _ h ↦ (by cases h), fun p ps h ↦ absurd h (hnot p ps)⟩
        rcases Table.has_insert.mp hq with hq | hq
        · exact Or.inl (htr' q hq)
        · exact Or.inr ⟨_, rfl, hq⟩
      · refine ⟨hreach, fun q hq ↦ Or.inl (htr' q (Table.has_kill.mp hq).1), fun q h ↦ ?_,
          fun p ps h ↦ absurd h (hnot p ps)⟩
        cases h
        exact Bool.eq_false_iff.mpr fun hq ↦ (Table.has_kill.mp hq).2 rfl
      · rename_i r rest _ _ hnp hne
        obtain ⟨hP, hG⟩ := apply_keeps 0 s.scene r hnp hne
        refine ⟨?_, fun p hp ↦ Or.inl ?_, fun _ h ↦ (by cases hready.symm.trans h), fun p ps h ↦ absurd h (hnot p ps)⟩
        · show Reachable (Replay.Reader.apply 0 s.scene r).1.graph
          rw [hG]
          exact hreach
        · show ((Replay.Reader.apply 0 s.scene r).1.graph.index[p]?).isSome
          rw [hG]
          exact htr' p (hP ▸ hp)

theorem Safe.monitorStep (hs : s.Safe) : s.monitorStep.Safe := by
  obtain ⟨hreach, htr, hexit, hrem⟩ := hs
  unfold Race.monitorStep
  split
  case h_1 =>
    split
    · exact ⟨hreach, htr, hexit, fun _ _ h ↦ (by cases h)⟩
    · exact ⟨hreach, htr, hexit, hrem⟩
  case h_2 es _ =>
    have hk : Kept s.scene.graph (s.scene.graph.refresh es).1 := hreach.consistent.kept_refresh
    refine ⟨.step (.refresh es) hreach, fun p hp ↦ ?_, hexit, fun _ _ h ↦ (by cases h)⟩
    rcases htr p hp with htp | hpend
    · obtain ⟨x, hx⟩ := Option.isSome_iff_exists.mp htp
      exact Or.inl (Option.isSome_iff_exists.mpr ⟨x, hk.index_mono hx⟩)
    · exact Or.inr hpend
  case h_3 => exact ⟨hreach, htr, hexit, fun _ _ h ↦ (by cases h)⟩
  case h_4 p ps _ =>
    split
    case isTrue => exact ⟨hreach, htr, hexit, fun _ _ h ↦ (by cases h)⟩
    case isFalse hp =>
      refine ⟨hreach, htr, hexit, fun q qs h ↦ ?_⟩
      cases h
      exact Bool.eq_false_iff.mpr hp
  case h_5 p ps hsync =>
    refine ⟨.step (.remove p _) hreach, fun q hq ↦ ?_, hexit, fun _ _ h ↦ (by cases h)⟩
    have hqp : q ≠ p := fun h ↦ by
      have := alive_of_has (s := s) hq
      rw [h, hrem p ps hsync] at this
      cases this
    rcases htr q hq with htq | hpend
    · exact Or.inl (by rw [index_remove_alive (alive_of_has (s := s) hq) _ _ hqp]; exact htq)
    · exact Or.inr hpend

theorem Safe.run : ∀ (sched : List Thread) (s : Race), s.Safe → guarded s sched = true →
    (sched.foldl step s).Safe
  | [], _, hs, _ => hs
  | t :: ts, s, hs, hg => by
    simp only [guarded, Bool.and_eq_true, Bool.or_eq_true, beq_iff_eq, Bool.not_eq_true'] at hg
    obtain ⟨ht, hg⟩ := hg
    refine Safe.run ts _ ?_ hg
    cases t with
    | replay => exact hs.replayStep (ht.resolve_left (by decide))
    | monitor => exact hs.monitorStep

end Race

open Race

/-- When no replay step lands between the monitor's check of a stale pid and its removal, every
pid of the process table is tracked by the graph whenever neither thread is part-way through an
operation, for every record stream and every interleaving of any number of sync passes. -/
theorem guarded_sync_keeps_declared (host : Option Proc.Source) (disk : Disk.Tree)
    (records : List Replay.Record) (sched : List Thread) (hg : guarded (start host disk records) sched = true)
    (hq : (run host disk records sched).Quiet) (p : Proc.Pid)
    (hp : (run host disk records sched).scene.processes.has p = true) :
    ((run host disk records sched).scene.graph.index[p]?).isSome := by
  have hs : (run host disk records sched).Safe := Safe.run sched _ (safe_start host disk records) hg
  rcases hs.tracked p hp with htp | ⟨e, he, -⟩
  · exact htp
  · rw [hq.1] at he
    cases he

theorem guarded_sync_keeps_redeclared :
    let records : List Replay.Record := [.process 2 1 "child", .processExit 2, .process 1 0 "parent"]
    let sched : List Thread :=
      [.replay, .replay, .replay, .replay, .monitor, .monitor, .monitor, .monitor, .replay, .replay, .monitor]
    guarded (start none .empty records) sched = true ∧ (run none .empty records sched).Quiet ∧
      (run none .empty records sched).scene.processes.has 1 = true ∧
      ((run none .empty records sched).scene.graph.index[(1 : Proc.Pid)]?).isSome := by
  intro records sched
  have hg : guarded (start none .empty records) sched = true := by decide
  have hq : (run none .empty records sched).Quiet := by decide
  have hp : (run none .empty records sched).scene.processes.has 1 = true := by decide
  exact ⟨hg, hq, hp, guarded_sync_keeps_declared none .empty records sched hg hq 1 hp⟩

/-- A declared process lost to a sync pass: a child declared under an unknown parent leaves a
placeholder for the parent when it exits; a pass finds the placeholder stale and checks it gone,
the parent is then declared, and the removal the check decided takes the parent out. Both
threads are then at rest, the table lists the parent and the graph does not. -/
theorem sync_race_drops_declared :
    let s := run none .empty [.process 2 1 "child", .processExit 2, .process 1 0 "parent"]
      [.replay, .replay, .replay, .replay, .monitor, .monitor, .monitor, .replay, .replay, .monitor, .monitor]
    s.Quiet ∧ s.scene.processes.has 1 = true ∧ s.scene.graph.index[(1 : Proc.Pid)]? = none := by
  decide

end KeystrokeTally
