import KeystrokeTally.Proofs.Graph.Sweep
import KeystrokeTally.Proofs.Monitor.Tables

namespace KeystrokeTally.Proc

open Relation KeystrokeTally.Proc.Graph

/-- Which table a test changes. -/
inductive Side where
  | host
  | declared
  deriving DecidableEq, Repr

/-- A monitor reading tables in memory, with its graph and statistics. -/
structure Watch where
  layered : Bool
  host : Table := {}
  declared : Table := {}
  graph : Graph := .empty
  stats : Stats.Counters := {}

namespace Watch

def source (w : Watch) : Source :=
  if w.layered then .layered (.table w.host) w.declared else .table w.host

/-- A change of one table, or a sync pass. -/
inductive Step where
  | insert (side : Side) (e : Entry)
  | kill (side : Side) (p : Pid)
  | sync

def table (w : Watch) : Side → Table
  | .host => w.host
  | .declared => w.declared

def setTable (w : Watch) : Side → Table → Watch
  | .host, t => { w with host := t }
  | .declared, t => { w with declared := t }

def step (w : Watch) : Step → Watch
  | .insert side e => w.setTable side ((w.table side).insert e)
  | .kill side p => w.setTable side ((w.table side).kill p).1
  | .sync =>
    match sync .empty w.source w.graph w.stats with
    | .ok (g, stats, _, _) => { w with graph := g, stats }
    | .error (_, stats) => { w with stats }

def run (layered : Bool) (steps : List Step) : Watch := steps.foldl step { layered }

/-- What every reachable monitor keeps. -/
structure Good (w : Watch) : Prop where
  host : w.host.Keyed
  declared : w.declared.Keyed
  reachable : Reachable w.graph
  roots : ∀ q, w.graph.IsRootPid q ↔ q = rootPid

variable {w : Watch}

theorem Good.tabled (hw : w.Good) : w.source.Tabled := by
  unfold source
  split
  · exact .layered (.table hw.host) hw.declared
  · exact .table hw.host

theorem Good.setTable (hw : w.Good) (side : Side) {t : Table} (ht : t.Keyed) : (w.setTable side t).Good := by
  cases side
  · exact ⟨ht, hw.declared, hw.reachable, hw.roots⟩
  · exact ⟨hw.host, ht, hw.reachable, hw.roots⟩

theorem Good.table (hw : w.Good) : ∀ side, (w.table side).Keyed
  | .host => hw.host
  | .declared => hw.declared

theorem Good.step (hw : w.Good) : ∀ s, (w.step s).Good
  | .insert side e => hw.setTable side ((hw.table side).insert e)
  | .kill side p => hw.setTable side ((hw.table side).kill p)
  | .sync => by
    obtain ⟨es, hen, hnodup, halive⟩ := hw.tabled.enumerate .empty
    obtain ⟨stats', hsync⟩ := sync_eq w.graph w.stats hen
    have hroots := hw.reachable.consistent.isRootPid_sweep_refresh hw.reachable.stampsBounded hnodup
      (fun p ↦ (halive p).mp) hw.roots
    rw [Watch.step, hsync]
    exact ⟨hw.host, hw.declared, (Reachable.step (.refresh es) hw.reachable).sweep, hroots⟩

theorem good_run (layered : Bool) (steps : List Step) : (run layered steps).Good := by
  suffices h : ∀ w : Watch, w.Good → (steps.foldl step w).Good from
    h _ ⟨Table.keyed_empty, Table.keyed_empty, .empty, fun _ ↦ isRootPid_empty⟩
  induction steps with
  | nil => exact fun _ hw ↦ hw
  | cons s steps ih => exact fun w hw ↦ ih _ (hw.step s)

theorem run_append_sync (layered : Bool) (steps : List Step) :
    run layered (steps ++ [.sync]) = (run layered steps).step .sync := by
  rw [run, List.foldl_append, List.foldl_cons, List.foldl_nil]
  rfl

end Watch

open Watch

/-- After every run of table changes and sync passes from the empty graph, the next sync pass
succeeds. The graph it leaves tracks exactly the root's pid, the enumerated pids and the pids
above them by its own links; the root is its only root, and every enumerated pid but the root's
lies below it. The report counts the enumeration, the nodes left, and the stale pids of the
refresh, which are all gone; and every pid at or above an enumerated process after the refresh
keeps its node and its parent. -/
theorem sync_tracks_enumeration (layered : Bool) (steps : List Step) :
    let w := run layered steps
    ∃ es g' stats' report,
      w.source.enumerate .empty = .ok (es, 0) ∧
      sync .empty w.source w.graph w.stats = .ok (g', stats', report, 0) ∧
      (run layered (steps ++ [.sync])).graph = g' ∧
      (∀ q, q ∈ g'.pids ↔ q = rootPid ∨ (∃ e ∈ es, e.pid = q) ∨
        ∃ e ∈ es, TransGen (fun a b ↦ g'.parentOf a = some b) e.pid q) ∧
      g'.roots = [rootPid] ∧
      (∀ e ∈ es, e.pid ≠ rootPid → e.pid ∈ (g'.descendants rootPid).map Prod.fst) ∧
      report.enumerated = es.length ∧ report.tracked = g'.size ∧
      report.removed = (w.graph.refresh es).1.unseen.length ∧
      (∀ p ∈ (w.graph.refresh es).1.unseen, p ∉ g'.pids) ∧
      ∀ e ∈ es, ∀ q, ReflTransGen (fun a b ↦ (w.graph.refresh es).1.parentOf a = some b) e.pid q →
        g'.index[q]? = (w.graph.refresh es).1.index[q]? ∧
          g'.parentOf q = (w.graph.refresh es).1.parentOf q := by
  intro w
  have hw : w.Good := good_run layered steps
  obtain ⟨es, hen, hnodup, halive⟩ := hw.tabled.enumerate .empty
  obtain ⟨stats', hsync⟩ := sync_eq w.graph w.stats hen
  have hg := hw.reachable.consistent
  have hb := hw.reachable.stampsBounded
  have halive' : ∀ p, w.source.alive .empty p = true → ∃ e ∈ es, e.pid = p := fun p ↦ (halive p).mp
  obtain ⟨hg', -, -, hgone⟩ := hg.sweep_refresh halive'
  have hroots := hg.isRootPid_sweep_refresh hb hnodup halive' hw.roots
  have hmem : ∀ q, q ∈ (sweep (w.source.alive .empty) (w.graph.refresh es).1.unseen (w.graph.refresh es).1).pids ↔
      ((sweep (w.source.alive .empty) (w.graph.refresh es).1.unseen (w.graph.refresh es).1).index[q]?).isSome :=
    fun q ↦ by rw [pids, Std.TreeMap.mem_keys, Std.TreeMap.mem_iff_isSome_getElem?]
  refine ⟨es, _, stats', _, hen, hsync, ?_, fun q ↦ ?_, roots_eq_root hg'.arena hroots,
    fun e he hne ↦ hg'.mem_descendants_root hroots ((hmem _).mpr ?_) hne, rfl, rfl, ?_,
    fun p hp ↦ ?_, fun e he q hq ↦ hg.keeps_ancestors_sweep_refresh halive' he hq⟩
  · rw [run_append_sync, step, hsync]
  · rw [hmem, hg.tracked_sweep_refresh hb hnodup halive']
    simp only [reflTransGen_iff_eq_or_transGen, and_or_left, exists_or, eq_comm]
  · exact (hg.tracked_sweep_refresh hb hnodup halive' e.pid).mpr (Or.inr ⟨e, he, .refl⟩)
  · have hsize := hg.size_sweep_refresh hb hnodup halive'
    dsimp only
    omega
  · rw [hmem, hgone p hp]
    exact Bool.false_ne_true

/-- A host table listing the root's own pid: the sync pass enumerates it, yet does not list it
below the root, since `descendants` never lists the pid it starts from. -/
theorem root_entry_not_below_root :
    let w := run false [.insert .host ⟨rootPid, rootPid, "zero"⟩]
    ∃ es g' stats' report, w.source.enumerate .empty = .ok (es, 0) ∧ (∃ e ∈ es, e.pid = rootPid) ∧
      sync .empty w.source w.graph w.stats = .ok (g', stats', report, 0) ∧
      rootPid ∉ (g'.descendants rootPid).map Prod.fst := by
  intro w
  have hw : w.Good := good_run false _
  obtain ⟨es, hen, -, halive⟩ := hw.tabled.enumerate .empty
  obtain ⟨stats', hsync⟩ := sync_eq w.graph w.stats hen
  obtain ⟨hg', -⟩ := hw.reachable.consistent.sweep_refresh fun p ↦ (halive p).mp
  exact ⟨es, _, stats', _, hen, (halive rootPid).mp (by decide), hsync, hg'.not_mem_descendants rootPid⟩

end KeystrokeTally.Proc
