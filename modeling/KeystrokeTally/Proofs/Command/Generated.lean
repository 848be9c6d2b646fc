import KeystrokeTally.Command.Generate
import KeystrokeTally.Proofs.Graph.Leaf
import KeystrokeTally.Proofs.Config.Attribution
import KeystrokeTally.Proofs.Replay.Framing

namespace KeystrokeTally

open Classify (Tier Names)

namespace Config

/-- A group's first non-empty tier, trying terminal patterns, then process patterns, then window
classes, with its first pattern. -/
def GroupSpec.firstPattern (g : GroupSpec) : Option (Tier × String) :=
  match g.terminalProcesses.head?, g.processes.head?, g.windowClasses.head? with
  | some t, _, _ => some (.terminalDescendant, t)
  | none, some q, _ => some (.process, q)
  | none, none, some c => some (.windowClass, c)
  | none, none, none => none

/-- A group catches what a window shows tier `t`: one of its patterns of that tier names one of
the names. -/
def GroupSpec.Catches (g : GroupSpec) (t : Tier) (names : List String) : Prop :=
  ∃ p ∈ g.patterns t, ∃ n ∈ names, Names p n

/-- The names a generated window shows the tier that places it: the shell and the terminal
pattern it runs, or the pattern itself. -/
def shownNames : Tier → String → List String
  | .terminalDescendant, t => ["bash", t]
  | _, p => [p]

theorem mem_shownNames (t : Tier) (p : String) : p ∈ shownNames t p := by
  cases t <;> simp [shownNames]

theorem GroupSpec.firstPattern_mem {g : GroupSpec} {t : Tier} {p : String} (h : g.firstPattern = some (t, p)) :
    p ∈ g.patterns t := by
  unfold GroupSpec.firstPattern at h
  split at h <;> simp only [Option.some.injEq, Prod.mk.injEq, reduceCtorEq] at h
  all_goals
    obtain ⟨rfl, rfl⟩ := h
    exact List.mem_of_mem_head? (by assumption)

theorem GroupSpec.catches_firstPattern {g : GroupSpec} {t : Tier} {p : String} (h : g.firstPattern = some (t, p)) :
    g.Catches t (shownNames t p) :=
  ⟨p, g.firstPattern_mem h, p, mem_shownNames t p, rfl⟩

end Config

namespace Command

open Proc (Pid Graph rootPid)
open Config (GroupSpec)
open Replay (Record declare)

def Declared.scene (d : Declared) : Scene := d.records.foldl declare {}

section Group

variable {d : Declared} {g : GroupSpec} (w : Nat)

theorem Declared.group_terminal {t : String} (h : g.firstPattern = some (.terminalDescendant, t)) :
    (d.group g w).1 = { records := d.records ++ [.process d.nextPid 1 "xterm",
      .process (d.nextPid + 1) d.nextPid "bash", .process (d.nextPid + 2) (d.nextPid + 1) t,
      .window w "XTerm" (some (d.nextPid : Int))], nextPid := d.nextPid + 3 } := by
  unfold GroupSpec.firstPattern at h
  split at h <;> simp_all [Declared.group, Declared.spawn]

theorem Declared.group_process {q : String} (h : g.firstPattern = some (.process, q)) :
    (d.group g w).1 = { records := d.records ++ [.process d.nextPid 1 q,
      .window w (q ++ "-window") (some (d.nextPid : Int))], nextPid := d.nextPid + 1 } := by
  unfold GroupSpec.firstPattern at h
  split at h <;> simp_all [Declared.group, Declared.spawn]

theorem Declared.group_class {c : String} (h : g.firstPattern = some (.windowClass, c)) :
    (d.group g w).1 = { records := d.records ++ [.window w c none], nextPid := d.nextPid } := by
  unfold GroupSpec.firstPattern at h
  split at h <;> simp_all [Declared.group]

theorem Declared.group_none (h : g.firstPattern = none) : (d.group g w).1 = d := by
  unfold GroupSpec.firstPattern at h
  split at h <;> simp_all [Declared.group]

end Group

section Scene

variable {sc : Scene}

theorem Declared.scene_append (d : Declared) (rs : List Record) (n : Nat) :
    ({ records := d.records ++ rs, nextPid := n } : Declared).scene = rs.foldl declare d.scene := by
  simp [Declared.scene, List.foldl_append]

@[simp] theorem graph_declare_process (p q : Pid) (n : String) :
    (declare sc (.process p q n)).graph = (sc.graph.upsert ⟨p, q, n⟩).1 := rfl

@[simp] theorem windows_declare_process (p q : Pid) (n : String) :
    (declare sc (.process p q n)).windows = sc.windows := rfl

@[simp] theorem graph_declare_window (w : Window.Handle) (c : String) (o : Option Int) :
    (declare sc (.window w c o)).graph = sc.graph := rfl

theorem query?_declare_window (w : Window.Handle) (c : String) (o : Option Int) (w' : Window.Handle) :
    (declare sc (.window w c o)).windows.query? w' =
      if w = w' then some (Window.Metadata.make c (o.bind Window.ownerOfRaw)) else sc.windows.query? w' := by
  simp [declare, Scene.declareWindow, Window.Table.declare, Window.Table.query?, Graph.getElem?_insert_pid]

theorem make_owned (c : String) {o : Nat} (h0 : 0 < o) (hmax : o ≤ Word.maxPid) :
    Window.Metadata.make c ((some (o : Int)).bind Window.ownerOfRaw) = ⟨c, some o⟩ := by
  have hraw : Window.ownerOfRaw (o : Int) = some o := by
    simp [Window.ownerOfRaw, h0, hmax]
  simp [Window.Metadata.make, hraw, Nat.pos_iff_ne_zero.mp h0]

theorem make_ownerless (c : String) :
    Window.Metadata.make c ((none : Option Int).bind Window.ownerOfRaw) = ⟨c, none⟩ := rfl

end Scene

section Synthetic

variable {G : Graph} {N : Nat}

theorem contains_of_parentEdge {a b : Pid} (h : G.ParentEdge a b) : G.contains a = true := by
  cases hc : G.contains a with
  | true => rfl
  | false =>
    rw [Graph.ParentEdge, Graph.parentOf_of_contains_false hc] at h
    cases h

theorem contains_empty (q : Pid) : Graph.empty.contains q = true ↔ q = rootPid := by
  rw [Graph.contains_eq_isSome, Graph.index_empty]
  split <;> simp_all

/-- The process graph of generated declarations, `N` being the next free pid: consistent, tracking
the root, `init` and the synthetic pids below `N`, and with every parent edge going up to the
root or `init`, or to the pid just below. -/
structure Synthetic (G : Graph) (N : Nat) : Prop where
  consistent : G.Consistent
  start_le : firstSyntheticPid ≤ N
  tracked : ∀ q : Nat, G.contains q = true ↔ q = 0 ∨ q = 1 ∨ (firstSyntheticPid ≤ q ∧ q < N)
  edges : ∀ a b : Nat, G.ParentEdge a b → b ≤ 1 ∨ a = b + 1

theorem Synthetic.edge_lt (hs : Synthetic G N) {a b : Nat} (h : G.ParentEdge a b) : b ≤ 1 ∨ b + 1 < N := by
  have ha := (hs.tracked a).mp (contains_of_parentEdge h)
  rcases hs.edges a b h with hb | rfl
  · exact .inl hb
  · omega

theorem Synthetic.not_parentEdge_last {b : Nat} (hs : Synthetic G (b + 1)) (hb : 2 ≤ b) (a : Nat) :
    ¬ G.ParentEdge a b :=
  fun h ↦ by have := hs.edge_lt h; omega

theorem Synthetic.newLeaf (hs : Synthetic G N) {b : Nat} (hb : b = 1 ∨ (firstSyntheticPid ≤ b ∧ b + 1 = N))
    (n : String) : Graph.NewLeaf G ⟨N, b, n⟩ := by
  have hN := hs.start_le
  simp only [firstSyntheticPid] at hN hb
  refine ⟨show N ≠ 0 by omega, ?_, show b ≠ N by omega, ?_⟩
  · rw [Bool.eq_false_iff, ne_eq, hs.tracked]
    simp only [firstSyntheticPid]
    omega
  · rw [hs.tracked]
    simp only [firstSyntheticPid]
    omega

theorem Synthetic.spawn (hs : Synthetic G N) {b : Nat} (hb : b = 1 ∨ (firstSyntheticPid ≤ b ∧ b + 1 = N))
    (n : String) : Synthetic (G.upsert ⟨N, b, n⟩).1 (N + 1) := by
  have hf := hs.newLeaf hb n
  have hw := hs.consistent
  have hN := hs.start_le
  refine ⟨(Graph.inserted_upsert hw).consistent, by omega, fun q ↦ ?_, fun a c hac ↦ ?_⟩
  · rw [hw.contains_upsert_fresh hf, hs.tracked]
    show _ ∨ (q : Nat) = N ↔ _
    omega
  · rcases (hw.parentEdge_upsert_fresh hf a c).mp hac with hold | ⟨ha, hc⟩
    · exact hs.edges a c hold
    · rw [ha, hc]
      show b ≤ 1 ∨ N = b + 1
      omega

section Spawn

variable {sc : Scene} (hs : Synthetic sc.graph N) {b : Nat} (hb : b = 1 ∨ (firstSyntheticPid ≤ b ∧ b + 1 = N))
  (n : String)
include hs hb

theorem Synthetic.declare_spawn : Synthetic (declare sc (.process N b n)).graph (N + 1) :=
  hs.spawn hb n

theorem Synthetic.parentEdge_spawn : (declare sc (.process N b n)).graph.ParentEdge N b :=
  (hs.consistent.parentEdge_upsert_fresh (hs.newLeaf hb n) N b).mpr (.inr ⟨rfl, rfl⟩)

theorem Synthetic.nameOf_spawn : (declare sc (.process N b n)).graph.nameOf N = n := by
  rw [graph_declare_process, hs.consistent.nameOf_upsert_fresh (hs.newLeaf hb n), if_pos rfl]

theorem Synthetic.parentEdge_spawn_of {a c : Nat} (h : sc.graph.ParentEdge a c) :
    (declare sc (.process N b n)).graph.ParentEdge a c :=
  (hs.consistent.parentEdge_upsert_fresh (hs.newLeaf hb n) a c).mpr (.inl h)

theorem Synthetic.nameOf_spawn_of {q : Nat} (hq : q ≠ N) :
    (declare sc (.process N b n)).graph.nameOf q = sc.graph.nameOf q := by
  rw [graph_declare_process, hs.consistent.nameOf_upsert_fresh (hs.newLeaf hb n), if_neg hq]

end Spawn

theorem synthetic_init :
    Synthetic (Graph.empty.upsert ⟨1, 0, "init"⟩).1 firstSyntheticPid := by
  have hf : Graph.NewLeaf Graph.empty ⟨1, 0, "init"⟩ :=
    ⟨by decide, by rw [Bool.eq_false_iff, ne_eq, contains_empty]; decide, by decide,
      (contains_empty 0).mpr rfl⟩
  have hw := Graph.consistent_empty
  refine ⟨(Graph.inserted_upsert hw).consistent, le_rfl, fun q ↦ ?_, fun a c hac ↦ ?_⟩
  · rw [hw.contains_upsert_fresh hf, contains_empty]
    show (q : Nat) = 0 ∨ (q : Nat) = 1 ↔ _
    simp only [firstSyntheticPid]
    omega
  · rcases (hw.parentEdge_upsert_fresh hf a c).mp hac with hold | ⟨-, rfl⟩
    · rw [Graph.ParentEdge, Graph.parentOf_empty] at hold
      cases hold
    · exact .inl (Nat.zero_le 1)

end Synthetic

section Grows

variable {sc sc₁ sc₂ sc₃ : Scene} {N w : Nat}

/-- `sc'` comes from `sc` by declarations that keep every parent edge, add edges only up to the
root, `init` or a pid from `N` on, keep the names of the pids below `N`, and leave window `w`
alone. -/
structure Grows (sc sc' : Scene) (N : Nat) (w : Window.Handle) : Prop where
  edge_keep : ∀ a b : Nat, sc.graph.ParentEdge a b → sc'.graph.ParentEdge a b
  edge_new : ∀ a b : Nat, sc'.graph.ParentEdge a b → sc.graph.ParentEdge a b ∨ b ≤ 1 ∨ N ≤ b
  name_keep : ∀ q : Nat, q < N → sc'.graph.nameOf q = sc.graph.nameOf q
  window_keep : sc'.windows.query? w = sc.windows.query? w

theorem Grows.trans (h₁ : Grows sc₁ sc₂ N w) (h₂ : Grows sc₂ sc₃ N w) : Grows sc₁ sc₃ N w :=
  ⟨fun a b h ↦ h₂.edge_keep a b (h₁.edge_keep a b h),
    fun a b h ↦ (h₂.edge_new a b h).elim (h₁.edge_new a b) .inr,
    fun q hq ↦ (h₂.name_keep q hq).trans (h₁.name_keep q hq),
    h₂.window_keep.trans h₁.window_keep⟩

theorem Grows.spawn {P b : Nat} (hs : Synthetic sc.graph P) (hb : b = 1 ∨ (firstSyntheticPid ≤ b ∧ b + 1 = P))
    (hN : N ≤ P) (hbN : b ≤ 1 ∨ N ≤ b) (n : String) (w : Window.Handle) :
    Grows sc (declare sc (.process P b n)) N w := by
  have hf := hs.newLeaf hb n
  have hw := hs.consistent
  refine ⟨fun a c h ↦ ?_, fun a c h ↦ ?_, fun q hq ↦ ?_, rfl⟩
  · exact (hw.parentEdge_upsert_fresh hf a c).mpr (.inl h)
  · rcases (hw.parentEdge_upsert_fresh hf a c).mp h with hold | ⟨-, hc⟩
    · exact .inl hold
    · rw [hc]
      exact .inr hbN
  · rw [graph_declare_process, hw.nameOf_upsert_fresh hf, if_neg (by show (q : Nat) ≠ P; omega)]

theorem Grows.window {w' : Nat} (hne : w' ≠ w) (c : String) (o : Option Int) :
    Grows sc (declare sc (.window w' c o)) N w :=
  ⟨fun _ _ h ↦ h, fun _ _ h ↦ .inl h, fun _ _ ↦ rfl, by rw [query?_declare_window, if_neg hne]⟩

end Grows

/-- What window `w` of `sc` shows of group `g`, through the group's first pattern, with the
processes it needs among the pids below `N`: the window of an `xterm` that runs `bash` running the
terminal pattern, with nothing below; the window of a process the process pattern names, with
nothing below; an ownerless window of the class; or, for a group without patterns, no window. -/
def Shows (g : GroupSpec) (sc : Scene) (N : Nat) (w : Window.Handle) : Prop :=
  match g.firstPattern with
  | some (.terminalDescendant, t) => ∃ o : Nat, firstSyntheticPid ≤ o ∧ o + 3 ≤ N ∧
      sc.windows.query? w = some ⟨"XTerm", some o⟩ ∧
      sc.graph.ParentEdge (o + 1) o ∧ sc.graph.ParentEdge (o + 2) (o + 1) ∧
      (∀ a : Nat, ¬ sc.graph.ParentEdge a (o + 2)) ∧
      sc.graph.nameOf (o + 1) = "bash" ∧ sc.graph.nameOf (o + 2) = t
  | some (.process, q) => ∃ o : Nat, firstSyntheticPid ≤ o ∧ o < N ∧
      sc.windows.query? w = some ⟨q ++ "-window", some o⟩ ∧
      (∀ a : Nat, ¬ sc.graph.ParentEdge a o) ∧ sc.graph.nameOf o = q
  | some (.windowClass, c) => sc.windows.query? w = some ⟨c, none⟩
  | none => sc.windows.query? w = none

section Shows

variable {g : GroupSpec} {sc sc' : Scene} {N : Nat} {w : Window.Handle}

theorem Shows.mono {N' : Nat} (hsh : Shows g sc N w) (hN : N ≤ N') : Shows g sc N' w := by
  unfold Shows at hsh ⊢
  split at hsh
  case h_1 => obtain ⟨o, ho, hlt, rest⟩ := hsh; exact ⟨o, ho, by omega, rest⟩
  case h_2 => obtain ⟨o, ho, hlt, rest⟩ := hsh; exact ⟨o, ho, by omega, rest⟩
  all_goals exact hsh

theorem Shows.grow (hsh : Shows g sc N w) (hg : Grows sc sc' N w) : Shows g sc' N w := by
  unfold Shows at hsh ⊢
  split at hsh
  case h_1 =>
    obtain ⟨o, ho, hlt, hq, h₁, h₂, hleaf, hn₁, hn₂⟩ := hsh
    refine ⟨o, ho, hlt, hg.window_keep ▸ hq, hg.edge_keep _ _ h₁, hg.edge_keep _ _ h₂, fun a ha ↦ ?_,
      (hg.name_keep _ (by omega)).trans hn₁, (hg.name_keep _ (by omega)).trans hn₂⟩
    rcases hg.edge_new _ _ ha with hold | hlow
    · exact hleaf a hold
    · simp only [firstSyntheticPid] at ho
      omega
  case h_2 =>
    obtain ⟨o, ho, hlt, hq, hleaf, hn⟩ := hsh
    refine ⟨o, ho, hlt, hg.window_keep ▸ hq, fun a ha ↦ ?_, (hg.name_keep _ hlt).trans hn⟩
    rcases hg.edge_new _ _ ha with hold | hlow
    · exact hleaf a hold
    · simp only [firstSyntheticPid] at ho
      omega
  all_goals rw [hg.window_keep]; exact hsh

end Shows

/-- The scene after the first `k` groups, `N` being the next free pid: the synthetic graph, at most
three pids per group, each of those groups' windows showing it, and the windows of the later
groups undeclared. -/
structure Generated (groups : List GroupSpec) (k : Nat) (sc : Scene) (N : Nat) : Prop where
  synthetic : Synthetic sc.graph N
  next_le : N ≤ firstSyntheticPid + 3 * k
  shows : ∀ j (hj : j < groups.length), j < k → Shows groups[j] sc N (firstWindow + j)
  unused : ∀ j, k ≤ j → sc.windows.query? (firstWindow + j) = none

section Step

variable {groups : List GroupSpec} {k : Nat} {sc sc' : Scene} {N N' : Nat}

theorem generated_init (groups : List GroupSpec) :
    Generated groups 0 (declare {} (.process 1 0 "init")) firstSyntheticPid :=
  ⟨synthetic_init, le_rfl, fun _ _ hj ↦ absurd hj (Nat.not_lt_zero _), fun _ _ ↦ rfl⟩

theorem Generated.next (hd : Generated groups k sc N) (hk : k < groups.length) (hN : N ≤ N')
    (hN' : N' ≤ firstSyntheticPid + 3 * (k + 1)) (hs : Synthetic sc'.graph N')
    (hgrow : ∀ j, j ≠ k → Grows sc sc' N (firstWindow + j))
    (hshow : Shows groups[k] sc' N' (firstWindow + k)) : Generated groups (k + 1) sc' N' := by
  refine ⟨hs, hN', fun j hj hjk ↦ ?_, fun j hj ↦ ?_⟩
  · rcases Nat.lt_or_eq_of_le (Nat.lt_succ_iff.mp hjk) with hjk | rfl
    · exact ((hd.shows j hj hjk).grow (hgrow j (by omega))).mono hN
    · exact hshow
  · rw [(hgrow j (by omega)).window_keep]
    exact hd.unused j (by omega)

variable (hd : Generated groups k sc N) (hk : k < groups.length)
  (hfit : firstSyntheticPid + 3 * groups.length ≤ Word.maxPid)
include hd hk hfit

theorem Generated.maxPid_ge : N + 3 ≤ Word.maxPid := by
  have := hd.next_le
  have : k + 1 ≤ groups.length := hk
  omega

theorem Generated.terminal {t : String} (hp : groups[k].firstPattern = some (.terminalDescendant, t)) :
    Generated groups (k + 1) (declare (declare (declare (declare sc (.process N 1 "xterm"))
      (.process (N + 1) N "bash")) (.process (N + 2) (N + 1) t))
      (.window (firstWindow + k) "XTerm" (some (N : Int)))) (N + 3) := by
  have hs₀ := hd.synthetic
  have hN : firstSyntheticPid ≤ N := hs₀.start_le
  have hN₀ : 40000 ≤ N := hN
  have hmax := hd.maxPid_ge hk hfit
  have hle := hd.next_le
  have hs₁ := hs₀.declare_spawn (b := 1) (.inl rfl) "xterm"
  have hs₂ : Synthetic (declare (declare sc (.process N 1 "xterm")) (.process (N + 1) N "bash")).graph (N + 2) :=
    hs₁.declare_spawn (b := N) (.inr ⟨hN, rfl⟩) "bash"
  have hs₃ : Synthetic (declare (declare (declare sc (.process N 1 "xterm")) (.process (N + 1) N "bash"))
      (.process (N + 2) (N + 1) t)).graph (N + 3) :=
    hs₂.declare_spawn (b := N + 1) (.inr ⟨by omega, rfl⟩) t
  have hb₃ : N + 1 = 1 ∨ (firstSyntheticPid ≤ N + 1 ∧ N + 1 + 1 = N + 2) := .inr ⟨by omega, rfl⟩
  refine hd.next hk ?_ ?_ ?_ (fun j hj ↦ ?_) ?_
  · omega
  · omega
  · rw [graph_declare_window]
    exact hs₃
  · exact (Grows.spawn hs₀ (.inl rfl) le_rfl (.inl le_rfl) _ _).trans
      ((Grows.spawn hs₁ (.inr ⟨hN, rfl⟩) (by omega) (.inr le_rfl) _ _).trans
        ((Grows.spawn hs₂ hb₃ (by omega) (.inr (by omega)) _ _).trans (Grows.window (by omega) _ _)))
  unfold Shows
  rw [hp, graph_declare_window]
  dsimp only
  refine ⟨N, hN, le_rfl, ?_, hs₂.parentEdge_spawn_of hb₃ _ (hs₁.parentEdge_spawn (.inr ⟨hN, rfl⟩) _),
    hs₂.parentEdge_spawn hb₃ _, hs₃.not_parentEdge_last (by omega),
    (hs₂.nameOf_spawn_of hb₃ _ (by omega)).trans (hs₁.nameOf_spawn (.inr ⟨hN, rfl⟩) _),
    hs₂.nameOf_spawn hb₃ _⟩
  rw [query?_declare_window, if_pos rfl, make_owned _ (by omega) (by omega)]

theorem Generated.process {q : String} (hp : groups[k].firstPattern = some (.process, q)) :
    Generated groups (k + 1) (declare (declare sc (.process N 1 q))
      (.window (firstWindow + k) (q ++ "-window") (some (N : Int)))) (N + 1) := by
  have hs₀ := hd.synthetic
  have hN : firstSyntheticPid ≤ N := hs₀.start_le
  have hN₀ : 40000 ≤ N := hN
  have hmax := hd.maxPid_ge hk hfit
  have hle := hd.next_le
  have hs₁ := hs₀.declare_spawn (b := 1) (.inl rfl) q
  refine hd.next hk ?_ ?_ ?_ (fun j hj ↦ ?_) ?_
  · omega
  · omega
  · rw [graph_declare_window]
    exact hs₁
  · exact (Grows.spawn hs₀ (.inl rfl) le_rfl (.inl le_rfl) _ _).trans (Grows.window (by omega) _ _)
  unfold Shows
  rw [hp, graph_declare_window]
  dsimp only
  refine ⟨N, hN, by omega, ?_, hs₁.not_parentEdge_last (by omega), hs₀.nameOf_spawn (.inl rfl) _⟩
  rw [query?_declare_window, if_pos rfl, make_owned _ (by omega) (by omega)]

omit hfit in
theorem Generated.windowClass {c : String} (hp : groups[k].firstPattern = some (.windowClass, c)) :
    Generated groups (k + 1) (declare sc (.window (firstWindow + k) c none)) N := by
  have hle := hd.next_le
  refine hd.next hk le_rfl (by omega) hd.synthetic (fun j hj ↦ Grows.window (by omega) _ _) ?_
  unfold Shows
  rw [hp, query?_declare_window, if_pos rfl, make_ownerless]

omit hfit in
theorem Generated.patternless (hp : groups[k].firstPattern = none) : Generated groups (k + 1) sc N := by
  have hle := hd.next_le
  refine hd.next hk le_rfl (by omega) hd.synthetic
    (fun j _ ↦ ⟨fun _ _ h ↦ h, fun _ _ h ↦ .inl h, fun _ _ ↦ rfl, rfl⟩) ?_
  unfold Shows
  rw [hp]
  exact hd.unused k le_rfl

end Step

section Replay

variable {groups : List GroupSpec} (hfit : firstSyntheticPid + 3 * groups.length ≤ Word.maxPid)
include hfit

theorem Generated.step {k : Nat} {d : Declared} (hd : Generated groups k d.scene d.nextPid)
    (hk : k < groups.length) :
    Generated groups (k + 1) (d.group groups[k] (firstWindow + k)).1.scene
      (d.group groups[k] (firstWindow + k)).1.nextPid := by
  cases hp : groups[k].firstPattern with
  | none =>
    rw [Declared.group_none _ hp]
    exact hd.patternless hk hp
  | some tp =>
    obtain ⟨t, p⟩ := tp
    cases t with
    | terminalDescendant =>
      rw [Declared.group_terminal _ hp, Declared.scene_append]
      exact hd.terminal hk hfit hp
    | process =>
      rw [Declared.group_process _ hp, Declared.scene_append]
      exact hd.process hk hfit hp
    | windowClass =>
      rw [Declared.group_class _ hp, Declared.scene_append]
      exact hd.windowClass hk hp

theorem generated_fold (F : Declared × List Nat → GroupSpec × Nat → Declared × List Nat)
    (hF : ∀ acc gi, (F acc gi).1 = (acc.1.group gi.1 (firstWindow + gi.2)).1) :
    ∀ (l : List GroupSpec) (k : Nat) (acc : Declared × List Nat), groups.drop k = l → k ≤ groups.length →
      Generated groups k acc.1.scene acc.1.nextPid →
      Generated groups groups.length ((l.zipIdx k).foldl F acc).1.scene ((l.zipIdx k).foldl F acc).1.nextPid
  | [], k, acc, hl, hk, hd => by
    have : k = groups.length := le_antisymm hk (List.drop_eq_nil_iff.mp hl)
    subst this
    exact hd
  | g :: l, k, acc, hl, _, hd => by
    have hk : k < groups.length := by
      by_contra hk
      rw [List.drop_eq_nil_of_le (by omega)] at hl
      cases hl
    rw [List.drop_eq_getElem_cons hk, List.cons.injEq] at hl
    obtain ⟨rfl, hl⟩ := hl
    rw [List.zipIdx_cons, List.foldl_cons]
    refine generated_fold F hF l (k + 1) _ hl hk ?_
    rw [hF]
    exact hd.step hfit hk

end Replay

theorem foldl_declare_pressKeys (ws : List Nat) (acc : Array Record) (ts : List Int) (f : Option Nat)
    (g : Random.Generator) (sc : Scene) :
    (pressKeys ws acc ts f g).1.toList.foldl declare sc = acc.toList.foldl declare sc := by
  induction ts generalizing acc f g with
  | nil => rfl
  | cons t ts ih =>
    simp only [pressKeys]
    rw [ih]
    split <;> simp [List.foldl_append, declare]

theorem buildReplay_scene {groups : List GroupSpec} (hfit : firstSyntheticPid + 3 * groups.length ≤ Word.maxPid)
    {keypresses : Nat} {start span : Int} {gen : Random.Generator} {rs : List Record} {n m : Nat}
    (h : buildReplay groups keypresses start span gen = .ok (rs, n, m)) :
    ∃ sc N, Generated groups groups.length sc N ∧
      rs.foldl declare {} = declare sc (.window (firstWindow + groups.length) "Unmatched" none) := by
  unfold buildReplay at h
  simp only [bind, Except.bind, pure, Except.pure] at h
  split at h
  case h_1 => cases h
  case h_2 =>
    simp only [Except.ok.injEq, Prod.mk.injEq] at h
    obtain ⟨rfl, -, -⟩ := h
    refine ⟨?sc, ?N, ?gen, ?eq⟩
    case eq =>
      rw [List.foldl_append, foldl_declare_pressKeys, List.foldl_append]
      rfl
    case gen =>
      refine generated_fold hfit _ ?_ groups 0 _ rfl (Nat.zero_le _) ?_
      · exact fun _ _ ↦ rfl
      · exact generated_init groups

section Classification

open Classify
open Relation

variable {specs : List GroupSpec} {P : GroupSpec → Prop}

theorem firstId_isSome (h : ∃ s ∈ specs, P s) : (firstId specs P).isSome := by
  classical
  obtain ⟨s, hs, hP⟩ := h
  simp only [firstId, Option.isSome_map, List.find?_isSome]
  exact ⟨s, hs, decide_eq_true hP⟩

theorem firstId_eq_getElem_iff (hnodup : (specs.map (·.id)).Nodup) {i : Nat} (hi : i < specs.length)
    (hP : P specs[i]) : firstId specs P = some specs[i].id ↔ ∀ j (hj : j < specs.length), j < i → ¬ P specs[j] := by
  classical
  unfold firstId
  constructor
  · intro h j hj hji hPj
    obtain ⟨s, hs, hsid⟩ := Option.map_eq_some_iff.mp h
    obtain ⟨-, m, hm, rfl, hbefore⟩ := List.find?_eq_some_iff_getElem.mp hs
    have hsame : specs[m] = specs[i] :=
      List.inj_on_of_nodup_map hnodup (List.getElem_mem _) (List.getElem_mem _) hsid
    obtain rfl : m = i := ((List.Nodup.of_map _ hnodup).getElem_inj_iff).mp hsame
    simpa [hPj] using hbefore j hji
  · intro hbefore
    refine Option.map_eq_some_iff.mpr ⟨specs[i], List.find?_eq_some_iff_getElem.mpr
      ⟨decide_eq_true hP, i, hi, rfl, fun j hji ↦ ?_⟩, rfl⟩
    simpa using hbefore j (by omega) hji

theorem firstId_eq_none_iff : firstId specs P = none ↔ ∀ s ∈ specs, ¬ P s := by
  refine ⟨fun h s hs hP ↦ ?_, firstId_eq_none⟩
  have := firstId_isSome ⟨s, hs, hP⟩
  rw [h] at this
  cases this

variable {G : Graph} {N o : Nat}

theorem namedBelow_iff (hw : G.Consistent) (n : String) :
    NamedBelow G o n ↔ ∃ v : Nat, TransGen G.ParentEdge v o ∧ G.nameOf v = n := by
  constructor
  · rintro ⟨h₀, x, m, hi, hm, hl, rfl⟩
    have hx := hw.arena.get_index hm
    exact ⟨m.pid, hw.transGen_parentEdge_iff.mpr ⟨x, h₀, hx, hi, hl⟩, Graph.nameOf_of_node hx hm⟩
  · rintro ⟨v, hv, rfl⟩
    obtain ⟨x, y, hx, hy, hl⟩ := hw.transGen_parentEdge_iff.mp hv
    obtain ⟨m, hm, -⟩ := hw.arena.index_get hx
    exact ⟨y, x, m, hy, hm, hl, (Graph.nameOf_of_node hx hm).symm⟩

theorem Synthetic.transGen_terminal (hs : Synthetic G N) (ho : 2 ≤ o) (h₂ : ∀ a : Nat, ¬ G.ParentEdge a (o + 2))
    (v : Nat) (h₁₀ : G.ParentEdge (o + 1) o) (h₂₁ : G.ParentEdge (o + 2) (o + 1)) :
    TransGen G.ParentEdge v o ↔ v = o + 1 ∨ v = o + 2 := by
  constructor
  · intro hv
    obtain ⟨c, hvc, hco⟩ := TransGen.tail'_iff.mp hv
    obtain rfl : c = o + 1 := (hs.edges c o hco).resolve_left (by omega)
    rcases ReflTransGen.cases_tail hvc with rfl | ⟨d, hvd, hdc⟩
    · exact .inl rfl
    obtain rfl : d = o + 1 + 1 := (hs.edges d (o + 1) hdc).resolve_left (by omega)
    rcases ReflTransGen.cases_tail hvd with rfl | ⟨e, -, hed⟩
    · exact .inr rfl
    · exact absurd hed (h₂ e)
  · rintro (rfl | rfl)
    · exact .single h₁₀
    · exact .head h₂₁ (.single h₁₀)

theorem not_transGen_of_leaf (h : ∀ a : Nat, ¬ G.ParentEdge a o) (v : Nat) : ¬ TransGen G.ParentEdge v o :=
  fun hv ↦ by
    obtain ⟨c, -, hco⟩ := TransGen.tail'_iff.mp hv
    exact h c hco

theorem known_of_pos (ho : o ≠ 0) : (some o).filter (· != 0) = some o :=
  Option.filter_eq_some_iff.mpr ⟨rfl, by simpa using ho⟩

theorem Synthetic.classify_terminal (hs : Synthetic G N) (ho : 2 ≤ o) (h₁₀ : G.ParentEdge (o + 1) o)
    (h₂₁ : G.ParentEdge (o + 2) (o + 1)) (h₂ : ∀ a : Nat, ¬ G.ParentEdge a (o + 2))
    (hex : ∃ s ∈ specs, s.Catches .terminalDescendant [G.nameOf (o + 1), G.nameOf (o + 2)]) :
    Classify.classify ⟨specs.map GroupSpec.toGroup⟩ G "XTerm" (some o) =
      (firstId specs (·.Catches .terminalDescendant [G.nameOf (o + 1), G.nameOf (o + 2)])).map
        (⟨·, .terminalDescendant⟩) := by
  have hhit : ∀ s ∈ specs, TerminalHit G o s ↔ s.Catches .terminalDescendant [G.nameOf (o + 1), G.nameOf (o + 2)] := by
    intro s _
    simp only [TerminalHit, GroupSpec.Catches, GroupSpec.patterns, namedBelow_iff hs.consistent,
      hs.transGen_terminal ho h₂ _ h₁₀ h₂₁, List.mem_cons, List.not_mem_nil, or_false]
    constructor
    · rintro ⟨p, hp, n, ⟨v, hv, rfl⟩, hpn⟩
      rcases hv with rfl | rfl
      · exact ⟨p, hp, _, .inl rfl, hpn⟩
      · exact ⟨p, hp, _, .inr rfl, hpn⟩
    · rintro ⟨p, hp, n, hn, hpn⟩
      rcases hn with rfl | rfl
      · exact ⟨p, hp, _, ⟨o + 1, .inl rfl, rfl⟩, hpn⟩
      · exact ⟨p, hp, _, ⟨o + 2, .inr rfl, rfl⟩, hpn⟩
  have hterm : terminalTier ⟨specs.map GroupSpec.toGroup⟩ G "XTerm" (some o) =
      firstId specs (·.Catches .terminalDescendant [G.nameOf (o + 1), G.nameOf (o + 2)]) := by
    rw [terminalTier_eq hs.consistent, if_pos ((isTerminalClass_iff _).mp isTerminalClass_xterm), Option.bind_some]
    exact firstId_congr hhit
  obtain ⟨id, hid⟩ := Option.isSome_iff_exists.mp (firstId_isSome hex)
  simp only [Classify.classify, known_of_pos (show o ≠ 0 by omega), hterm, hid, Option.map_some]

theorem Synthetic.classify_process (hs : Synthetic G N) (ho : o ≠ 0) (hleaf : ∀ a : Nat, ¬ G.ParentEdge a o)
    (hname : G.nameOf o ≠ "") (c : String) (hex : ∃ s ∈ specs, s.Catches .process [G.nameOf o]) :
    Classify.classify ⟨specs.map GroupSpec.toGroup⟩ G c (some o) =
      (firstId specs (·.Catches .process [G.nameOf o])).map (⟨·, .process⟩) := by
  have hterm : terminalTier ⟨specs.map GroupSpec.toGroup⟩ G c (some o) = none := by
    rw [terminalTier_eq hs.consistent]
    split
    · rw [Option.bind_some]
      refine firstId_eq_none fun s _ ⟨_, _, n, hbelow, _⟩ ↦ ?_
      obtain ⟨v, hv, -⟩ := (namedBelow_iff hs.consistent n).mp hbelow
      exact not_transGen_of_leaf hleaf v hv
    · rfl
  have hproc : (⟨specs.map GroupSpec.toGroup⟩ : Rules).matchProcess (G.nameOf o) =
      firstId specs (·.Catches .process [G.nameOf o]) := by
    rw [matchProcess_eq]
    exact firstId_congr fun s _ ↦ by simp [GroupSpec.Catches, GroupSpec.patterns, hname]
  obtain ⟨id, hid⟩ := Option.isSome_iff_exists.mp (firstId_isSome hex)
  simp only [Classify.classify, known_of_pos ho, hterm, Option.bind_some, hproc, hid, Option.map_some]

theorem classify_ownerless {c : String} (hc : c ≠ "") :
    Classify.classify ⟨specs.map GroupSpec.toGroup⟩ G c none =
      (firstId specs (·.Catches .windowClass [c])).map (⟨·, .windowClass⟩) := by
  have hclass : (⟨specs.map GroupSpec.toGroup⟩ : Rules).matchWindowClass c =
      firstId specs (·.Catches .windowClass [c]) := by
    rw [matchWindowClass_eq]
    exact firstId_congr fun s _ ↦ by simp [ClassHit, GroupSpec.Catches, GroupSpec.patterns, hc]
  simp [Classify.classify, terminalTier, hclass]

end Classification

def placement (s : Config.Settings) (sc : Scene) (w : Window.Handle) : Option Classify.Match :=
  Classify.classify s.rules sc.graph (sc.windows.className w) (sc.windows.owner w)

/-- No group catches what the window of a later group shows, and no group catches the class of
the unmatched window. -/
def Unshadowed (groups : List GroupSpec) : Prop :=
  (∀ i (hi : i < groups.length) t p, groups[i].firstPattern = some (t, p) →
    ∀ j (hj : j < groups.length), j < i → ¬ groups[j].Catches t (Config.shownNames t p)) ∧
  ∀ g ∈ groups, ¬ g.Catches .windowClass ["Unmatched"]

section Reach

open Classify

theorem className_of_query {t : Window.Table} {w : Window.Handle} {m : Window.Metadata} (h : t.query? w = some m) :
    t.className w = m.className := by
  simp [Window.Table.className, h]

theorem owner_of_query {t : Window.Table} {w : Window.Handle} {m : Window.Metadata} (h : t.query? w = some m) :
    t.owner w = m.owner := by
  simp [Window.Table.owner, h]

theorem map_match_eq_some {o : Option GroupId} {id : GroupId} {t : Tier} :
    o.map (⟨·, t⟩ : GroupId → Match) = some ⟨id, t⟩ ↔ o = some id := by
  cases o <;> simp

variable {s : Config.Settings} {keypresses : Nat} {start span : Int} {gen : Random.Generator}
  {rs : List Record} {n m : Nat}

theorem generated_placement (hne : ∀ g ∈ s.groups, ∀ p ∈ g.processes ++ g.windowClasses, p ≠ "")
    (hfit : firstSyntheticPid + 3 * s.groups.length ≤ Word.maxPid)
    (h : buildReplay s.groups keypresses start span gen = .ok (rs, n, m)) :
    (∀ i (hi : i < s.groups.length) t p, s.groups[i].firstPattern = some (t, p) →
      placement s (rs.foldl declare {}) (firstWindow + i) =
        (firstId s.groups (·.Catches t (Config.shownNames t p))).map (⟨·, t⟩)) ∧
    placement s (rs.foldl declare {}) (firstWindow + s.groups.length) =
      (firstId s.groups (·.Catches .windowClass ["Unmatched"])).map (⟨·, .windowClass⟩) := by
  obtain ⟨sc, N, hd, hsc⟩ := buildReplay_scene hfit h
  have hs := hd.synthetic
  rw [hsc]
  simp only [placement, graph_declare_window, Config.Settings.rules]
  refine ⟨fun i hi t p hp ↦ ?_, ?_⟩
  · have hsh := (hd.shows i hi hi).grow (Grows.window (show firstWindow + s.groups.length ≠ firstWindow + i by omega)
      "Unmatched" none)
    have hmem := s.groups[i].firstPattern_mem hp
    have hin : s.groups[i] ∈ s.groups := List.getElem_mem hi
    unfold Shows at hsh
    rw [hp] at hsh
    simp only [graph_declare_window] at hsh
    cases t with
    | terminalDescendant =>
      obtain ⟨o, ho, -, hq, h₁₀, h₂₁, h₂, hn₁, hn₂⟩ := hsh
      have hex : ∃ g ∈ s.groups, g.Catches .terminalDescendant [sc.graph.nameOf (o + 1), sc.graph.nameOf (o + 2)] :=
        ⟨_, hin, p, hmem, p, by rw [hn₂]; simp, rfl⟩
      rw [className_of_query hq, owner_of_query hq,
        hs.classify_terminal (by simp only [firstSyntheticPid] at ho; omega) h₁₀ h₂₁ h₂ hex, hn₁, hn₂]
      rfl
    | process =>
      obtain ⟨o, ho, -, hq, hleaf, hn⟩ := hsh
      have hp₀ : p ≠ "" := hne _ hin p (List.mem_append_left _ hmem)
      have hex : ∃ g ∈ s.groups, g.Catches .process [sc.graph.nameOf o] :=
        ⟨_, hin, p, hmem, p, by rw [hn]; simp, rfl⟩
      rw [className_of_query hq, owner_of_query hq,
        hs.classify_process (by simp only [firstSyntheticPid] at ho; omega) hleaf (hn ▸ hp₀) _ hex, hn]
      rfl
    | windowClass =>
      have hp₀ : p ≠ "" := hne _ hin p (List.mem_append_right _ hmem)
      rw [className_of_query hsh, owner_of_query hsh, classify_ownerless hp₀]
      rfl
  · have hq : (declare sc (.window (firstWindow + s.groups.length) "Unmatched" none)).windows.query?
        (firstWindow + s.groups.length) = some ⟨"Unmatched", none⟩ := by
      rw [query?_declare_window, if_pos rfl, make_ownerless]
    rw [className_of_query hq, owner_of_query hq]
    exact classify_ownerless (by decide)

/-- A generated replay reaches every group exactly when nothing shadows the groups' windows. Over
a configuration the check accepts, with the synthetic pids within 32 bits, the window of each
group with a pattern goes to that group, through the tier of its first pattern, and the unmatched
window to no group, if and only if no group catches what the window of a later group shows (the
shell `bash` or the terminal pattern, the process pattern, the class) and no group catches the
class `Unmatched`. -/
theorem generated_windows_reach_groups (hvalid : s.validate = .ok ())
    (hfit : firstSyntheticPid + 3 * s.groups.length ≤ Word.maxPid)
    (h : buildReplay s.groups keypresses start span gen = .ok (rs, n, m)) :
    ((∀ i (hi : i < s.groups.length) t p, s.groups[i].firstPattern = some (t, p) →
        placement s (rs.foldl declare {}) (firstWindow + i) = some ⟨s.groups[i].id, t⟩) ∧
      placement s (rs.foldl declare {}) (firstWindow + s.groups.length) = none) ↔
    Unshadowed s.groups := by
  have ha := (Config.validate_eq_ok_iff s).mp hvalid
  have hne : ∀ g ∈ s.groups, ∀ p ∈ g.processes ++ g.windowClasses, p ≠ "" := by
    rintro g hg p hp rfl
    have hblank := ha.no_blank g hg "" (by simp only [List.mem_append] at hp ⊢; tauto)
    exact absurd hblank (by decide)
  obtain ⟨hwin, hunm⟩ := generated_placement hne hfit h
  have hwin' : ∀ i (hi : i < s.groups.length) t p, s.groups[i].firstPattern = some (t, p) →
      (placement s (rs.foldl declare {}) (firstWindow + i) = some ⟨s.groups[i].id, t⟩ ↔
        ∀ j (hj : j < s.groups.length), j < i → ¬ s.groups[j].Catches t (Config.shownNames t p)) := by
    intro i hi t p hp
    rw [hwin i hi t p hp, map_match_eq_some]
    exact firstId_eq_getElem_iff ha.ids_nodup hi (s.groups[i].catches_firstPattern hp)
  rw [Unshadowed, hunm, Option.map_eq_none_iff, firstId_eq_none_iff]
  constructor
  · rintro ⟨hall, hu⟩
    exact ⟨fun i hi t p hp ↦ (hwin' i hi t p hp).mp (hall i hi t p hp), hu⟩
  · rintro ⟨hall, hu⟩
    exact ⟨fun i hi t p hp ↦ (hwin' i hi t p hp).mpr (hall i hi t p hp), hu⟩

set_option maxRecDepth 4000 in
theorem generated_windows_reach_vim_firefox :
    ∃ rs n m, buildReplay [{ id := 1, terminalProcesses := ["vim"] }, { id := 2, processes := ["firefox"] }]
        1 0 10 (Random.Generator.ofSeed 7) = .ok (rs, n, m) ∧
      placement { groups := [{ id := 1, terminalProcesses := ["vim"] }, { id := 2, processes := ["firefox"] }] }
        (rs.foldl declare {}) (firstWindow + 1) = some ⟨2, .process⟩ ∧
      placement { groups := [{ id := 1, terminalProcesses := ["vim"] }, { id := 2, processes := ["firefox"] }] }
        (rs.foldl declare {}) (firstWindow + 2) = none := by
  obtain ⟨rs, n, m, h⟩ : ∃ rs n m, buildReplay [{ id := 1, terminalProcesses := ["vim"] },
      { id := 2, processes := ["firefox"] }] 1 0 10 (Random.Generator.ofSeed 7) = .ok (rs, n, m) :=
    ⟨_, _, _, rfl⟩
  have hun : Unshadowed [{ id := 1, terminalProcesses := ["vim"] }, { id := 2, processes := ["firefox"] }] := by
    refine ⟨fun i hi t p hp j hj hji ↦ ?_, by simp [GroupSpec.Catches, GroupSpec.patterns]⟩
    obtain rfl : i = 1 := by simp only [List.length_cons, List.length_nil] at hi; omega
    obtain rfl : j = 0 := by omega
    cases hp
    simp [GroupSpec.Catches, GroupSpec.patterns]
  have hlaw := (generated_windows_reach_groups (s := { groups := [{ id := 1, terminalProcesses := ["vim"] },
    { id := 2, processes := ["firefox"] }] }) rfl (by decide) h).mpr hun
  exact ⟨rs, n, m, h, hlaw.1 1 (by decide) .process "firefox" rfl, hlaw.2⟩

/-- Two terminal groups, the first with the pattern `bash`: the configuration passes the check,
yet the second group's window goes to the first group, whose pattern names the shell that every
generated terminal runs. -/
theorem generated_window_shadowed_by_shell_pattern :
    ({ groups := [{ id := 1, terminalProcesses := ["bash"] }, { id := 2, terminalProcesses := ["vim"] }] } :
        Config.Settings).validate = .ok () ∧
    ∃ rs n m, buildReplay [{ id := 1, terminalProcesses := ["bash"] }, { id := 2, terminalProcesses := ["vim"] }]
        0 0 1 (Random.Generator.ofSeed 0) = .ok (rs, n, m) ∧
      placement { groups := [{ id := 1, terminalProcesses := ["bash"] }, { id := 2, terminalProcesses := ["vim"] }] }
        (rs.foldl declare {}) (firstWindow + 1) = some ⟨1, .terminalDescendant⟩ := by
  refine ⟨rfl, ?_⟩
  obtain ⟨rs, n, m, h⟩ : ∃ rs n m, buildReplay [{ id := 1, terminalProcesses := ["bash"] },
      { id := 2, terminalProcesses := ["vim"] }] 0 0 1 (Random.Generator.ofSeed 0) = .ok (rs, n, m) :=
    ⟨_, _, _, rfl⟩
  refine ⟨rs, n, m, h, ?_⟩
  have hplace := (generated_placement (s := { groups := [{ id := 1, terminalProcesses := ["bash"] },
    { id := 2, terminalProcesses := ["vim"] }] }) (by simp) (by decide) h).1 1 (by decide) .terminalDescendant "vim" rfl
  rw [hplace, map_match_eq_some]
  exact (firstId_eq_getElem_iff (i := 0) (by decide) (by decide) ⟨"bash", List.mem_singleton_self _, "bash",
    List.mem_cons_self, rfl⟩).mpr fun j _ hj ↦ absurd hj (Nat.not_lt_zero j)

end Reach

end Command

end KeystrokeTally
