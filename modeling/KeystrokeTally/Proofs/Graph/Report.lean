import KeystrokeTally.Proofs.Graph.Placement
import KeystrokeTally.Proofs.Graph.Sweep

namespace KeystrokeTally.Proc.Graph

open Relation

variable {g : Graph} {es : List Entry} {x : Handle} {n : Node} {q : Pid}

theorem label_markUp {epoch fuel : Nat} {acc : Graph × Std.HashSet Handle} {oh : Option Handle} :
    ((markUp epoch fuel acc oh).1.get? x).map (fun n ↦ (n.name, n.origin)) =
      (acc.1.get? x).map (fun n ↦ (n.name, n.origin)) := by
  fun_induction Graph.markUp epoch fuel acc oh with
  | case4 _ G _ h _ _ _ _ ih =>
    rw [ih]
    dsimp only
    rw [get?_update]
    split
    · subst x
      cases G.get? h <;> rfl
    · rfl
  | _ => rfl

theorem label_stampAncestors :
    (g.stampAncestors.get? x).map (fun n ↦ (n.name, n.origin)) = (g.get? x).map (fun n ↦ (n.name, n.origin)) := by
  unfold stampAncestors
  dsimp only
  suffices hfold : ∀ (hs : List Handle) (acc : Graph × Std.HashSet Handle),
      ((hs.foldl (fun acc h ↦ markUp g.epoch (g.size + 1) acc (acc.1.up h)) acc).1.get? x).map
        (fun n ↦ (n.name, n.origin)) = (acc.1.get? x).map (fun n ↦ (n.name, n.origin)) from
    hfold _ _
  intro hs
  induction hs with
  | nil => exact fun _ ↦ rfl
  | cons h hs ih => exact fun acc ↦ (ih _).trans label_markUp

section Names

variable {lookup : Pid → Option Entry} (hlookup : ∀ q pe, lookup q = some pe → pe.pid = q)
include hlookup

theorem unlinked_upsertFold_of_ne :
    ∀ (post : List Entry) (acc : Graph × Array Note) (n : Node), acc.1.Consistent →
      (∀ e ∈ post, e.pid ≠ n.pid) → acc.1.get? x = some n →
      ((post.foldl (fun acc e ↦ (upsertWith lookup chaseLimit acc e .observed).1) acc).1.get? x).map
        Node.unlinked = some n.unlinked
  | [], _, _, _, _, hx => by rw [List.foldl_nil, hx, Option.map_some]
  | e :: post, ⟨G, notes⟩, n, hw, hne, hx => by
    have hi := inserted_upsertWith hlookup chaseLimit G notes e .observed hw
    obtain ⟨n', hn', hu⟩ := Option.map_eq_some_iff.mp
      (unlinked_upsertWith_of_ne hlookup chaseLimit G notes e .observed hw x n hx
        (hne e List.mem_cons_self).symm)
    have hpid : n'.pid = n.pid := (congrArg Node.pid hu :)
    rw [← hu]
    exact unlinked_upsertFold_of_ne post _ n' hi.consistent
      (fun e' he' ↦ hpid ▸ hne e' (List.mem_cons_of_mem _ he')) hn'

theorem label_upsertFold_last (pre post : List Entry) (e : Entry) (acc : Graph × Array Note)
    (hw : acc.1.Consistent) (hp : e.pid ≠ rootPid) (hpost : ∀ e' ∈ post, e'.pid ≠ e.pid) :
    ∃ x, ((pre ++ e :: post).foldl (fun acc e ↦ (upsertWith lookup chaseLimit acc e .observed).1) acc).1.index[e.pid]? =
        some x ∧
      (((pre ++ e :: post).foldl (fun acc e ↦ (upsertWith lookup chaseLimit acc e .observed).1) acc).1.get? x).map
        (fun n ↦ (n.name, n.origin)) = some (e.name, .observed) := by
  rw [List.foldl_append, List.foldl_cons]
  have hpre := (kept_upsertFold hlookup pre acc hw).consistent
  generalize pre.foldl (fun acc e ↦ (upsertWith lookup chaseLimit acc e .observed).1) acc = A at hpre
  rcases A with ⟨G, notes⟩
  obtain ⟨n, hn, hnp, hname, horigin⟩ := upsertWith_self hlookup chaseLimit G notes e .observed hpre hp
  have hi := inserted_upsertWith hlookup chaseLimit G notes e .observed hpre
  obtain ⟨n', hn', hnn'⟩ := Option.map_eq_some_iff.mp
    (unlinked_upsertFold_of_ne hlookup post _ n hi.consistent (hnp ▸ hpost) hn)
  have hfin := kept_upsertFold hlookup post _ hi.consistent
  refine ⟨(upsertWith lookup chaseLimit (G, notes) e .observed).2, ?_, ?_⟩
  · have hpid : n'.pid = e.pid := (congrArg Node.pid hnn' :).trans hnp
    rw [← hpid]
    exact hfin.consistent.arena.get_index hn'
  · rw [hn', Option.map_some, ← hname, ← horigin]
    exact congrArg some (congrArg₂ Prod.mk (congrArg Node.name hnn' :) (congrArg Node.origin hnn' :))

end Names

theorem Consistent.refresh_stamped (hw : g.Consistent) (hb : StampsBounded g)
    (hx : (g.refresh es).1.index[q]? = some x) (hs : SeenNow (g.refresh es).1 x) :
    (∃ e ∈ es, e.pid = q ∨ TransGen (g.refresh es).1.ParentEdge e.pid q) ∨ Fresh g es q ∨ q = rootPid := by
  have hF := FreshRooted.foldl es ({ g with epoch := g.epoch + 1 }, #[]) (FreshRooted.start hw) fun _ h ↦ h
  rw [refresh_fst] at hx hs ⊢
  generalize (es.foldl (fun acc e ↦ (upsertWith (fun q ↦ (batchIndex es)[q]?) chaseLimit acc e .observed).1)
    ({ g with epoch := g.epoch + 1 }, #[])).1 = G at hF hx hs ⊢
  have hr := Restamped.stampAncestors hF.consistent
  have hG := hF.consistent
  rw [hr.nodes.index_eq] at hx
  obtain ⟨n, hn, hns⟩ := hs
  obtain ⟨y, ⟨m, hm, hms⟩, hyx⟩ := aboveSeen_stampAncestors hG hn hns
  have hy := hG.arena.get_index hm
  have hpass : PassPid g es m.pid := by
    rcases hF.stamps.2 hm with ⟨m₀, hm₀, hseen, -⟩ | ⟨-, hpass⟩
    · have hle := hb (show g.get? y = some m₀ from hm₀)
      rw [← hseen, hms, hF.stamps.1] at hle
      exact absurd hle (Nat.not_succ_le_self _)
    · exact hpass
  rcases reflTransGen_iff_eq_or_transGen.mp hyx with rfl | hyx
  · rw [hG.arena.pid_eq_of_index hx hy]
    rcases hpass with ⟨e, he, hep⟩ | hfr
    · exact Or.inl ⟨e, he, Or.inl hep⟩
    · exact Or.inr (Or.inl hfr)
  · rcases hpass with ⟨e, he, hep⟩ | hfr
    · refine Or.inl ⟨e, he, Or.inr (hr.consistent.transGen_parentEdge_iff.mpr ⟨y, x, ?_, ?_, ?_⟩)⟩
      · rw [hr.nodes.index_eq, hep]
        exact hy
      · rw [hr.nodes.index_eq]
        exact hx
      · have hlink : (G.stampAncestors).Link = G.Link := by
          funext a b
          simp only [Link, hr.up_eq]
        rwa [hlink]
    · have hup := hG.up_eq_root hy (hF.fresh_root _ hfr (by rw [hy]; rfl))
      obtain ⟨z, hyz, hzx⟩ := TransGen.head'_iff.mp hyx
      rw [Link, hup] at hyz
      cases hyz
      rcases hzx.cases_head with rfl | ⟨w, hrw, -⟩
      · exact Or.inr (Or.inr (hG.arena.pid_eq_of_index hx hG.arena.index_root))
      · rw [Link, hG.forest.root_up] at hrw
        cases hrw

theorem Consistent.refresh_label_last (hw : g.Consistent) {pre post : List Entry} {e : Entry}
    (hes : es = pre ++ e :: post) (hp : e.pid ≠ rootPid) (hpost : ∀ e' ∈ post, e'.pid ≠ e.pid) :
    (g.refresh es).1.nameOf e.pid = e.name ∧ ((g.refresh es).1.find? e.pid).map (·.origin) = some .observed := by
  have hlookup : ∀ (q : Pid) (pe : Entry), (batchIndex es)[q]? = some pe → pe.pid = q :=
    fun _ _ h ↦ batchIndex_pid h
  have hopen := Restamped.setEpoch hw (g.epoch + 1)
  have hfold := kept_upsertFold hlookup es ({ g with epoch := g.epoch + 1 }, #[]) hopen.consistent
  obtain ⟨x, hx, hlab⟩ :=
    label_upsertFold_last hlookup pre post e ({ g with epoch := g.epoch + 1 }, #[]) hopen.consistent hp hpost
  rw [← hes] at hx hlab
  have hr := Restamped.stampAncestors hfold.consistent
  rw [← hr.nodes.index_eq] at hx
  rw [← label_stampAncestors] at hlab
  rw [refresh_fst]
  obtain ⟨n, hn, hnl⟩ := Option.map_eq_some_iff.mp hlab
  simp only [Prod.mk.injEq] at hnl
  refine ⟨by rw [nameOf_of_node hx hn, hnl.1], ?_⟩
  simp only [find?, hx, Option.bind_some, hn, Option.map_some, hnl.2]

theorem Consistent.index_of_not_seen (hw : g.Consistent) (hx : (g.refresh es).1.get? x = some n)
    (hlt : n.seen < (g.refresh es).1.epoch) : g.index[n.pid]? = some x := by
  have hs := hw.stampsOnly_refresh es
  rcases hs.2 hx with ⟨n₀, hn₀, -, hpid⟩ | ⟨hseen, -⟩
  · rw [hpid]
    exact hw.arena.get_index hn₀
  · rw [hseen, hs.1] at hlt
    exact absurd hlt (Nat.lt_irrefl _)

theorem Consistent.mem_unseen_refresh (hw : g.Consistent) (hb : StampsBounded g) :
    q ∈ (g.refresh es).1.unseen ↔ q ≠ rootPid ∧ (g.refresh es).1.contains q = true ∧
      (∀ e ∈ es, e.pid ≠ q) ∧ g.contains q = true ∧
      ∀ e ∈ es, ¬ TransGen (g.refresh es).1.ParentEdge e.pid q := by
  have hw' : (g.refresh es).1.Consistent := (refresh_spec hw).1
  have hup : ∀ e ∈ es, ∀ {x}, (g.refresh es).1.index[q]? = some x →
      e.pid = q ∨ TransGen (g.refresh es).1.ParentEdge e.pid q → SeenNow (g.refresh es).1 x := by
    intro e he x hx hq
    obtain ⟨h, hh, hs⟩ := hw.refresh_seenUp es e he
    refine hs x ?_
    rcases hq with rfl | hq
    · rw [hh] at hx
      cases hx
      exact .refl
    · obtain ⟨h', x', hh', hx', hl⟩ := hw'.transGen_parentEdge_iff.mp hq
      rw [hh] at hh'
      rw [hx] at hx'
      cases hh'
      cases hx'
      exact hl.to_reflTransGen
  constructor
  · intro hq
    obtain ⟨hr, x, n, hx, hn, hlt⟩ := mem_unseen.mp hq
    have hns : ¬ SeenNow (g.refresh es).1 x := by
      rintro ⟨n', hn', hs⟩
      rw [hn] at hn'
      cases hn'
      exact Nat.lt_irrefl _ (hs ▸ hlt)
    have hpid : n.pid = q := by
      obtain ⟨m, hm, hmq⟩ := hw'.arena.index_get hx
      rw [hn] at hm
      cases hm
      exact hmq
    refine ⟨hr, contains_of_index hx, fun e he hep ↦ hns (hup e he hx (Or.inl hep)), ?_,
      fun e he hanc ↦ hns (hup e he hx (Or.inr hanc))⟩
    rw [← hpid]
    exact contains_of_index (hw.index_of_not_seen hn hlt)
  · rintro ⟨hr, hc, hne, hold, hanc⟩
    obtain ⟨x, hx⟩ := exists_index_of_contains hc
    obtain ⟨n, hn, -⟩ := hw'.arena.index_get hx
    refine mem_unseen.mpr ⟨hr, x, n, hx, hn, lt_of_le_of_ne (hw.stampsBounded_refresh hb es hn) fun hs ↦ ?_⟩
    rcases hw.refresh_stamped hb hx ⟨n, hn, hs⟩ with ⟨e, he, hep | hanc'⟩ | hfr | hroot
    · exact hne e he hep
    · exact hanc e he hanc'
    · rw [contains_eq_false hfr.1] at hold
      cases hold
    · exact hr hroot

/-- What a refresh pass reports, whatever the batch. Every entry's pid is tracked afterwards; the
pid of an entry other than the root's is named as its last entry in the batch says and marked
observed; the pass counts every entry; and it reports as stale, ascending, exactly the pids other
than the root's that the graph tracked before and still tracks, that no entry lists, and that lie
above no entry's pid once the pass has linked the batch. -/
theorem Reachable.refresh_report (hg : Reachable g) (es : List Entry) :
    (∀ e ∈ es, (g.refresh es).1.contains e.pid = true) ∧
    (∀ pre e post, es = pre ++ e :: post → e.pid ≠ rootPid → (∀ e' ∈ post, e'.pid ≠ e.pid) →
      (g.refresh es).1.nameOf e.pid = e.name ∧
      ((g.refresh es).1.find? e.pid).map (·.origin) = some .observed) ∧
    (g.refresh es).2.upserted = es.length ∧
    (g.refresh es).2.stale.Pairwise (· < ·) ∧
    ∀ q, q ∈ (g.refresh es).2.stale ↔ q ≠ rootPid ∧ (g.refresh es).1.contains q = true ∧
      (∀ e ∈ es, e.pid ≠ q) ∧ g.contains q = true ∧
      ∀ e ∈ es, ¬ TransGen (g.refresh es).1.ParentEdge e.pid q := by
  have hw := hg.consistent
  refine ⟨fun e he ↦ ?_, fun pre e post hes hp hpost ↦ hw.refresh_label_last hes hp hpost, rfl, unseen_sorted,
    fun q ↦ hw.mem_unseen_refresh hg.stampsBounded⟩
  obtain ⟨h, hh, -⟩ := hw.refresh_seenUp es e he
  exact contains_of_index hh

theorem refresh_report_repeated :
    let g := run [.upsert ⟨2, 1, "b"⟩]
    let es : List Entry := [⟨3, 2, "c"⟩, ⟨3, rootPid, "d"⟩]
    Reachable g ∧
    (∀ e ∈ es, (g.refresh es).1.contains e.pid = true) ∧
    (∀ pre e post, es = pre ++ e :: post → e.pid ≠ rootPid → (∀ e' ∈ post, e'.pid ≠ e.pid) →
      (g.refresh es).1.nameOf e.pid = e.name ∧
      ((g.refresh es).1.find? e.pid).map (·.origin) = some .observed) ∧
    (g.refresh es).2.upserted = es.length ∧
    (g.refresh es).2.stale.Pairwise (· < ·) ∧
    ∀ q, q ∈ (g.refresh es).2.stale ↔ q ≠ rootPid ∧ (g.refresh es).1.contains q = true ∧
      (∀ e ∈ es, e.pid ≠ q) ∧ g.contains q = true ∧
      ∀ e ∈ es, ¬ TransGen (g.refresh es).1.ParentEdge e.pid q :=
  ⟨reachable_run _, (reachable_run _).refresh_report _⟩

end KeystrokeTally.Proc.Graph
