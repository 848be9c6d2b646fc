import KeystrokeTally.Proofs.Graph.Seen
import KeystrokeTally.Proc.Source

namespace KeystrokeTally.Proc.Graph

open Relation

variable {g g' : Graph} {S : Handle → Prop} {q : Pid} {x : Handle}

theorem Spares.parentOf (hs : Spares S g g') (hw : g.Consistent) (hw' : g'.Consistent)
    (hx : g.index[q]? = some x) (hSx : ¬ S x) (hSy : ∀ y, g.Link x y → ¬ S y) :
    g'.parentOf q = g.parentOf q := by
  obtain ⟨n, hn, hnp⟩ := hw.arena.index_get hx
  obtain ⟨n', hn', hp', hpar'⟩ := hs hSx hn
  have hx' : g'.index[q]? = some x := by
    rw [← hnp, ← hp']
    exact hw'.arena.get_index hn'
  have hup : g'.up x = g.up x := by simp [up, hn, hn', hpar']
  rw [parentOf_of_index hx, parentOf_of_index hx', hup]
  cases hu : g.up x with
  | none => rfl
  | some y =>
    obtain ⟨m, hm⟩ := Option.isSome_iff_exists.mp (hw.forest.parent_live hu)
    obtain ⟨m', hm', hmp, -⟩ := hs (hSy y hu) hm
    simp [pidOf, hm, hm', hmp]

section Stale

variable {g₁ : Graph} (hw₁ : g₁.Consistent) (alive : Pid → Bool)
include hw₁

theorem spares_removeStale : ∀ (ps : List Pid), (∀ p ∈ ps, p ∈ g₁.unseen) → ∀ G, G.Consistent →
    Shrinks g₁ G → Spares (fun x ↦ ¬ SeenUp g₁ x) g₁ G →
    (ps.foldl (fun G p ↦ if alive p then G else (G.remove p alive).1) G).Consistent ∧
      Spares (fun x ↦ ¬ SeenUp g₁ x) g₁ (ps.foldl (fun G p ↦ if alive p then G else (G.remove p alive).1) G)
  | [], _, _, hw, _, hsp => ⟨hw, hsp⟩
  | p :: ps, hps, G, hw, hs, hsp => by
    have hrest := spares_removeStale ps fun q hq ↦ hps q (List.mem_cons_of_mem _ hq)
    rw [List.foldl_cons]
    split
    · exact hrest G hw hs hsp
    · obtain ⟨hw', hs'⟩ := hw.remove (p := p) alive
      refine hrest _ hw' (hs.trans hs') (hsp.trans ((hw.spares_remove alive).mono ?_))
      rintro x ⟨h, hh, hx⟩ hup
      obtain ⟨h₁, hh₁, hnot⟩ := not_seenNow_of_mem_unseen (hps p List.mem_cons_self)
      have hidx := hs.index_sub hw₁.arena hw.arena hh
      rw [hh₁] at hidx
      cases hidx
      exact hnot (hup _ (ReflTransGen.mono (fun _ _ ↦ hs.link_sub) _ _ hx))

end Stale

theorem sync_of_enumerate (g : Graph) (stats : Stats.Counters) {d : Disk.Tree} {src : Source}
    {es : List Entry} {k : Nat} (hen : src.enumerate d = .ok (es, k)) :
    ∃ stats' report, sync d src g stats =
      .ok ((g.refresh es).1.unseen.foldl (fun G p ↦ if src.alive d p then G else (G.remove p (src.alive d)).1)
        (g.refresh es).1, stats', report, k) := by
  unfold sync
  rw [hen]
  exact ⟨_, _, rfl⟩

theorem Consistent.sync_parentOf (hw : g.Consistent) (stats : Stats.Counters) {d : Disk.Tree}
    {src : Source} {es : List Entry} {k : Nat} (hen : src.enumerate d = .ok (es, k)) :
    ∃ g' stats' report, sync d src g stats = .ok (g', stats', report, k) ∧
      ∀ e ∈ es, g'.parentOf e.pid = (g.refresh es).1.parentOf e.pid := by
  obtain ⟨stats', report, hsync⟩ := sync_of_enumerate g stats hen
  refine ⟨_, stats', report, hsync, fun e he ↦ ?_⟩
  have hw₁ : (g.refresh es).1.Consistent := (refresh_spec hw).1
  obtain ⟨hw', hsp⟩ := spares_removeStale hw₁ (src.alive d) _ (fun _ hp ↦ hp) _ hw₁ .refl .refl
  obtain ⟨h, hh, hup⟩ := hw.refresh_seenUp es e he
  exact hsp.parentOf hw₁ hw' hh (fun hn ↦ hn hup) fun y hy hn ↦ hn fun z hz ↦ hup z (hz.head hy)

/-- A refresh pass over a batch with distinct pids installs the declared links whatever the
order of the batch, when the declared links together with the links the graph has before the
pass form no cycle; a sync pass over a source that enumerates the batch, in any order, succeeds
and leaves the same links. -/
theorem refresh_declared_parents (g : Graph) (hg : Reachable g) (es : List Entry)
    (hnodup : (es.map (·.pid)).Nodup)
    (hacyc : ∀ a, ¬ TransGen (fun a b ↦ Declares es a b ∨ g.parentOf a = some b) a a) :
    (∀ e ∈ es, e.pid ≠ rootPid → (g.refresh es).1.parentOf e.pid = some e.parent) ∧
    (∀ es', es'.Perm es → ∀ q, (g.refresh es').1.parentOf q = (g.refresh es).1.parentOf q) ∧
    ∀ (d : Disk.Tree) (src : Source) (stats : Stats.Counters) (es' : List Entry) (k : Nat),
      src.enumerate d = .ok (es', k) → es'.Perm es →
      ∃ g' stats' report, sync d src g stats = .ok (g', stats', report, k) ∧
        ∀ e ∈ es, e.pid ≠ rootPid → g'.parentOf e.pid = some e.parent := by
  obtain ⟨hdecl, hperm⟩ := refresh_parentOf_declared g hg es hnodup hacyc
  refine ⟨hdecl, hperm, fun d src stats es' k hen hes' ↦ ?_⟩
  obtain ⟨g', stats', report, hsync, hpar⟩ := hg.consistent.sync_parentOf stats hen
  refine ⟨g', stats', report, hsync, fun e he hp ↦ ?_⟩
  rw [hpar e (hes'.mem_iff.mpr he), hperm es' hes', hdecl e he hp]

theorem refresh_declared_parents_chain :
    let es : List Entry := [⟨2, 1, "b"⟩, ⟨1, 0, "a"⟩]
    (es.map (·.pid)).Nodup ∧
    (∀ a, ¬ TransGen (fun a b ↦ Declares es a b ∨ (run []).parentOf a = some b) a a) ∧
    (∀ e ∈ es, e.pid ≠ rootPid → ((run []).refresh es).1.parentOf e.pid = some e.parent) ∧
    (∀ es', es'.Perm es → ∀ q, ((run []).refresh es').1.parentOf q = ((run []).refresh es).1.parentOf q) ∧
    ∀ (d : Disk.Tree) (src : Source) (stats : Stats.Counters) (es' : List Entry) (k : Nat),
      src.enumerate d = .ok (es', k) → es'.Perm es →
      ∃ g' stats' report, sync d src (run []) stats = .ok (g', stats', report, k) ∧
        ∀ e ∈ es, e.pid ≠ rootPid → g'.parentOf e.pid = some e.parent := by
  intro es
  have hacyc : ∀ a, ¬ TransGen (fun a b ↦ Declares es a b ∨ (run []).parentOf a = some b) a a := by
    refine not_transGen_self_of_rank id ?_
    rintro a b (⟨e, he, rfl, -, rfl⟩ | hold)
    · simp only [es, List.mem_cons, List.not_mem_nil, or_false] at he
      rcases he with rfl | rfl <;> decide
    · rw [show run [] = empty from rfl, parentOf_empty] at hold
      cases hold
  exact ⟨by decide, hacyc, refresh_declared_parents (run []) (reachable_run []) es (by decide) hacyc⟩

end KeystrokeTally.Proc.Graph
