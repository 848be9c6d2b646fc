import KeystrokeTally.Proofs.Graph.Insert
import KeystrokeTally.Proc.Graph.Refresh

namespace KeystrokeTally.Proc.Graph

variable {g g' : Graph} {q : Pid} {e : Entry} {entries : List Entry}

/-- `g'` is `g` with at most the nodes' own fields rewritten: it is consistent, and it has the
same nodes, indexed the same way, with the same parent links. -/
structure Restamped (g g' : Graph) : Prop where
  consistent : g'.Consistent
  nodes : SameNodes g g'
  up_eq : ∀ x, g'.up x = g.up x

namespace Restamped

theorem refl (hw : g.Consistent) : Restamped g g := ⟨hw, SameNodes.refl, fun _ ↦ rfl⟩

theorem isRootPid_iff (hr : Restamped g g') : g'.IsRootPid q ↔ g.IsRootPid q := by
  simp only [IsRootPid, hr.nodes.index_eq, hr.up_eq]

theorem stamp (hr : Restamped g g') (h : Handle) (epoch : Nat) :
    Restamped g (g'.update h fun n ↦ { n with seen := epoch }) :=
  ⟨Wf.update hr.consistent (by intro; rfl) (by intro; rfl) (by intro; rfl) (fun _ _ ↦ rfl),
    hr.nodes.trans (sameNodes_update (by intro; rfl)),
    fun x ↦ (up_update_of_parent (by intro; rfl)).trans (hr.up_eq x)⟩

theorem setEpoch (hw : g.Consistent) (n : Nat) : Restamped g { g with epoch := n } :=
  have hs : SameNodes g { g with epoch := n } := ⟨rfl, rfl, rfl, fun _ ↦ rfl⟩
  ⟨⟨hw.arena.of_sameNodes hs,
    hw.forest.transfer rfl id (fun _ ↦ rfl) (fun _ _ ↦ Iff.rfl) hw.forest.children_nodup rfl⟩,
    hs, fun _ ↦ rfl⟩

theorem markUp {epoch fuel : Nat} {acc : Graph × Std.HashSet Handle} {oh : Option Handle}
    (hr : Restamped g acc.1) : Restamped g (markUp epoch fuel acc oh).1 := by
  fun_induction Graph.markUp epoch fuel acc oh with
  | case1 => exact hr
  | case2 => exact hr
  | case3 => exact hr
  | case4 _ _ _ h _ _ _ _ ih => exact ih (hr.stamp h epoch)
  | case5 => exact hr

theorem stampAncestors (hw : g.Consistent) : Restamped g g.stampAncestors := by
  suffices h : ∀ (hs : List Handle) (acc : Graph × Std.HashSet Handle), Restamped g acc.1 →
      Restamped g (hs.foldl (fun acc h ↦ Graph.markUp g.epoch (g.size + 1) acc (acc.1.up h)) acc).1 from
    h _ _ (refl hw)
  intro hs
  induction hs with
  | nil => exact fun _ hr ↦ hr
  | cons h hs ih => exact fun acc hr ↦ ih _ hr.markUp

end Restamped

theorem upsert_eq : g.upsert e = ((upsertWith (fun _ ↦ none) chaseLimit (g, #[]) e .observed).1.1,
    (upsertWith (fun _ ↦ none) chaseLimit (g, #[]) e .observed).2) := by
  unfold upsert
  generalize upsertWith (fun _ ↦ none) chaseLimit (g, #[]) e .observed = r
  rfl

theorem inserted_upsert (hw : g.Consistent) : Inserted g (g.upsert e).1 e.pid (g.upsert e).2 := by
  rw [upsert_eq]
  exact inserted_upsertWith (by intro _ _ h; cases h) chaseLimit g #[] e .observed hw

theorem batchIndex_spec {pe : Entry} (h : (batchIndex entries)[q]? = some pe) :
    pe.pid = q ∧ pe ∈ entries := by
  suffices hfold : ∀ (es : List Entry) (m : Std.TreeMap Pid Entry compare),
      (∀ (q : Pid) (pe : Entry), m[q]? = some pe → pe.pid = q ∧ pe ∈ entries) → (∀ e ∈ es, e ∈ entries) →
      ∀ (q : Pid) (pe : Entry), (es.foldl (fun m e ↦ m.insert e.pid e) m)[q]? = some pe →
        pe.pid = q ∧ pe ∈ entries from
    hfold entries ∅ (by simp) (fun _ he ↦ he) q pe h
  intro es
  induction es with
  | nil => exact fun _ hm _ ↦ hm
  | cons e es ih =>
    refine fun m hm hes ↦ ih _ (fun q pe hq ↦ ?_) fun e' he' ↦ hes e' (List.mem_cons_of_mem _ he')
    rw [getElem?_insert_pid] at hq
    split at hq
    · cases hq
      exact ⟨‹_›, hes _ List.mem_cons_self⟩
    · exact hm q pe hq

theorem batchIndex_pid {pe : Entry} (h : (batchIndex entries)[q]? = some pe) : pe.pid = q :=
  (batchIndex_spec h).1

theorem upsertFold_spec {lookup : Pid → Option Entry}
    (hlookup : ∀ q pe, lookup q = some pe → pe.pid = q) (es : List Entry) :
    ∀ (acc : Graph × Array Note), acc.1.Consistent →
      (es.foldl (fun acc e ↦ (upsertWith lookup chaseLimit acc e .observed).1) acc).1.Consistent ∧
      ∀ q, (es.foldl (fun acc e ↦ (upsertWith lookup chaseLimit acc e .observed).1) acc).1.IsRootPid q ↔
        acc.1.IsRootPid q ∧ (q = rootPid ∨ ∀ e ∈ es, e.pid ≠ q) := by
  induction es with
  | nil => exact fun _ hw ↦ ⟨hw, fun q ↦ by simp⟩
  | cons e es ih =>
    rintro ⟨g, notes⟩ hw
    have hi := inserted_upsertWith hlookup chaseLimit g notes e .observed hw
    obtain ⟨hw', hroot⟩ := ih _ hi.consistent
    refine ⟨hw', fun q ↦ ?_⟩
    rw [List.foldl_cons, hroot, hi.isRootPid_iff hw]
    simp only [List.mem_cons, forall_eq_or_imp]
    constructor
    · rintro ⟨⟨hq, hq₁⟩, hq₂⟩
      refine ⟨hq, ?_⟩
      rcases hq₁ with hr | hne
      · exact Or.inl hr
      · rcases hq₂ with hr | hall
        · exact Or.inl hr
        · exact Or.inr ⟨Ne.symm hne, hall⟩
    · rintro ⟨hq, hr | ⟨hne, hall⟩⟩
      · exact ⟨⟨hq, Or.inl hr⟩, Or.inl hr⟩
      · exact ⟨⟨hq, Or.inr (Ne.symm hne)⟩, Or.inr hall⟩

theorem refresh_fst : (g.refresh entries).1 =
    (entries.foldl (fun acc e ↦ (upsertWith (fun p ↦ (batchIndex entries)[p]?) chaseLimit acc e .observed).1)
      ({ g with epoch := g.epoch + 1 }, #[])).1.stampAncestors :=
  rfl

theorem refresh_spec (hw : g.Consistent) :
    (g.refresh entries).1.Consistent ∧
      ∀ q, (g.refresh entries).1.IsRootPid q ↔ g.IsRootPid q ∧ (q = rootPid ∨ ∀ e ∈ entries, e.pid ≠ q) := by
  have hopen := Restamped.setEpoch hw (g.epoch + 1)
  obtain ⟨hw', hroot⟩ := upsertFold_spec (fun _ _ ↦ batchIndex_pid) entries
    ({ g with epoch := g.epoch + 1 }, #[]) hopen.consistent
  have hstamp := Restamped.stampAncestors hw'
  rw [refresh_fst]
  refine ⟨hstamp.consistent, fun q ↦ ?_⟩
  rw [hstamp.isRootPid_iff, hroot, hopen.isRootPid_iff]

end KeystrokeTally.Proc.Graph
