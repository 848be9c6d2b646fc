import KeystrokeTally.Proofs.Graph.Report
import KeystrokeTally.Proofs.Graph.Cascade

namespace KeystrokeTally.Proc.Graph

variable {g g' : Graph} {q : Pid} {x : Handle} {n : Node} {lookup : Pid → Option Entry}

def isPlaceholder (g : Graph) (q : Pid) : Bool := (g.find? q).any (·.origin == .placeholder)

/-- The operation reports `q` itself: it inserts an entry of pid `q`, other than the root, whose
entries only restamp it. -/
def Op.Reports : Op → Pid → Prop
  | .upsert e, q => e.pid = q ∧ q ≠ rootPid
  | .refresh es, q => q ≠ rootPid ∧ ∃ e ∈ es, e.pid = q
  | .remove _ _, _ => False

/-- After the operations `ops`, `q` is tracked, and since a moment when it was not, no operation
has reported it: its node was made by ancestor chasing and has not been reported since. -/
def ChasedSince (ops : List Op) (q : Pid) : Prop :=
  (run ops).contains q = true ∧
    ∃ pre post, ops = pre ++ post ∧ (run pre).contains q = false ∧ ∀ op ∈ post, ¬ op.Reports q

theorem isPlaceholder_eq : g.isPlaceholder q = ((g.find? q).map (·.origin)).any (· == .placeholder) := by
  rw [isPlaceholder, Option.any_map]

theorem isPlaceholder_iff : g.isPlaceholder q = true ↔ ∃ n, g.find? q = some n ∧ n.origin = .placeholder := by
  unfold isPlaceholder
  cases g.find? q <;> simp

theorem contains_of_isPlaceholder (h : g.isPlaceholder q = true) : g.contains q = true := by
  obtain ⟨n, hn, -⟩ := isPlaceholder_iff.mp h
  obtain ⟨x, hx, -⟩ := Option.bind_eq_some_iff.mp hn
  exact contains_of_index hx

theorem isPlaceholder_congr (h : (g'.find? q).map (·.origin) = (g.find? q).map (·.origin)) :
    g'.isPlaceholder q = g.isPlaceholder q := by
  rw [isPlaceholder_eq, h, ← isPlaceholder_eq]

theorem isPlaceholder_update {h : Handle} {f : Node → Node} (hf : ∀ n, (f n).origin = n.origin) :
    (g.update h f).isPlaceholder q = g.isPlaceholder q := by
  apply isPlaceholder_congr
  simp only [find?, update_index]
  cases g.index[q]? with
  | none => rfl
  | some y =>
    rw [Option.bind_some, Option.bind_some, get?_update]
    split
    · subst y
      cases g.get? h <;> simp [hf]
    · rfl

/-- The mark `g'` gives `q` after one operation from `g`, which reports `q` or not: a placeholder
exactly when `q` is tracked, not reported, and was a placeholder if it was tracked before. -/
def Marks (g g' : Graph) (reported : Prop) (q : Pid) : Prop :=
  g'.isPlaceholder q = true ↔ g'.contains q = true ∧ ¬ reported ∧ (g.contains q = true → g.isPlaceholder q = true)

variable {R : Prop}

theorem Marks.of_reported (hr : R) (h : g'.isPlaceholder q = false) : Marks g g' R q := by
  simp only [Marks, h, Bool.false_eq_true, false_iff, not_and]
  exact fun _ ↦ absurd hr

theorem Marks.of_gone (h : g'.contains q = false) : Marks g g' R q := by
  have hmark : g'.isPlaceholder q = false := by
    cases hm : g'.isPlaceholder q
    · rfl
    · rw [contains_of_isPlaceholder hm] at h
      cases h
  simp [Marks, hmark, h]

theorem Marks.of_kept (hr : ¬ R) (hc : g.contains q = true) (hc' : g'.contains q = true)
    (h : g'.isPlaceholder q = g.isPlaceholder q) : Marks g g' R q := by
  simp [Marks, h, hc, hc', hr]

theorem Marks.of_made (hr : ¬ R) (hc : g.contains q = false)
    (h : g'.contains q = true → g'.isPlaceholder q = true) : Marks g g' R q := by
  simp only [Marks, hc, hr, Bool.false_eq_true, false_imp_iff, not_false_eq_true, and_true]
  exact ⟨contains_of_isPlaceholder, h⟩

theorem Consistent.isPlaceholder_of_origin (hw : g.Consistent)
    (h : ∀ n, g.find? q = some n → n.origin = .placeholder) (hc : g.contains q = true) :
    g.isPlaceholder q = true := by
  obtain ⟨y, hy⟩ := exists_index_of_contains hc
  obtain ⟨n, hn, -⟩ := hw.arena.index_get hy
  have hfind : g.find? q = some n := by rw [find?, hy, Option.bind_some, hn]
  exact isPlaceholder_iff.mpr ⟨n, hfind, h n hfind⟩

section Upsert

variable {e : Entry} (hw : g.Consistent)
include hw

theorem Consistent.marks_upsert : Marks g (g.upsert e).1 ((Op.upsert e).Reports q) q := by
  by_cases hp : e.pid = rootPid
  · have hroot : (g.upsert e).1 = g.update g.root fun n ↦ { n with seen := g.epoch } := by
      rw [upsert_eq, upsertWith_root hp]
    have hr : ¬ (Op.upsert e).Reports q := fun ⟨hq, hqr⟩ ↦ hqr (hq ▸ hp)
    have hcont : (g.upsert e).1.contains q = g.contains q := by
      rw [hroot, contains_eq_isSome, update_index, ← contains_eq_isSome]
    cases hc : g.contains q
    · exact .of_gone (hcont.trans hc)
    · refine .of_kept hr hc (hcont.trans hc) ?_
      rw [hroot]
      exact isPlaceholder_update fun _ ↦ rfl
  by_cases hq : e.pid = q
  · subst hq
    obtain ⟨n, hn, -, horigin⟩ := hw.find?_upsert_self hp
    exact .of_reported ⟨rfl, hp⟩ (by simp [isPlaceholder, hn, horigin])
  have hr : ¬ (Op.upsert e).Reports q := fun h ↦ hq h.1
  have hc' := hw.contains_upsert hp q
  cases hc : g.contains q
  · refine .of_made hr hc fun hin ↦ ?_
    rcases hc'.mp hin with h | h | rfl
    · rw [hc] at h
      cases h
    · exact absurd h.symm hq
    · obtain ⟨hlab, -⟩ := hw.upsert_placeholder hp hc
      obtain ⟨n, hn, hnl⟩ := Option.map_eq_some_iff.mp hlab
      exact isPlaceholder_iff.mpr ⟨n, hn, (Prod.mk.inj hnl).2⟩
  · exact .of_kept hr hc (hc'.mpr (.inl hc))
      (isPlaceholder_congr (name_origin_of_unlinked (hw.unlinked_upsert (Ne.symm hq) hc)).2)

end Upsert

section Pass

variable (hlookup : ∀ q pe, lookup q = some pe → pe.pid = q)
include hlookup

theorem origin_upsertWith_of_ne (fuel : Nat) (g : Graph) (notes : Array Note) (e : Entry) (origin : Origin)
    (hw : g.Consistent) (hx : g.get? x = some n) (hne : n.pid ≠ e.pid ∨ e.pid = rootPid) :
    ∃ n', (upsertWith lookup fuel (g, notes) e origin).1.1.get? x = some n' ∧ n'.pid = n.pid ∧
      n'.origin = n.origin := by
  by_cases hp : e.pid = rootPid
  · rw [upsertWith_root hp, get?_update]
    split
    · subst x
      rw [hx]
      exact ⟨_, rfl, rfl, rfl⟩
    · exact ⟨n, hx, rfl, rfl⟩
  · obtain ⟨n', hn', hpid, -, horigin, -⟩ := exists_of_unlinked
      (unlinked_upsertWith_of_ne hlookup fuel g notes e origin hw x n hx (hne.resolve_right hp))
    exact ⟨n', hn', hpid, horigin⟩

theorem origin_upsertFold_of_ne :
    ∀ (es : List Entry) (acc : Graph × Array Note) (n : Node), acc.1.Consistent →
      (∀ e ∈ es, n.pid ≠ e.pid ∨ e.pid = rootPid) → acc.1.get? x = some n →
      ∃ n', (es.foldl (fun acc e ↦ (upsertWith lookup chaseLimit acc e .observed).1) acc).1.get? x = some n' ∧
        n'.pid = n.pid ∧ n'.origin = n.origin
  | [], _, n, _, _, hx => ⟨n, hx, rfl, rfl⟩
  | e :: es, ⟨G, notes⟩, n, hw, hne, hx => by
    obtain ⟨n', hn', hpid, horigin⟩ :=
      origin_upsertWith_of_ne hlookup chaseLimit G notes e .observed hw hx (hne e List.mem_cons_self)
    have hi := inserted_upsertWith hlookup chaseLimit G notes e .observed hw
    obtain ⟨n'', hn'', hpid', horigin'⟩ := origin_upsertFold_of_ne es _ n' hi.consistent
      (fun e' he' ↦ hpid ▸ hne e' (List.mem_cons_of_mem _ he')) hn'
    exact ⟨n'', hn'', hpid'.trans hpid, horigin'.trans horigin⟩

theorem placeholder_upsertWith (hq : lookup q = none) :
    ∀ (fuel : Nat) (g : Graph) (notes : Array Note) (e : Entry) (origin : Origin), g.Consistent →
      g.index[q]? = none → e.pid ≠ q →
      ∀ n, (upsertWith lookup fuel (g, notes) e origin).1.1.find? q = some n → n.origin = .placeholder
  | fuel, g, notes, e, origin, hw, hqg, hne => by
    by_cases hp : e.pid = rootPid
    · rw [upsertWith_root hp]
      intro n hn
      rw [find?, update_index, hqg, Option.bind_none] at hn
      cases hn
    rw [upsertWith.eq_1]
    simp only [beq_iff_eq, hp, if_false]
    have hg := hw.grown_touch hp e.name origin
    have hq₁ : (g.touch e.pid e.name origin).1.index[q]? = none := by
      rw [← Option.not_isSome_iff_eq_none, isSome_index_touch, not_or, Option.not_isSome_iff_eq_none]
      exact ⟨hqg, Ne.symm hne⟩
    rcases ht : g.touch e.pid e.name origin with ⟨g₁, h₁⟩
    rw [ht] at hg hq₁
    have hattach : ∀ (G : Graph) (t : Handle), (∀ n, G.find? q = some n → n.origin = .placeholder) →
        ∀ n, (G.attach h₁ t).find? q = some n → n.origin = .placeholder := by
      intro G t hG n hn
      have hu : ((G.attach h₁ t).find? q).map Node.unlinked = (G.find? q).map Node.unlinked := by
        simp only [find?, sameNodes_attach.index_eq]
        cases G.index[q]? with
        | none => rfl
        | some y => exact unlinked_attach
      rw [hn] at hu
      obtain ⟨n', hn', hnn'⟩ := Option.map_eq_some_iff.mp hu.symm
      rw [← hG n' hn']
      exact (congrArg Node.origin hnn' :).symm
    have huntracked : ∀ n, g₁.find? q = some n → n.origin = .placeholder := by
      intro n hn
      rw [find?, hq₁, Option.bind_none] at hn
      cases hn
    cases fuel with
    | zero => exact hattach g₁ g₁.root huntracked
    | succ k =>
      dsimp only
      cases hpar : g₁.index[e.parent]? with
      | some ph => exact hattach g₁ ph huntracked
      | none =>
        cases hl : lookup e.parent with
        | some pe =>
          have hpe : pe.pid ≠ q := by
            rw [hlookup _ _ hl]
            rintro rfl
            rw [hq] at hl
            cases hl
          exact hattach _ _ (placeholder_upsertWith hq k g₁ notes pe .observed hg.consistent hq₁ hpe)
        | none =>
          by_cases hpq : e.parent = q
          · subst hpq
            have hpr : e.parent ≠ rootPid := by
              rintro hr
              rw [hr, hg.consistent.arena.index_root] at hpar
              cases hpar
            have hi := inserted_upsertWith hlookup k g₁ (notes.push (.placeholder e.parent))
              ⟨e.parent, rootPid, ""⟩ .placeholder hg.consistent
            obtain ⟨m, hm, -, -, hmo⟩ := upsertWith_self hlookup k g₁ (notes.push (.placeholder e.parent))
              ⟨e.parent, rootPid, ""⟩ .placeholder hg.consistent hpr
            refine hattach _ _ fun n hn ↦ ?_
            rw [find?, hi.index_self, Option.bind_some, hm] at hn
            cases hn
            exact hmo
          · exact hattach _ _ (placeholder_upsertWith hq k g₁ _ ⟨e.parent, rootPid, ""⟩ .placeholder
              hg.consistent hq₁ hpq)

theorem placeholder_upsertFold (hq : lookup q = none) :
    ∀ (es : List Entry) (acc : Graph × Array Note), acc.1.Consistent → (∀ e ∈ es, e.pid ≠ q) →
      (∀ n, acc.1.find? q = some n → n.origin = .placeholder) →
      ∀ n, (es.foldl (fun acc e ↦ (upsertWith lookup chaseLimit acc e .observed).1) acc).1.find? q = some n →
        n.origin = .placeholder
  | [], _, _, _, h => h
  | e :: es, ⟨G, notes⟩, hw, hne, h => by
    have hi := inserted_upsertWith hlookup chaseLimit G notes e .observed hw
    refine placeholder_upsertFold hq es _ hi.consistent (fun e' he' ↦ hne e' (List.mem_cons_of_mem _ he')) ?_
    cases hqG : G.index[q]? with
    | none => exact placeholder_upsertWith hlookup hq chaseLimit G notes e .observed hw hqG (hne e List.mem_cons_self)
    | some y =>
      obtain ⟨m, hm, hmq⟩ := hw.arena.index_get hqG
      have hmo := h m (by rw [find?, hqG, Option.bind_some, hm])
      obtain ⟨m', hm', -, hmo'⟩ := origin_upsertWith_of_ne hlookup chaseLimit G notes e .observed hw hm
        (.inl (hmq ▸ Ne.symm (hne e List.mem_cons_self)))
      intro n hn
      rw [find?, hi.index_mono hqG, Option.bind_some, hm'] at hn
      cases hn
      rw [hmo', hmo]

theorem Consistent.marks_upsertFold (hw : g.Consistent) (es : List Entry) (notes : Array Note)
    (hne : ∀ e ∈ es, q ≠ e.pid ∨ e.pid = rootPid) (hq : g.contains q = false → lookup q = none) :
    Marks g (es.foldl (fun acc e ↦ (upsertWith lookup chaseLimit acc e .observed).1) (g, notes)).1 False q := by
  have hfold := kept_upsertFold hlookup es (g, notes) hw
  cases hc : g.contains q
  · have hq0 : g.index[q]? = none := by
      rwa [contains_eq_isSome, Option.isSome_eq_false_iff, Option.isNone_iff_eq_none] at hc
    have hno : ∀ e ∈ es, e.pid ≠ q := by
      intro e he heq
      rcases hne e he with h | h
      · exact h heq.symm
      · rw [← heq, h, hw.arena.index_root] at hq0
        cases hq0
    have hplace := placeholder_upsertFold hlookup (hq hc) es (g, notes) hw hno fun n hn ↦ by
      rw [find?, hq0, Option.bind_none] at hn
      cases hn
    exact .of_made not_false hc (hfold.consistent.isPlaceholder_of_origin hplace)
  · obtain ⟨y, hy⟩ := exists_index_of_contains hc
    obtain ⟨n, hn, hnq⟩ := hw.arena.index_get hy
    obtain ⟨n', hn', hpid, horigin⟩ := origin_upsertFold_of_ne hlookup es (g, notes) n hw
      (fun e he ↦ hnq ▸ hne e he) hn
    have hidx : (es.foldl (fun acc e ↦ (upsertWith lookup chaseLimit acc e .observed).1) (g, notes)).1.index[q]? =
        some y := by
      rw [← hnq, ← hpid]
      exact hfold.consistent.arena.get_index hn'
    refine .of_kept not_false hc (contains_of_index hidx) (isPlaceholder_congr ?_)
    rw [find?, hidx, Option.bind_some, hn', find?, hy, Option.bind_some, hn, Option.map_some, Option.map_some,
      horigin]

end Pass

theorem exists_last_entry {es : List Entry} (h : ∃ e ∈ es, e.pid = q) :
    ∃ pre e post, es = pre ++ e :: post ∧ e.pid = q ∧ ∀ e' ∈ post, e'.pid ≠ q := by
  induction es with
  | nil =>
    obtain ⟨e, he, -⟩ := h
    cases he
  | cons a es ih =>
    by_cases hes : ∃ e ∈ es, e.pid = q
    · obtain ⟨pre, e, post, rfl, he, hpost⟩ := ih hes
      exact ⟨a :: pre, e, post, rfl, he, hpost⟩
    · obtain ⟨e, he, heq⟩ := h
      rcases List.mem_cons.mp he with rfl | he
      · exact ⟨[], e, es, rfl, heq, fun e' he' h' ↦ hes ⟨e', he', h'⟩⟩
      · exact absurd ⟨e, he, heq⟩ hes

theorem Consistent.contains_stampAncestors (hw : g.Consistent) : g.stampAncestors.contains q = g.contains q := by
  rw [contains_eq_isSome, contains_eq_isSome, (Restamped.stampAncestors hw).nodes.index_eq]

theorem Consistent.isPlaceholder_stampAncestors (hw : g.Consistent) :
    g.stampAncestors.isPlaceholder q = g.isPlaceholder q := by
  apply isPlaceholder_congr
  simp only [find?, (Restamped.stampAncestors hw).nodes.index_eq]
  cases g.index[q]? with
  | none => rfl
  | some y =>
    have hlab := congrArg (Option.map Prod.snd) (label_stampAncestors (g := g) (x := y))
    simpa only [Option.bind_some, Option.map_map, Function.comp_def] using hlab

theorem Consistent.marks_refresh (hw : g.Consistent) (es : List Entry) :
    Marks g (g.refresh es).1 ((Op.refresh es).Reports q) q := by
  by_cases hrep : (Op.refresh es).Reports q
  · obtain ⟨hqr, hin⟩ := hrep
    obtain ⟨pre, e, post, hes, rfl, hpost⟩ := exists_last_entry hin
    have hobs := (hw.refresh_label_last hes hqr hpost).2
    exact .of_reported ⟨hqr, hin⟩ (by rw [isPlaceholder_eq, hobs]; rfl)
  have hne : ∀ e ∈ es, q ≠ e.pid ∨ e.pid = rootPid := by
    intro e he
    by_cases heq : e.pid = q
    · by_cases hqr : q = rootPid
      · exact .inr (heq.trans hqr)
      · exact absurd ⟨hqr, e, he, heq⟩ hrep
    · exact .inl (Ne.symm heq)
  have hq : g.contains q = false → (batchIndex es)[q]? = none := by
    intro hc
    cases h : (batchIndex es)[q]? with
    | none => rfl
    | some pe =>
      obtain ⟨hpid, hmem⟩ := batchIndex_spec h
      rcases hne pe hmem with hne' | hroot
      · exact absurd hpid.symm hne'
      · rw [← hpid, hroot, contains_eq_isSome, hw.arena.index_root] at hc
        cases hc
  have hlookup : ∀ (q : Pid) (pe : Entry), (batchIndex es)[q]? = some pe → pe.pid = q :=
    fun _ _ h ↦ batchIndex_pid h
  have hopen := Restamped.setEpoch hw (g.epoch + 1)
  have hfold := kept_upsertFold hlookup es ({ g with epoch := g.epoch + 1 }, #[]) hopen.consistent
  have hmarks : Marks g (es.foldl (fun acc e ↦ (upsertWith (fun p ↦ (batchIndex es)[p]?) chaseLimit acc e .observed).1)
      ({ g with epoch := g.epoch + 1 }, #[])).1 False q :=
    hopen.consistent.marks_upsertFold hlookup es #[] hne hq
  unfold Marks at hmarks ⊢
  rw [refresh_fst, hfold.consistent.isPlaceholder_stampAncestors, hfold.consistent.contains_stampAncestors]
  simpa only [hrep, not_false_eq_true] using hmarks

theorem Consistent.marks_remove (hw : g.Consistent) (p : Pid) (alive : Pid → Bool) :
    Marks g (g.remove p alive).1 ((Op.remove p alive).Reports q) q := by
  have hr : ¬ (Op.remove p alive).Reports q := id
  by_cases hfail : p = rootPid ∨ g.contains p = false
  · have hsame : g.remove p alive = (g, false) := by
      rcases hfail with rfl | hc
      · simp [Graph.remove]
      · simp [Graph.remove, hc]
    rw [hsame]
    cases hc : g.contains q
    · exact .of_gone hc
    · exact .of_kept hr hc hc rfl
  obtain ⟨hp, hcp⟩ : p ≠ rootPid ∧ g.contains p = true := by
    simpa only [not_or, Bool.not_eq_false] using hfail
  obtain ⟨h, hi⟩ := exists_index_of_contains hcp
  by_cases hd : Doomed g alive p q
  · exact .of_gone (contains_eq_false (hw.index_remove_doomed hp hi hd))
  · have hc' : (g.remove p alive).1.contains q = g.contains q := by
      rw [contains_eq_isSome, contains_eq_isSome, hw.index_remove_of_not_doomed hp hi hd]
    cases hc : g.contains q
    · exact .of_gone (hc'.trans hc)
    · exact .of_kept hr hc (hc'.trans hc)
        (isPlaceholder_congr (name_origin_of_unlinked (hw.find?_remove hp hi hd)).2)

theorem Consistent.marks_apply (hw : g.Consistent) (op : Op) : Marks g (op.apply g) (op.Reports q) q := by
  cases op with
  | upsert e => exact hw.marks_upsert
  | refresh es => exact hw.marks_refresh es
  | remove p alive => exact hw.marks_remove p alive

theorem run_append_singleton (ops : List Op) (op : Op) : run (ops ++ [op]) = op.apply (run ops) := by
  rw [run, List.foldl_append, List.foldl_cons, List.foldl_nil]
  rfl

theorem chasedSince_append_singleton (ops : List Op) (op : Op) (q : Pid) :
    ChasedSince (ops ++ [op]) q ↔
      (op.apply (run ops)).contains q = true ∧ ¬ op.Reports q ∧ ((run ops).contains q = true → ChasedSince ops q) := by
  rw [ChasedSince, run_append_singleton]
  constructor
  · rintro ⟨hc, pre, post, hsplit, hpre, hpost⟩
    refine ⟨hc, ?_⟩
    rcases List.eq_nil_or_concat post with rfl | ⟨post', o, rfl⟩
    · rw [List.append_nil] at hsplit
      rw [← hsplit, run_append_singleton, hc] at hpre
      cases hpre
    · rw [List.concat_eq_append] at hsplit hpost
      rw [← List.append_assoc] at hsplit
      obtain ⟨rfl, ho⟩ := List.append_inj' hsplit rfl
      obtain rfl : op = o := List.singleton_inj.mp ho
      refine ⟨hpost op (List.mem_append_right _ (List.mem_singleton_self op)), fun hc₀ ↦ ?_⟩
      exact ⟨hc₀, pre, post', rfl, hpre, fun o ho ↦ hpost o (List.mem_append_left _ ho)⟩
  · rintro ⟨hc, hr, hprev⟩
    refine ⟨hc, ?_⟩
    cases hc₀ : (run ops).contains q
    · exact ⟨ops, [op], rfl, hc₀, fun o ho ↦ (List.mem_singleton.mp ho) ▸ hr⟩
    · obtain ⟨-, pre, post, rfl, hpre, hpost⟩ := hprev hc₀
      refine ⟨pre, post ++ [op], List.append_assoc _ _ _, hpre, fun o ho ↦ ?_⟩
      rcases List.mem_append.mp ho with ho | ho
      · exact hpost o ho
      · exact (List.mem_singleton.mp ho) ▸ hr

theorem isPlaceholder_run (ops : List Op) (q : Pid) : (run ops).isPlaceholder q = true ↔ ChasedSince ops q := by
  induction ops using List.reverseRecOn with
  | nil =>
    refine ⟨fun h ↦ ?_, fun ⟨hc, pre, post, hsplit, hpre, _⟩ ↦ ?_⟩
    · obtain ⟨n, hn, hno⟩ := isPlaceholder_iff.mp h
      rw [run, List.foldl_nil, find?, index_empty] at hn
      split at hn
      · rw [Option.bind_some, get?_empty, if_pos rfl] at hn
        cases hn
        cases hno
      · cases hn
    · obtain ⟨rfl, -⟩ := List.append_eq_nil_iff.mp hsplit.symm
      rw [hc] at hpre
      cases hpre
  | append_singleton ops op ih =>
    rw [chasedSince_append_singleton, run_append_singleton, ← ih]
    exact (reachable_run ops).consistent.marks_apply op

end KeystrokeTally.Proc.Graph
