import KeystrokeTally.Proofs.Graph.Placement

namespace KeystrokeTally.Proc.Graph

open Relation

variable {g : Graph} {e : Entry} {q : Pid}

/-- An entry for a pid other than the root's that the graph does not track, whose declared
parent is another pid that the graph tracks. -/
structure NewLeaf (g : Graph) (e : Entry) : Prop where
  pid_ne_root : e.pid ≠ rootPid
  untracked : g.contains e.pid = false
  parent_ne : e.ppid ≠ e.pid
  parent_tracked : g.contains e.ppid = true

theorem NewLeaf.parent_eq (hf : NewLeaf g e) : e.parent = e.ppid := by
  simp [Entry.parent, hf.parent_ne]

theorem index_of_contains_false (hc : g.contains q = false) : g.index[q]? = none := by
  rwa [contains_eq_isSome, Option.isSome_eq_false_iff, Option.isNone_iff_eq_none] at hc

theorem parentOf_of_contains_false (hc : g.contains q = false) : g.parentOf q = none := by
  rw [parentOf_eq, index_of_contains_false hc, Option.bind_none]

theorem nameOf_of_contains_false (hc : g.contains q = false) : g.nameOf q = "" := by
  simp [nameOf, find?, index_of_contains_false hc]

section NewLeaf

variable (hw : g.Consistent) (hf : NewLeaf g e)
include hw hf

theorem Consistent.contains_upsert_fresh (q : Pid) :
    (g.upsert e).1.contains q = true ↔ g.contains q = true ∨ q = e.pid := by
  rw [hw.contains_upsert hf.pid_ne_root, hf.parent_eq]
  constructor
  · rintro (hq | hq | rfl)
    · exact .inl hq
    · exact .inr hq
    · exact .inl hf.parent_tracked
  · rintro (hq | hq)
    · exact .inl hq
    · exact .inr (.inl hq)

theorem Consistent.parentEdge_upsert_fresh (a b : Pid) :
    (g.upsert e).1.ParentEdge a b ↔ g.ParentEdge a b ∨ (a = e.pid ∧ b = e.ppid) := by
  by_cases ha : a = e.pid
  · subst ha
    have hbelow : ¬ TransGen g.ChildEdge e.pid e.parent := fun hr ↦ by
      obtain ⟨c, hc, -⟩ := TransGen.head'_iff.mp hr
      rw [ChildEdge, childrenOf_of_none (index_of_contains_false hf.untracked)] at hc
      exact List.not_mem_nil hc
    obtain ⟨G, t, hup, hP⟩ := hw.prepared_upsert hf.pid_ne_root
    have hself : (g.upsert e).1.parentOf e.pid = some e.ppid := by
      rw [hup, hP.parentOf_self, if_neg hbelow, hf.parent_eq]
    simp only [ParentEdge, hself, parentOf_of_contains_false hf.untracked, Option.some.injEq, reduceCtorEq,
      true_and, false_or, eq_comm]
  · cases hc : g.contains a with
    | true =>
      obtain ⟨x, hx⟩ := exists_index_of_contains hc
      simp only [ParentEdge, (inserted_upsert hw).parentOf_frame hw ha hx, ha, false_and, or_false]
    | false =>
      have hc' : (g.upsert e).1.contains a = false := by
        rw [Bool.eq_false_iff, ne_eq, hw.contains_upsert_fresh hf]
        simp [hc, ha]
      simp only [ParentEdge, parentOf_of_contains_false hc', parentOf_of_contains_false hc, reduceCtorEq,
        ha, false_and, or_self]

theorem Consistent.nameOf_upsert_fresh (q : Pid) :
    (g.upsert e).1.nameOf q = if q = e.pid then e.name else g.nameOf q := by
  split
  case isTrue hq =>
    subst hq
    obtain ⟨n, hn, hname, -⟩ := hw.find?_upsert_self hf.pid_ne_root
    simp [nameOf, hn, hname]
  case isFalse hq =>
    cases hc : g.contains q with
    | true => exact (name_origin_of_unlinked (hw.unlinked_upsert hq hc)).1
    | false =>
      have hc' : (g.upsert e).1.contains q = false := by
        rw [Bool.eq_false_iff, ne_eq, hw.contains_upsert_fresh hf]
        simp [hc, hq]
      rw [nameOf_of_contains_false hc', nameOf_of_contains_false hc]

end NewLeaf

end KeystrokeTally.Proc.Graph
