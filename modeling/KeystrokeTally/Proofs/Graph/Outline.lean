import KeystrokeTally.Proofs.Graph.Cascade

namespace KeystrokeTally.Proc.Graph

open Relation

variable {g : Graph} {p q r t : Pid} {x : Handle}

def ancestorAt (g : Graph) : Nat → Pid → Option Pid
  | 0, q => some q
  | d + 1, q => (g.parentOf q).bind (g.ancestorAt d)

def Under (g : Graph) (q r : Pid) : Prop := ∃ d, g.ancestorAt d r = some q

def Depth (g : Graph) (q : Pid) (k : Nat) : Prop := ∃ t, g.ancestorAt k q = some t ∧ g.IsRootPid t

@[simp] theorem ancestorAt_zero : g.ancestorAt 0 q = some q := rfl

theorem ancestorAt_succ (d : Nat) : g.ancestorAt (d + 1) q = (g.parentOf q).bind (g.ancestorAt d) := rfl

theorem ancestorAt_add (i j : Nat) : g.ancestorAt (i + j) q = (g.ancestorAt i q).bind (g.ancestorAt j) := by
  induction i generalizing q with
  | zero => simp
  | succ i ih =>
    rw [Nat.add_right_comm, ancestorAt_succ, ancestorAt_succ, Option.bind_assoc]
    simp only [ih]

theorem ancestorAt_one : g.ancestorAt 1 = g.parentOf := by
  funext p
  rw [ancestorAt_succ]
  cases g.parentOf p <;> rfl

theorem ancestorAt_succ' (d : Nat) : g.ancestorAt (d + 1) q = (g.ancestorAt d q).bind g.parentOf := by
  rw [ancestorAt_add, ancestorAt_one]

theorem Consistent.ancestorAt_of_index (hw : g.Consistent) (hx : g.index[q]? = some x) (d : Nat) :
    g.ancestorAt d q = (g.above d x).bind g.pidOf := by
  induction d generalizing q x with
  | zero => exact (hw.pidOf_iff.mpr hx).symm
  | succ d ih =>
    rw [ancestorAt_succ, above_succ, parentOf_of_index hx]
    cases hup : g.up x with
    | none => rfl
    | some y =>
      obtain ⟨m, hm⟩ := Option.isSome_iff_exists.mp (hw.forest.parent_live hup)
      have hy := hw.arena.get_index hm
      rw [Option.bind_some, Option.bind_some, hw.pidOf_iff.mpr hy, Option.bind_some]
      exact ih hy

theorem Consistent.ancestorAt_succ_ne (hw : g.Consistent) (d : Nat) (q : Pid) : g.ancestorAt (d + 1) q ≠ some q := by
  intro h
  have hpar : (g.parentOf q).isSome := by
    rw [ancestorAt_succ] at h
    cases hp : g.parentOf q with
    | none => rw [hp] at h; cases h
    | some _ => rfl
  obtain ⟨b, hb⟩ := Option.isSome_iff_exists.mp hpar
  obtain ⟨x, hx⟩ := Option.isSome_iff_exists.mp (index_of_parentOf hb)
  rw [hw.ancestorAt_of_index hx] at h
  obtain ⟨y, hy, hyq⟩ := Option.bind_eq_some_iff.mp h
  have hyx : y = x := Option.some.inj ((hw.pidOf_iff.mp hyq).symm.trans hx)
  subst hyx
  exact hw.forest.acyclic y (transGen_of_above hy)

theorem Consistent.ancestorAt_inj (hw : g.Consistent) {i j : Nat} (hi : g.ancestorAt i r = some q)
    (hj : g.ancestorAt j r = some q) : i = j := by
  have key : ∀ {i j : Nat}, i < j → g.ancestorAt i r = some q → g.ancestorAt j r = some q → False := by
    intro i j hij hi hj
    obtain ⟨d, rfl⟩ := Nat.exists_eq_add_of_lt hij
    rw [Nat.add_assoc, ancestorAt_add, hi, Option.bind_some] at hj
    exact hw.ancestorAt_succ_ne d q hj
  rcases Nat.lt_trichotomy i j with hlt | heq | hgt
  · exact (key hlt hi hj).elim
  · exact heq
  · exact (key hgt hj hi).elim

theorem IsRootPid.no_ancestorAt (ht : g.IsRootPid t) (d : Nat) : g.ancestorAt (d + 1) t = none := by
  obtain ⟨x, hx, hup⟩ := ht
  rw [ancestorAt_succ, parentOf_of_index hx, hup]
  rfl

theorem Consistent.ancestorAt_child (hw : g.Consistent) (hc : p ∈ g.childrenOf q) {d : Nat}
    (hd : g.ancestorAt d r = some p) : g.ancestorAt (d + 1) r = some q := by
  rw [ancestorAt_succ', hd, Option.bind_some]
  exact hw.childEdge_iff_parentEdge.mp hc

theorem Consistent.child_of_ancestorAt (hw : g.Consistent) {d : Nat} (hd : g.ancestorAt (d + 1) r = some q) :
    ∃ p ∈ g.childrenOf q, g.ancestorAt d r = some p := by
  rw [ancestorAt_succ'] at hd
  obtain ⟨p, hp, hpq⟩ := Option.bind_eq_some_iff.mp hd
  exact ⟨p, hw.childEdge_iff_parentEdge.mpr hpq, hp⟩

theorem Under.contains (hu : g.Under q r) (hq : g.contains q = true) : g.contains r = true := by
  obtain ⟨d, hd⟩ := hu
  cases d with
  | zero =>
    cases hd
    exact hq
  | succ d =>
    rw [ancestorAt_succ] at hd
    obtain ⟨b, hb, -⟩ := Option.bind_eq_some_iff.mp hd
    rw [contains_eq_isSome]
    exact index_of_parentOf hb

theorem Consistent.under_root (hw : g.Consistent) (hr : g.contains r = true) : ∃ t ∈ g.roots, g.Under t r := by
  obtain ⟨x, hx⟩ := exists_index_of_contains hr
  obtain ⟨n, hn, -⟩ := hw.arena.index_get hx
  obtain ⟨y, hxy, hylive, hup⟩ := hw.exists_top (x := x) (by rw [hn]; rfl)
  obtain ⟨m, hm⟩ := Option.isSome_iff_exists.mp hylive
  obtain ⟨d, hd⟩ := reflTransGen_iff_above.mp hxy
  have hy := hw.arena.get_index hm
  refine ⟨m.pid, (mem_roots hw.arena).mpr ⟨y, hy, hup⟩, d, ?_⟩
  rw [hw.ancestorAt_of_index hx, hd, Option.bind_some]
  exact hw.pidOf_iff.mpr hy

/-- `ls` is the outline of the subtrees of `qs` from depth `k`: each pid of `qs` in turn at
depth `k`, followed by the outline of its children, ascending by pid, from depth `k + 1`. -/
inductive Outline (g : Graph) : List Pid → Nat → List (Pid × Nat) → Prop
  | nil {k : Nat} : Outline g [] k []
  | cons {q : Pid} {qs : List Pid} {k : Nat} {l ls : List (Pid × Nat)} :
      Outline g (g.childrenOf q) (k + 1) l → Outline g qs k ls → Outline g (q :: qs) k ((q, k) :: (l ++ ls))

variable {qs qs' : List Pid} {k j : Nat} {l l' ls : List (Pid × Nat)}

theorem Outline.single (h : g.Outline (g.childrenOf q) (k + 1) l) : g.Outline [q] k ((q, k) :: l) := by
  simpa using Outline.cons h .nil

theorem Outline.append (h : g.Outline qs k l) (h' : g.Outline qs' k l') : g.Outline (qs ++ qs') k (l ++ l') := by
  induction h with
  | nil => exact h'
  | cons hc _ _ ih =>
    simp only [List.cons_append, List.append_assoc]
    exact .cons hc (ih h')

theorem Outline.unique (h : g.Outline qs k l) (h' : g.Outline qs k l') : l = l' := by
  induction h generalizing l' with
  | nil =>
    cases h'
    rfl
  | cons _ _ ihc ihr =>
    cases h' with
    | cons hc' hr' => rw [ihc hc', ihr hr']

theorem Outline.shift (h : g.Outline qs k l) (d : Nat) :
    g.Outline qs (k + d) (l.map fun a ↦ (a.1, a.2 + d)) := by
  induction h with
  | nil => exact .nil
  | @cons q qs k l ls _ _ ihc ihr =>
    rw [List.map_cons, List.map_append]
    refine .cons ?_ ihr
    rwa [Nat.add_right_comm]

theorem Consistent.mem_outline (hw : g.Consistent) (h : g.Outline qs k ls) :
    (r, j) ∈ ls ↔ ∃ q ∈ qs, ∃ d, j = k + d ∧ g.ancestorAt d r = some q := by
  induction h generalizing r j with
  | nil => simp
  | @cons q qs k l ls _ _ ihc ihr =>
    simp only [List.mem_cons, List.mem_append, Prod.mk.injEq, ihc, ihr]
    constructor
    · rintro (⟨rfl, rfl⟩ | ⟨p, hp, d, rfl, hd⟩ | ⟨q', hq', d, rfl, hd⟩)
      · exact ⟨r, .inl rfl, 0, rfl, rfl⟩
      · exact ⟨q, .inl rfl, d + 1, by omega, hw.ancestorAt_child hp hd⟩
      · exact ⟨q', .inr hq', d, rfl, hd⟩
    · rintro ⟨q', hq', d, rfl, hd⟩
      rcases hq' with rfl | hq'
      · cases d with
        | zero =>
          cases hd
          exact .inl ⟨rfl, rfl⟩
        | succ d =>
          obtain ⟨p, hp, hpd⟩ := hw.child_of_ancestorAt hd
          exact .inr (.inl ⟨p, hp, d, by omega, hpd⟩)
      · exact .inr (.inr ⟨q', hq', d, rfl, hd⟩)

theorem Consistent.mem_outline_fst (hw : g.Consistent) (h : g.Outline qs k ls) :
    r ∈ ls.map Prod.fst ↔ ∃ q ∈ qs, g.Under q r := by
  simp only [List.mem_map, Prod.exists, exists_and_right, exists_eq_right]
  constructor
  · rintro ⟨j, hj⟩
    obtain ⟨q, hq, d, -, hd⟩ := (hw.mem_outline h).mp hj
    exact ⟨q, hq, d, hd⟩
  · rintro ⟨q, hq, d, hd⟩
    exact ⟨k + d, (hw.mem_outline h).mpr ⟨q, hq, d, rfl, hd⟩⟩

def Apart (g : Graph) (qs : List Pid) : Prop :=
  qs.Pairwise fun q q' ↦ ∀ r, g.Under q r → ¬ g.Under q' r

theorem Consistent.apart_childrenOf (hw : g.Consistent) (q : Pid) : g.Apart (g.childrenOf q) := by
  refine hw.childrenOf_sorted.imp_of_mem fun {c c'} hc hc' hlt ↦ ?_
  rintro r ⟨i, hi⟩ ⟨j, hj⟩
  have hij := hw.ancestorAt_inj (hw.ancestorAt_child hc hi) (hw.ancestorAt_child hc' hj)
  rw [Nat.add_right_cancel hij, hj] at hi
  exact Nat.ne_of_lt hlt (Option.some.inj hi).symm

theorem Consistent.apart_roots (hw : g.Consistent) : g.Apart g.roots := by
  have above : ∀ {r t t' : Pid} {i j : Nat}, g.IsRootPid t → i < j → g.ancestorAt i r = some t →
      g.ancestorAt j r ≠ some t' := by
    intro r t t' i j ht hij hi hj
    obtain ⟨d, rfl⟩ := Nat.exists_eq_add_of_lt hij
    rw [Nat.add_assoc, ancestorAt_add, hi, Option.bind_some, ht.no_ancestorAt] at hj
    cases hj
  refine roots_sorted.imp_of_mem fun {t t'} ht ht' hlt ↦ ?_
  rintro r ⟨i, hi⟩ ⟨j, hj⟩
  rcases Nat.lt_trichotomy i j with hij | rfl | hij
  · exact above ((mem_roots hw.arena).mp ht) hij hi hj
  · rw [hi] at hj
    exact Nat.ne_of_lt hlt (Option.some.inj hj)
  · exact above ((mem_roots hw.arena).mp ht') hij hj hi

theorem Consistent.nodup_outline (hw : g.Consistent) (h : g.Outline qs k ls) (hqs : g.Apart qs) :
    (ls.map Prod.fst).Nodup := by
  induction h with
  | nil => exact List.nodup_nil
  | @cons q qs k l ls hc hr ihc ihr =>
    obtain ⟨hsep, hqs⟩ := List.pairwise_cons.mp hqs
    have hbelow : ∀ r ∈ l.map Prod.fst, ∃ d, g.ancestorAt (d + 1) r = some q := by
      intro r hr
      obtain ⟨p, hp, d, hd⟩ := (hw.mem_outline_fst hc).mp hr
      exact ⟨d, hw.ancestorAt_child hp hd⟩
    have hdisj : ∀ r ∈ l.map Prod.fst, r ∉ ls.map Prod.fst := by
      intro r hrl hrs
      obtain ⟨d, hd⟩ := hbelow r hrl
      obtain ⟨q', hq', hu⟩ := (hw.mem_outline_fst hr).mp hrs
      exact hsep q' hq' r ⟨d + 1, hd⟩ hu
    rw [List.map_cons, List.map_append, List.nodup_cons, List.mem_append, List.nodup_append]
    refine ⟨?_, ihc (hw.apart_childrenOf q), ihr hqs, fun r hrl r' hrs hrr ↦ hdisj r hrl (hrr ▸ hrs)⟩
    rintro (hq | hq)
    · obtain ⟨d, hd⟩ := hbelow q hq
      exact hw.ancestorAt_succ_ne d q hd
    · obtain ⟨q', hq', hu⟩ := (hw.mem_outline_fst hr).mp hq
      exact hsep q' hq' q ⟨0, rfl⟩ hu

theorem Outline.block (h : g.Outline qs k ls) (hm : (p, j) ∈ ls) :
    ∃ A l C, ls = A ++ l ++ C ∧ g.Outline [p] j l := by
  induction h with
  | nil => cases hm
  | @cons q qs k l ls hc hr ihc ihr =>
    rcases List.mem_cons.mp hm with he | hm
    · cases he
      exact ⟨[], (p, j) :: l, ls, by simp, hc.single⟩
    rcases List.mem_append.mp hm with hm | hm
    · obtain ⟨A, l', C, rfl, hl'⟩ := ihc hm
      exact ⟨(q, k) :: A, l', C ++ ls, by simp, hl'⟩
    · obtain ⟨A, l', C, rfl, hl'⟩ := ihr hm
      exact ⟨(q, k) :: l ++ A, l', C, by simp, hl'⟩

theorem Consistent.outline_roots_perm (hw : g.Consistent) (h : g.Outline g.roots 0 ls) :
    (ls.map Prod.fst).Perm g.pids := by
  refine (List.perm_ext_iff_of_nodup (hw.nodup_outline h hw.apart_roots) Std.TreeMap.nodup_keys).mpr
    fun r ↦ ?_
  rw [hw.mem_outline_fst h, Std.TreeMap.mem_keys, Std.TreeMap.mem_iff_contains]
  constructor
  · rintro ⟨t, ht, hu⟩
    obtain ⟨y, hy, -⟩ := (mem_roots hw.arena).mp ht
    exact hu.contains (contains_of_index hy)
  · exact hw.under_root

theorem Consistent.depth_of_outline_roots (hw : g.Consistent) (h : g.Outline g.roots 0 ls)
    (hm : (r, j) ∈ ls) : g.Depth r j := by
  obtain ⟨t, ht, d, rfl, hd⟩ := (hw.mem_outline h).mp hm
  exact ⟨t, by rwa [Nat.zero_add], (mem_roots hw.arena).mp ht⟩

end KeystrokeTally.Proc.Graph
