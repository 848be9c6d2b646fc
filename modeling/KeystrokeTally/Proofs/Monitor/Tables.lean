import KeystrokeTally.Proc.Source

namespace KeystrokeTally.Proc

theorem values_eq_map_toList {β : Type} (t : Std.TreeMap Pid β compare) : t.values = t.toList.map Prod.snd := by
  rw [show t.values = t.foldr (fun _ v l ↦ v :: l) [] from rfl, Std.TreeMap.foldr_eq_foldr_toList]
  induction t.toList with
  | nil => rfl
  | cons a l ih => simp [ih]

namespace Table

variable {t : Table} {e : Entry} {p : Pid}

def Keyed (t : Table) : Prop := ∀ ⦃p : Pid⦄ ⦃e : Entry⦄, t.entries[p]? = some e → e.pid = p

theorem keyed_empty : Keyed {} := by
  intro p e h
  simp at h

theorem Keyed.insert (ht : t.Keyed) (e : Entry) : (t.insert e).Keyed := by
  intro p e' h
  simp only [Table.insert, Std.TreeMap.getElem?_insert] at h
  split at h
  case isTrue heq =>
    cases h
    exact (Nat.compare_eq_eq.mp heq).symm ▸ rfl
  case isFalse => exact ht h

theorem Keyed.kill (ht : t.Keyed) (p : Pid) : (t.kill p).1.Keyed := by
  intro q e h
  simp only [Table.kill, Std.TreeMap.getElem?_erase] at h
  split at h
  case isTrue => cases h
  case isFalse => exact ht h

theorem Keyed.foldl_insert (ht : t.Keyed) : ∀ es : List Entry, (es.foldl Table.insert t).Keyed := by
  intro es
  induction es generalizing t with
  | nil => exact ht
  | cons e es ih => exact ih (ht.insert e)

theorem keyed_ofList (es : List Entry) : (ofList es).Keyed :=
  keyed_empty.foldl_insert es

theorem mem_list : e ∈ t.list ↔ ∃ p : Pid, t.entries[p]? = some e := by
  simp [list, values_eq_map_toList, Std.TreeMap.mem_toList_iff_getElem?_eq_some]

theorem Keyed.mem_list (ht : t.Keyed) : e ∈ t.list ↔ t.entries[e.pid]? = some e := by
  rw [Table.mem_list]
  exact ⟨fun ⟨p, hp⟩ ↦ ht hp ▸ hp, fun h ↦ ⟨_, h⟩⟩

theorem Keyed.nodup (ht : t.Keyed) : (t.list.map (·.pid)).Nodup := by
  have hkeys : t.list.map (·.pid) = t.entries.keys := by
    rw [list, values_eq_map_toList, List.map_map, ← Std.TreeMap.map_fst_toList_eq_keys]
    refine List.map_congr_left fun ⟨p, e⟩ hpe ↦ ?_
    exact ht (Std.TreeMap.mem_toList_iff_getElem?_eq_some.mp hpe)
  rw [hkeys]
  exact Std.TreeMap.nodup_keys

theorem has_iff : t.has p ↔ ∃ e, t.entries[p]? = some e := by
  rw [has, Std.TreeMap.contains_eq_isSome_getElem?, Option.isSome_iff_exists]

theorem Keyed.has_iff (ht : t.Keyed) : t.has p ↔ ∃ e ∈ t.list, e.pid = p := by
  rw [Table.has_iff]
  constructor
  · rintro ⟨e, he⟩
    exact ⟨e, ht.mem_list.mpr (ht he ▸ he), ht he⟩
  · rintro ⟨e, he, rfl⟩
    exact ⟨e, ht.mem_list.mp he⟩

theorem has_insert : (t.insert e).has p ↔ t.has p ∨ e.pid = p := by
  simp only [has, Table.insert, Std.TreeMap.contains_insert, Bool.or_eq_true, beq_iff_eq]
  constructor
  · rintro (h | h)
    · exact Or.inr (Nat.compare_eq_eq.mp h)
    · exact Or.inl h
  · rintro (h | h)
    · exact Or.inr h
    · exact Or.inl (Nat.compare_eq_eq.mpr h)

theorem has_kill {q : Pid} : (t.kill p).1.has q ↔ t.has q ∧ q ≠ p := by
  simp only [has, Table.kill, Std.TreeMap.contains_erase, Bool.and_eq_true, bne_iff_ne, ne_eq]
  constructor
  · rintro ⟨hne, hq⟩
    exact ⟨hq, fun h ↦ hne (Nat.compare_eq_eq.mpr h.symm)⟩
  · rintro ⟨hq, hne⟩
    exact ⟨fun h ↦ hne (Nat.compare_eq_eq.mp h).symm, hq⟩

theorem has_foldl_insert (es : List Entry) : (es.foldl insert t).has p ↔ t.has p ∨ ∃ e ∈ es, e.pid = p := by
  induction es generalizing t with
  | nil => simp
  | cons e es ih =>
    rw [List.foldl_cons, ih, has_insert]
    simp only [List.mem_cons, exists_eq_or_imp]
    exact or_assoc

theorem has_ofList (es : List Entry) : (ofList es).has p ↔ ∃ e ∈ es, e.pid = p := by
  rw [ofList, has_foldl_insert]
  simp [has]

end Table

namespace Source

/-- A source read from tables in memory, each filing its entries under their own pids. -/
inductive Tabled : Source → Prop
  | table {t : Table} : t.Keyed → Tabled (.table t)
  | layered {host : Source} {declared : Table} : Tabled host → declared.Keyed → Tabled (.layered host declared)

theorem Tabled.enumerate {src : Source} (hs : src.Tabled) (d : Disk.Tree) :
    ∃ es, src.enumerate d = .ok (es, 0) ∧ (es.map (·.pid)).Nodup ∧
      ∀ p, src.alive d p = true ↔ ∃ e ∈ es, e.pid = p := by
  induction hs with
  | table ht => exact ⟨_, rfl, ht.nodup, fun _ ↦ ht.has_iff⟩
  | @layered host declared _ hd ih =>
    obtain ⟨hs, hen, -, halive⟩ := ih
    have hmerged := (Table.keyed_ofList hs).foldl_insert declared.list
    refine ⟨_, by simp only [Source.enumerate, hen]; rfl, hmerged.nodup, fun p ↦ ?_⟩
    rw [Source.alive, ← hmerged.has_iff, Table.has_foldl_insert, Table.has_ofList, Bool.or_eq_true,
      hd.has_iff, halive]
    exact or_comm

end Source

end KeystrokeTally.Proc
