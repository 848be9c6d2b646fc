import KeystrokeTally.Disk.Tree

namespace KeystrokeTally.Disk

/-- A name that is one path component. -/
structure Component (name : String) : Prop where
  ne_empty : name ≠ ""
  ne_dot : name ≠ "."
  ne_dotdot : name ≠ ".."
  ne_work : name ≠ workName
  no_slash : '/' ∉ name.toList

variable {r n : String}

theorem toList_child (r n : String) : (r ++ "/" ++ n).toList = r.toList ++ '/' :: n.toList := by
  simp [String.toList_append]

theorem components_child (hr : r ≠ "") (hn : Component n) : components (r ++ "/" ++ n) = components r ++ [n] := by
  have hhead : (r ++ "/" ++ n).toList.head? = r.toList.head? := by
    rw [toList_child]
    cases h : r.toList with
    | nil => exact absurd (String.toList_eq_nil_iff.mp h) hr
    | cons c cs => rfl
  have hsplit : ((r ++ "/" ++ n).toList.splitOn '/').map String.ofList =
      (r.toList.splitOn '/').map String.ofList ++ [n] := by
    rw [toList_child, List.splitOn_append_cons_self, List.splitOn_eq_singleton hn.no_slash]
    simp
  have hkeep : (n != "" && n != ".") = true := by simp [hn.ne_empty, hn.ne_dot]
  unfold components
  rw [hhead, hsplit, List.filter_append]
  simp only [List.filter_cons, List.filter_nil, hkeep, if_true]
  generalize List.filter (fun c => c != "" && c != ".") (List.map String.ofList (List.splitOn '/' r.toList)) = P
  have hstart : ((P ++ [n]).head? == some workName) = (P.head? == some workName) := by
    cases P <;> simp [hn.ne_work]
  rw [hstart, List.foldl_append]
  simp [hn.ne_dotdot]

namespace Tree

variable {t : Tree}

theorem walk_snoc {m : Nat} (x : String) : ∀ (done cs : List String), cs ≠ [] →
    stat.walk t done cs = .ok (.dir m) → (stat.walk t done (cs ++ [x])).toOption = t.at? (done ++ cs ++ [x])
  | _, [], hcs, _ => absurd rfl hcs
  | done, [c], _, h => by
    cases hat : t.at? (done ++ [c]) with
    | none => simp [stat.walk, hat] at h
    | some i =>
      simp only [stat.walk, hat, Except.ok.injEq] at h
      subst h
      simp only [List.cons_append, List.nil_append, stat.walk, hat, List.append_assoc]
      cases t.at? (done ++ c :: [x]) <;> rfl
  | done, c :: c' :: rest, _, h => by
    cases hat : t.at? (done ++ [c]) with
    | none => simp [stat.walk, hat] at h
    | some i =>
      cases i with
      | file content mode => simp [stat.walk, hat] at h
      | dir mode =>
        simp only [stat.walk, hat] at h
        have hrest := walk_snoc x (done ++ [c]) (c' :: rest) (List.cons_ne_nil _ _) h
        rw [List.cons_append, stat.walk]
        · simpa [hat] using hrest
        · simp

theorem stat_child {m : Nat} (hr : r ≠ "") (hn : Component n) (h : t.stat r = .ok (.dir m)) :
    (t.stat (r ++ "/" ++ n)).toOption = t.at? (components r ++ [n]) := by
  unfold stat at h ⊢
  rw [components_child hr hn]
  cases hcs : components r with
  | nil =>
    simp only [List.nil_append, stat.walk]
    cases t.at? [n] <;> rfl
  | cons c cs =>
    rw [hcs] at h
    simpa using walk_snoc n [] (c :: cs) (List.cons_ne_nil _ _) h

theorem exists?_child {m : Nat} (hr : r ≠ "") (hn : Component n) (h : t.stat r = .ok (.dir m)) :
    t.exists? (r ++ "/" ++ n) = (t.at? (components r ++ [n])).isSome := by
  rw [exists?, stat_child hr hn h]

theorem listed_eq_some_iff (cs kc : List String) (n : String) :
    (if (kc.length == cs.length + 1 && kc.take cs.length == cs) = true then kc.getLast? else none) = some n ↔
      kc = cs ++ [n] := by
  constructor
  · intro h
    split at h
    case isTrue hk =>
      simp only [Bool.and_eq_true, beq_iff_eq] at hk
      obtain ⟨hlen, htake⟩ := hk
      have hne : kc ≠ [] := fun he ↦ by simp [he] at hlen
      rw [List.getLast?_eq_some_getLast hne, Option.some.injEq] at h
      rw [← List.dropLast_concat_getLast hne, List.dropLast_eq_take, hlen, Nat.add_sub_cancel, htake, h]
    case isFalse => cases h
  · rintro rfl
    simp

theorem list_eq_ok {names : List String} (h : t.list r = .ok names) :
    (∃ m, t.stat r = .ok (.dir m)) ∧ ∀ n, n ∈ names ↔ ∃ k ∈ t.items.keys, components k = components r ++ [n] := by
  unfold list at h
  split at h
  case h_1 m hstat =>
    simp only [Except.ok.injEq] at h
    subst h
    refine ⟨⟨m, hstat⟩, fun n ↦ ?_⟩
    simp only [List.mem_filterMap]
    exact exists_congr fun k ↦ and_congr_right fun _ ↦ listed_eq_some_iff _ _ n
  all_goals cases h

theorem list_of_stat_error {e : IoError} (h : t.stat r = .error e) : t.list r = .error e := by
  unfold list
  rw [h]

def KeysPrinted (t : Tree) : Prop := ∀ k ∈ t.items.keys, keyOf (components k) = k

section Printed

variable (hk : t.KeysPrinted) {names : List String} (h : t.list r = .ok names)
include hk h

theorem at?_listed (hn : n ∈ names) : (t.at? (components r ++ [n])).isSome := by
  obtain ⟨k, hkey, hck⟩ := ((list_eq_ok h).2 n).mp hn
  rw [at?, ← hck, hk k hkey, Std.TreeMap.isSome_getElem?_iff_mem]
  exact Std.TreeMap.mem_of_mem_keys hkey

theorem nodup_list : names.Nodup := by
  have hlist := h
  unfold list at hlist
  split at hlist
  case h_1 =>
    simp only [Except.ok.injEq] at hlist
    subst hlist
    rw [List.Nodup, List.pairwise_filterMap]
    refine Std.TreeMap.nodup_keys.imp_of_mem fun ha hb hab n hna n' hnb heq ↦ hab ?_
    subst heq
    rw [listed_eq_some_iff] at hna hnb
    rw [← hk _ ha, ← hk _ hb, hna, hnb]
  all_goals cases hlist

end Printed

end Tree

end KeystrokeTally.Disk
