import KeystrokeTally.Proofs.Disk.Paths
import KeystrokeTally.Proc.Source
import Mathlib.Data.String.Basic
import Mathlib.Data.Prod.Lex

namespace KeystrokeTally.Proc

open Disk

theorem listedBefore_iff (a b : Entry) :
    a.listedBefore b = true ↔ toLex (a.pid, toLex (a.ppid, a.name)) ≤ toLex (b.pid, toLex (b.ppid, b.name)) := by
  simp only [Entry.listedBefore, Bool.or_eq_true, Bool.and_eq_true, decide_eq_true_eq, beq_iff_eq,
    Prod.Lex.toLex_le_toLex]

theorem listedBefore_trans (a b c : Entry) (hab : a.listedBefore b = true) (hbc : b.listedBefore c = true) :
    a.listedBefore c = true :=
  (listedBefore_iff a c).mpr (le_trans ((listedBefore_iff a b).mp hab) ((listedBefore_iff b c).mp hbc))

theorem listedBefore_total (a b : Entry) : (a.listedBefore b || b.listedBefore a) = true := by
  rw [Bool.or_eq_true, listedBefore_iff, listedBefore_iff]
  exact le_total _ _

theorem pairwise_pid_le_mergeSort (l : List Entry) : (l.mergeSort Entry.listedBefore).Pairwise (·.pid ≤ ·.pid) := by
  refine (List.pairwise_mergeSort listedBefore_trans listedBefore_total l).imp fun {a b} h ↦ ?_
  have hlex := (listedBefore_iff a b).mp h
  simp only [Prod.Lex.toLex_le_toLex] at hlex
  rcases hlex with hlt | ⟨heq, -⟩
  · exact Nat.le_of_lt hlt
  · exact Nat.le_of_eq heq

/-- The process an entry of a procfs directory gives: its name reads as a pid, and its stat file
holds the line of that pid. -/
def entryOf (d : Disk.Tree) (root name : String) : Option Entry :=
  (pidOfName name).bind fun p =>
    match d.readText (root ++ "/" ++ name ++ "/stat") with
    | .ok text => (parseStat text).bind fun e => if e.pid == p then some e else none
    | .error _ => none

def skips (d : Disk.Tree) (root name : String) : Bool :=
  (pidOfName name).isSome && (entryOf d root name).isNone

theorem entryOf_eq_some_iff (d : Disk.Tree) (root name : String) (e : Entry) :
    entryOf d root name = some e ↔ ∃ text, pidOfName name = some e.pid ∧
      d.readText (root ++ "/" ++ name ++ "/stat") = .ok text ∧ parseStat text = some e := by
  unfold entryOf
  cases hp : pidOfName name with
  | none => simp
  | some p =>
    cases hr : d.readText (root ++ "/" ++ name ++ "/stat") with
    | error err => simp
    | ok text =>
      cases hs : parseStat text with
      | none => simp [hs]
      | some e' =>
        simp only [hs, Option.bind_some, Option.some.injEq, Except.ok.injEq]
        by_cases he : e'.pid = p
        · subst he
          simp only [beq_self_eq_true, if_true, Option.some.injEq]
          constructor
          · rintro rfl
            exact ⟨text, rfl, rfl, hs⟩
          · rintro ⟨_, -, rfl, hse⟩
            rw [hs] at hse
            exact Option.some.inj hse
        · rw [if_neg (by simpa using he)]
          simp only [reduceCtorEq, false_iff]
          rintro ⟨_, rfl, rfl, hse⟩
          rw [hs, Option.some.injEq] at hse
          exact he (hse ▸ rfl)

section Read

variable {d : Disk.Tree} {root : String}

theorem foldl_entries (d : Disk.Tree) (root : String) (F : List Entry × Nat → String → List Entry × Nat)
    (hF : ∀ acc name, F acc name = ((entryOf d root name).toList ++ acc.1, acc.2 + if skips d root name then 1 else 0)) :
    ∀ (names : List String) (acc : List Entry × Nat),
      names.foldl F acc = ((names.filterMap (entryOf d root)).reverse ++ acc.1, acc.2 + names.countP (skips d root))
  | [], acc => by simp
  | n :: ns, acc => by
    rw [List.foldl_cons, foldl_entries d root F hF ns, hF]
    cases h : entryOf d root n <;> simp [h, List.countP_cons] <;> omega

theorem readProcfs_of_list_error {e : IoError} (h : d.list root = .error e) :
    readProcfs d root = .error ⟨root, e⟩ := by
  unfold readProcfs
  rw [h]
  rfl

theorem readProcfs_of_list {names : List String} (h : d.list root = .ok names) :
    ∃ es, readProcfs d root = .ok (es, names.countP (skips d root)) ∧
      es.Perm (names.filterMap (entryOf d root)) ∧ es.Pairwise (·.pid ≤ ·.pid) := by
  unfold readProcfs
  simp only [h, pure_bind]
  rw [foldl_entries d root _ ?step names ([], 0)]
  · simp only [List.append_nil, Nat.zero_add]
    refine ⟨_, rfl, ?_, pairwise_pid_le_mergeSort _⟩
    simpa using (List.mergeSort_perm _ _).trans (List.reverse_perm _)
  case step =>
    intro acc name
    unfold skips entryOf
    cases hp : pidOfName name with
    | none => simp
    | some p =>
      cases hr : d.readText (root ++ "/" ++ name ++ "/stat") with
      | error err => simp
      | ok text =>
        cases hs : parseStat text with
        | none => simp [hs]
        | some e => by_cases he : e.pid = p <;> simp [hs, he]

end Read

theorem component_of_pidOfName {name : String} {p : Pid} (h : pidOfName name = some p) : Component name := by
  unfold pidOfName at h
  split at h
  case isTrue => cases h
  case isFalse hname =>
    simp only [Bool.or_eq_true, Bool.not_eq_true', not_or, Bool.not_eq_false] at hname
    obtain ⟨hne, hall⟩ := hname
    have hdig : ∀ c ∈ name.toList, c.isDigit = true := List.all_eq_true.mp hall
    refine ⟨fun he ↦ hne (by rw [he]; rfl), ?_, ?_, ?_, fun hs ↦ absurd (hdig '/' hs) (by decide)⟩
    · rintro rfl
      exact absurd (hdig '.' (by decide)) (by decide)
    · rintro rfl
      exact absurd (hdig '.' (by decide)) (by decide)
    · rintro rfl
      exact absurd (hdig '<' (by decide)) (by decide)

variable {d : Disk.Tree} {root : String} {names : List String}

theorem alive_of_listed (hr : root ≠ "") (hk : d.KeysPrinted) (h : d.list root = .ok names) {name : String}
    (hn : name ∈ names) {p : Pid} (hp : pidOfName name = some p) (hcanon : toString p = name) :
    Source.alive d (.procfs root) p = true := by
  obtain ⟨⟨m, hstat⟩, -⟩ := Tree.list_eq_ok h
  simp only [Source.alive]
  rw [hcanon, Tree.exists?_child hr (component_of_pidOfName hp) hstat]
  exact Tree.at?_listed hk h hn

def CanonicalName (name : String) : Prop := ∀ p, pidOfName name = some p → toString p = name

/-- Enumeration and liveness of a procfs directory agree when its numeric names are canonical.
An unreadable root is reported with its cause. Otherwise, over a tree whose keys are the printed
forms of their paths, below a non-empty root whose every name that reads as a pid is that pid's
decimal text, the enumeration lists the processes of the entries whose stat line names the
entry's pid, strictly ascending by pid, each alive, and counts as skipped the entries whose name
reads as a pid but give no process. -/
theorem procfs_enumeration_agrees (hr : root ≠ "") (hk : d.KeysPrinted) :
    (∀ e, d.stat root = .error e → Source.enumerate d (.procfs root) = .error ⟨root, e⟩) ∧
    ∀ names, d.list root = .ok names → (∀ n ∈ names, CanonicalName n) →
      ∃ es, Source.enumerate d (.procfs root) = .ok (es, names.countP (skips d root)) ∧
        es.Pairwise (·.pid < ·.pid) ∧ (∀ e ∈ es, Source.alive d (.procfs root) e.pid = true) ∧
        ∀ e, e ∈ es ↔ ∃ n ∈ names, ∃ text, pidOfName n = some e.pid ∧
          d.readText (root ++ "/" ++ n ++ "/stat") = .ok text ∧ parseStat text = some e := by
  refine ⟨fun e he ↦ readProcfs_of_list_error (Tree.list_of_stat_error he), fun names h hcanon ↦ ?_⟩
  obtain ⟨es, hread, hperm, hsorted⟩ := readProcfs_of_list h
  have hmem : ∀ e, e ∈ es ↔ ∃ n ∈ names, entryOf d root n = some e := fun e ↦ by
    rw [hperm.mem_iff, List.mem_filterMap]
  have hname : ∀ n ∈ names, ∀ e, entryOf d root n = some e → toString e.pid = n := by
    intro n hn e he
    obtain ⟨_, hp, -⟩ := (entryOf_eq_some_iff d root n e).mp he
    exact hcanon n hn e.pid hp
  have hdistinct : es.Pairwise (·.pid ≠ ·.pid) := by
    rw [hperm.pairwise_iff (fun h ↦ Ne.symm h), List.pairwise_filterMap]
    refine (Tree.nodup_list hk h).imp_of_mem fun ha hb hab e he e' he' hpid ↦ hab ?_
    rw [← hname _ ha e he, ← hname _ hb e' he', hpid]
  refine ⟨es, hread, (hsorted.and hdistinct).imp fun h ↦ lt_of_le_of_ne h.1 h.2, fun e he ↦ ?_, fun e ↦ ?_⟩
  · obtain ⟨n, hn, hen⟩ := (hmem e).mp he
    obtain ⟨_, hp, -⟩ := (entryOf_eq_some_iff d root n e).mp hen
    exact alive_of_listed hr hk h hn hp (hname n hn e hen)
  · rw [hmem]
    exact exists_congr fun n ↦ and_congr_right fun _ ↦ entryOf_eq_some_iff d root n e

def initProcfs : Disk.Tree :=
  ⟨(((((∅ : Std.TreeMap String Disk.Item compare).insert "/" (.dir 0o755)).insert "/proc" (.dir 0o555)).insert
    "/proc/1" (.dir 0o555)).insert "/proc/1/stat" (.file (.text "1 (init) S 0") 0o444)).insert "/proc/self"
    (.dir 0o555)⟩

theorem procfs_enumerates_init :
    ∃ es, Source.enumerate initProcfs (.procfs "/proc") = .ok (es, 0) ∧ es.Pairwise (·.pid < ·.pid) ∧
      (∀ e ∈ es, Source.alive initProcfs (.procfs "/proc") e.pid = true) ∧ ⟨1, 0, "init"⟩ ∈ es := by
  have hlist : initProcfs.list "/proc" = .ok ["1", "self"] := by decide
  have hk : initProcfs.KeysPrinted := by
    unfold Tree.KeysPrinted
    decide
  have hcanon : ∀ n ∈ ["1", "self"], CanonicalName n := by
    intro n hn p hp
    simp only [List.mem_cons, List.not_mem_nil, or_false] at hn
    rcases hn with rfl | rfl
    · have h1 : pidOfName "1" = some 1 := by decide
      rw [h1, Option.some.injEq] at hp
      subst hp
      rfl
    · have hself : pidOfName "self" = none := by decide
      rw [hself] at hp
      cases hp
  obtain ⟨es, hread, hsorted, halive, hmem⟩ := (procfs_enumeration_agrees (by decide) hk).2 _ hlist hcanon
  have hcount : ["1", "self"].countP (skips initProcfs "/proc") = 0 := by decide
  rw [hcount] at hread
  exact ⟨es, hread, hsorted, halive, (hmem _).mpr ⟨"1", by simp, "1 (init) S 0", by decide, by decide, by decide⟩⟩

def paddedProcfs : Disk.Tree :=
  ⟨((((∅ : Std.TreeMap String Disk.Item compare).insert "/" (.dir 0o755)).insert "/proc" (.dir 0o555)).insert
    "/proc/0042" (.dir 0o555)).insert "/proc/0042/stat" (.file (.text "42 (a) S 1") 0o444)⟩

/-- The entry `0042` is enumerated as pid 42, yet pid 42 is not alive: its decimal text `42` is
no entry of the directory. -/
theorem procfs_padded_entry_not_alive :
    ∃ es, Source.enumerate paddedProcfs (.procfs "/proc") = .ok (es, 0) ∧ ⟨42, 1, "a"⟩ ∈ es ∧
      Source.alive paddedProcfs (.procfs "/proc") 42 = false := by
  have hlist : paddedProcfs.list "/proc" = .ok ["0042"] := by decide
  obtain ⟨es, hread, hperm, -⟩ := readProcfs_of_list hlist
  have hcount : ["0042"].countP (skips paddedProcfs "/proc") = 0 := by decide
  have hentry : entryOf paddedProcfs "/proc" "0042" = some ⟨42, 1, "a"⟩ := by decide
  rw [hcount] at hread
  refine ⟨es, hread, hperm.mem_iff.mpr (List.mem_filterMap.mpr ⟨"0042", by simp, hentry⟩), ?_⟩
  decide

end KeystrokeTally.Proc
