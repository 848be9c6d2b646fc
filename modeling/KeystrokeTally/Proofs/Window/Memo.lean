import Mathlib.Data.Set.Card
import KeystrokeTally.Window.Cache

namespace KeystrokeTally.Window

open Proc (Pid)

/-- A call on the window table or on the memo in front of it. -/
inductive Call where
  | declare (w : Handle) (m : Metadata)
  | forget (w : Handle)
  | className (w : Handle)
  | owner (w : Handle)
  | invalidate (w : Handle)
  deriving DecidableEq

namespace Call

def window : Call → Handle
  | .declare w _ | .forget w | .className w | .owner w | .invalidate w => w

def isQuery : Call → Bool
  | .className _ | .owner _ => true
  | _ => false

def onTable (t : Table) : Call → Table
  | .declare w m => t.declare w m
  | .forget w => (t.forget w).2
  | _ => t

def onMemo (c : Cache) : Call → Cache
  | .invalidate w => c.invalidate w
  | _ => c

theorem onMemo_hits (m : Cache) (c : Call) : (onMemo m c).hits = m.hits := by
  cases c <;> rfl

theorem onMemo_misses (m : Cache) (c : Call) : (onMemo m c).misses = m.misses := by
  cases c <;> rfl

theorem onMemo_entries (m : Cache) (c : Call) (v : Handle) :
    (onMemo m c).entries[v]? = if c = .invalidate v then none else m.entries[v]? := by
  cases c with
  | invalidate w =>
    by_cases hv : w = v
    · simp [onMemo, Cache.invalidate, hv]
    · simp [onMemo, Cache.invalidate, Std.TreeMap.getElem?_erase, hv]
  | _ => simp [onMemo]

end Call

/-- What a call answers. -/
inductive Reply where
  | done
  | forgotten (m : Option Metadata)
  | className (n : String)
  | owner (o : Option Pid)
  deriving DecidableEq

/-- The window table and the memo in front of it. -/
structure Resolver where
  table : Table
  cache : Cache

namespace Resolver

def step (r : Resolver) : Call → Reply × Resolver
  | .declare w m => (.done, { r with table := r.table.declare w m })
  | .forget w => (.forgotten (r.table.forget w).1, { r with table := (r.table.forget w).2 })
  | .className w => (.className (r.cache.className r.table w).1, { r with cache := (r.cache.className r.table w).2 })
  | .owner w => (.owner (r.cache.owner r.table w).1, { r with cache := (r.cache.owner r.table w).2 })
  | .invalidate w => (.done, { r with cache := r.cache.invalidate w })

def run (r : Resolver) (calls : List Call) : Resolver :=
  calls.foldl (fun r c => (r.step c).2) r

end Resolver

def withPast : List Call → List (List Call × Call)
  | [] => []
  | c :: cs => ([], c) :: (withPast cs).map fun (past, d) => (c :: past, d)

def tableAfter (t : Table) (calls : List Call) : Table :=
  calls.foldl Call.onTable t

/-- The entry the memo should hold for `w` after `calls` over the table `t`: among the calls
since the latest invalidation of `w`, the first query of `w` at which the table knew `w` gives
the table's entry at that moment. -/
def memoOf (t : Table) (calls : List Call) (w : Handle) : Option Metadata :=
  (((withPast calls).reverse.takeWhile fun (_, c) => c != .invalidate w).reverse.findSome?
    fun (past, c) => if c.isQuery && c.window == w then (tableAfter t past).query? w else none)

/-- What a call should answer after `calls`: a query reads the memo's entry when there is one
and the table's current entry otherwise; the class of an unknown window is empty. -/
def expectedReply (t : Table) (calls : List Call) : Call → Reply
  | .declare _ _ | .invalidate _ => .done
  | .forget w => .forgotten ((tableAfter t calls).query? w)
  | .className w => .className ((((memoOf t calls w).or ((tableAfter t calls).query? w)).map (·.className)).getD "")
  | .owner w => .owner (((memoOf t calls w).or ((tableAfter t calls).query? w)).bind (·.owner))

def servedFromMemo (t : Table) (calls : List Call) : Nat :=
  (withPast calls).countP fun (past, c) => c.isQuery && (memoOf t past c.window).isSome

def sentToTable (t : Table) (calls : List Call) : Nat :=
  (withPast calls).countP fun (past, c) => c.isQuery && (memoOf t past c.window).isNone

theorem withPast_append_singleton (calls : List Call) (c : Call) :
    withPast (calls ++ [c]) = withPast calls ++ [(calls, c)] := by
  induction calls with
  | nil => rfl
  | cons d ds ih => simp [withPast, ih]

theorem tableAfter_append_singleton (t : Table) (calls : List Call) (c : Call) :
    tableAfter t (calls ++ [c]) = Call.onTable (tableAfter t calls) c := by
  simp [tableAfter]

theorem memoOf_append_singleton (t : Table) (calls : List Call) (c : Call) (w : Handle) :
    memoOf t (calls ++ [c]) w =
      if c = .invalidate w then none
      else (memoOf t calls w).or (if c.isQuery && c.window == w then (tableAfter t calls).query? w else none) := by
  unfold memoOf
  rw [withPast_append_singleton, List.reverse_append, List.reverse_singleton, List.singleton_append,
    List.takeWhile_cons]
  by_cases hc : c = .invalidate w
  · simp [hc]
  · simp [hc, List.findSome?_append]

theorem servedFromMemo_append_singleton (t : Table) (calls : List Call) (c : Call) :
    servedFromMemo t (calls ++ [c]) =
      servedFromMemo t calls + (c.isQuery && (memoOf t calls c.window).isSome).toNat := by
  simp [servedFromMemo, withPast_append_singleton, List.countP_append, Bool.toNat]

theorem sentToTable_append_singleton (t : Table) (calls : List Call) (c : Call) :
    sentToTable t (calls ++ [c]) =
      sentToTable t calls + (c.isQuery && (memoOf t calls c.window).isNone).toNat := by
  simp [sentToTable, withPast_append_singleton, List.countP_append, Bool.toNat]

section Lookup

variable (c : Cache) (t : Table) (w : Handle)

theorem lookup_fst : (c.lookup t w).1 = c.entries[w]?.or (t.query? w) := by
  unfold Cache.lookup
  split
  case h_1 m hm => simp [hm]
  case h_2 hm =>
    simp only [hm, Option.none_or]
    split <;> simp_all

theorem lookup_entries (v : Handle) :
    (c.lookup t w).2.entries[v]? = if v = w then c.entries[w]?.or (t.query? w) else c.entries[v]? := by
  unfold Cache.lookup
  split
  case h_1 m hm =>
    by_cases hv : v = w
    · simp [hv, hm]
    · simp [hv]
  case h_2 hm =>
    split
    case h_1 m hq =>
      by_cases hv : v = w
      · simp [hv, hm, hq]
      · simp [Std.TreeMap.getElem?_insert, Ne.symm hv, hv]
    case h_2 hq =>
      by_cases hv : v = w
      · simp [hv, hm, hq]
      · simp [hv]

theorem lookup_hits : (c.lookup t w).2.hits = c.hits + c.entries[w]?.isSome.toNat := by
  unfold Cache.lookup
  split
  case h_1 m hm => simp [hm]
  case h_2 hm => split <;> simp [hm]

theorem lookup_misses : (c.lookup t w).2.misses = c.misses + c.entries[w]?.isNone.toNat := by
  unfold Cache.lookup
  split
  case h_1 m hm => simp [hm]
  case h_2 hm => split <;> simp [hm]

end Lookup

/-- A resolver that tracks a run from the table `t` and an empty memo: its table is the one the
table calls leave, its memo holds what the history says, and its counters count the queries. -/
structure Tracks (t : Table) (calls : List Call) (r : Resolver) : Prop where
  table : r.table = tableAfter t calls
  entries : ∀ w, r.cache.entries[w]? = memoOf t calls w
  hits : r.cache.hits = servedFromMemo t calls
  misses : r.cache.misses = sentToTable t calls

theorem tracks_start (t : Table) : Tracks t [] ⟨t, {}⟩ where
  table := rfl
  entries w := by simp [memoOf, withPast]
  hits := rfl
  misses := rfl

section Step

variable {t : Table} {calls : List Call} {r : Resolver}

theorem Tracks.reply (h : Tracks t calls r) (c : Call) : (r.step c).1 = expectedReply t calls c := by
  cases c with
  | declare w m => rfl
  | forget w => simp [Resolver.step, expectedReply, Table.forget, Table.query?, h.table]
  | className w =>
    simp [Resolver.step, expectedReply, Cache.className, lookup_fst, h.entries, h.table]
  | owner w =>
    simp [Resolver.step, expectedReply, Cache.owner, lookup_fst, h.entries, h.table]
  | invalidate w => rfl

theorem step_of_query {c : Call} (hq : c.isQuery = true) :
    (r.step c).2 = { r with cache := (r.cache.lookup r.table c.window).2 } := by
  cases c <;> first | rfl | cases hq

theorem step_of_not_query {c : Call} (hq : c.isQuery = false) :
    (r.step c).2 = ⟨Call.onTable r.table c, Call.onMemo r.cache c⟩ := by
  cases c <;> first | rfl | cases hq

theorem Tracks.query (h : Tracks t calls r) {c : Call} (hq : c.isQuery = true) :
    (∀ v, (r.step c).2.cache.entries[v]? =
      if v = c.window then (memoOf t calls v).or ((tableAfter t calls).query? v) else memoOf t calls v) ∧
    (r.step c).2.cache.hits = r.cache.hits + (memoOf t calls c.window).isSome.toNat ∧
    (r.step c).2.cache.misses = r.cache.misses + (memoOf t calls c.window).isNone.toNat ∧
    (r.step c).2.table = r.table := by
  rw [step_of_query hq]
  refine ⟨fun v => ?_, by rw [lookup_hits, h.entries], by rw [lookup_misses, h.entries], rfl⟩
  rw [lookup_entries, h.entries, h.entries, h.table]
  split
  case isTrue hv => rw [hv]
  case isFalse => rfl

theorem Tracks.step (h : Tracks t calls r) (c : Call) : Tracks t (calls ++ [c]) (r.step c).2 := by
  cases hq : c.isQuery
  case true =>
    obtain ⟨hentries, hhits, hmisses, htable⟩ := h.query hq
    refine ⟨?_, fun v => ?_, ?_, ?_⟩
    · rw [htable, h.table, tableAfter_append_singleton]
      cases c <;> first | rfl | cases hq
    · have hne : c ≠ .invalidate v := by rintro rfl; cases hq
      rw [hentries, memoOf_append_singleton, if_neg hne, hq, Bool.true_and]
      by_cases hv : v = c.window
      · simp [hv]
      · simp [hv, Ne.symm hv]
    · rw [hhits, h.hits, servedFromMemo_append_singleton, hq, Bool.true_and]
    · rw [hmisses, h.misses, sentToTable_append_singleton, hq, Bool.true_and]
  case false =>
    rw [step_of_not_query hq]
    refine ⟨by rw [h.table, tableAfter_append_singleton], fun v => ?_, ?_, ?_⟩
    · rw [Call.onMemo_entries, memoOf_append_singleton, hq, Bool.false_and, if_neg Bool.false_ne_true,
        Option.or_none, h.entries]
    · rw [Call.onMemo_hits, h.hits, servedFromMemo_append_singleton, hq, Bool.false_and, Bool.toNat_false,
        Nat.add_zero]
    · rw [Call.onMemo_misses, h.misses, sentToTable_append_singleton, hq, Bool.false_and, Bool.toNat_false,
        Nat.add_zero]

end Step

theorem tracks_run (t : Table) (calls : List Call) : Tracks t calls (Resolver.run ⟨t, {}⟩ calls) := by
  induction calls using List.reverseRecOn with
  | nil => exact tracks_start t
  | append_singleton calls c ih =>
    rw [Resolver.run, List.foldl_append, List.foldl_cons, List.foldl_nil]
    exact ih.step c

theorem Tracks.keeps (h : Tracks t calls r) {c : Call} {w : Handle} {m : Metadata}
    (hm : r.cache.entries[w]? = some m) (hc : c ≠ .invalidate w) : (r.step c).2.cache.entries[w]? = some m := by
  rw [(h.step c).entries, memoOf_append_singleton, if_neg hc, ← h.entries, hm, Option.some_or]

theorem Tracks.size (h : Tracks t calls r) : r.cache.size = {w | (memoOf t calls w).isSome}.ncard := by
  have hset : {w | (memoOf t calls w).isSome} = ↑r.cache.entries.keys.toFinset := by
    ext w
    simp [Std.TreeMap.mem_keys, Std.TreeMap.mem_iff_isSome_getElem?, h.entries]
  rw [hset, Set.ncard_coe_finset, List.toFinset_card_of_nodup Std.TreeMap.nodup_keys, Std.TreeMap.length_keys]
  rfl

/-- Over any run of calls from a table and an empty memo: the memo holds, for each window, the
table's entry at the first query since the window was last invalidated at which the table knew
it; every next call answers from that entry, or from the table when there is none; an entry
leaves only by invalidation; the memo's size is the number of windows with an entry; and its
counters are the numbers of queries answered from the memo and sent to the table. -/
theorem memo_keeps_first_answer (t : Table) (calls : List Call) :
    let r := Resolver.run ⟨t, {}⟩ calls
    r.table = tableAfter t calls ∧
    (∀ w, r.cache.entries[w]? = memoOf t calls w) ∧
    (∀ c, (r.step c).1 = expectedReply t calls c) ∧
    (∀ c w m, r.cache.entries[w]? = some m → c ≠ .invalidate w → (r.step c).2.cache.entries[w]? = some m) ∧
    r.cache.size = {w | (memoOf t calls w).isSome}.ncard ∧
    r.cache.hits = servedFromMemo t calls ∧ r.cache.misses = sentToTable t calls := by
  have h := tracks_run t calls
  exact ⟨h.table, h.entries, h.reply, fun _ _ _ hm hc => h.keeps hm hc, h.size, h.hits, h.misses⟩

example :
    ((Resolver.run ⟨{}, {}⟩ [.declare 42 ⟨"XTerm", some 100⟩, .className 42,
      .declare 42 ⟨"Firefox", some 200⟩]).step (.className 42)).1 = .className "XTerm" := by
  decide

end KeystrokeTally.Window
