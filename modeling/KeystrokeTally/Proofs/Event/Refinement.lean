import KeystrokeTally.Proofs.Event.Reference
import KeystrokeTally.Proofs.Tally.Backends
import KeystrokeTally.Proofs.Tally.Bucket

namespace KeystrokeTally.Event

open Classify (GroupId)
open Config (GroupSpec)
open Replay (Record Reader declare eventOf splitLines writeRecords)
open Tally (Key MemoryStore total)

section Lines

variable {p : Pipeline MemoryStore} {q : Reader} {r : PumpReport}

theorem pumpFrom_succ_of_next (f : Feed) (s : Scene)
    (h : p.feed.next p.scene = f.next s) (fuel : Nat) (r : PumpReport) :
    p.pumpFrom (fuel + 1) r = ({ p with feed := f, scene := s } : Pipeline MemoryStore).pumpFrom (fuel + 1) r := by
  simp only [Pipeline.pumpFrom, h]

theorem next_replay (hq : p.feed = .replay q) (hf : q.fault = none) :
    p.feed.next p.scene =
      ((q.readFrom q.lines q.line p.scene).1, .replay (q.readFrom q.lines q.line p.scene).2.1,
        (q.readFrom q.lines q.line p.scene).2.2) := by
  rw [hq, Feed.next, Replay.next_of_fault_none q hf]

theorem readFrom_cons (q : Reader) (l : String) (ls : List String) (n : Nat) (s : Scene) :
    q.readFrom (l :: ls) n s =
      match lineRecord l with
      | none => q.readFrom ls (n + 1) s
      | some (.error e) => (.failed (.parse (n + 1) e), { q with lines := ls, line := n + 1 }, s)
      | some (.ok rec) =>
        match Reader.apply q.clock s rec with
        | (s', some e) => (.event e, { q with lines := ls, line := n + 1 }, s')
        | (s', none) => q.readFrom ls (n + 1) s' := by
  rw [Reader.readFrom]
  unfold lineRecord
  dsimp only
  split
  · rfl
  · cases Record.parse (Text.trim l) <;> rfl

variable {l : String} {ls : List String} {fuel : Nat}

theorem pumpFrom_end (hq : p.feed = .replay q) (hf : q.fault = none) (hl : q.lines = []) :
    p.pumpFrom (fuel + 1) r = .ok (.ok r, { p with feed := .replay { q with lines := [], line := q.line } }) := by
  simp only [Pipeline.pumpFrom, next_replay hq hf, hl, Reader.readFrom]
  rfl

theorem pumpFrom_skip (hq : p.feed = .replay q) (hf : q.fault = none) (hl : q.lines = l :: ls)
    (hr : lineRecord l = none) :
    p.pumpFrom (fuel + 1) r =
      ({ p with feed := .replay { q with lines := ls, line := q.line + 1 } } : Pipeline MemoryStore).pumpFrom
        (fuel + 1) r := by
  rw [pumpFrom_succ_of_next (.replay { q with lines := ls, line := q.line + 1 }) p.scene]
  rw [next_replay hq hf, hl, readFrom_cons, hr]
  simp only [Feed.next, Replay.next_of_fault_none { q with lines := ls, line := q.line + 1 } hf, Replay.readFrom_with]

theorem pumpFrom_malformed (hq : p.feed = .replay q) (hf : q.fault = none) (hl : q.lines = l :: ls)
    {e : Json.Error} (hr : lineRecord l = some (.error e)) :
    p.pumpFrom (fuel + 1) r =
      .ok (.error (.parse (q.line + 1) e), { p with feed := .replay { q with lines := ls, line := q.line + 1 } }) := by
  simp only [Pipeline.pumpFrom, next_replay hq hf, hl, readFrom_cons, hr]
  rfl

theorem pumpFrom_declaration (hq : p.feed = .replay q) (hf : q.fault = none) (hl : q.lines = l :: ls)
    {rec : Record} (hr : lineRecord l = some (.ok rec)) {s' : Scene}
    (ha : Reader.apply q.clock p.scene rec = (s', none)) :
    p.pumpFrom (fuel + 1) r =
      ({ p with feed := .replay { q with lines := ls, line := q.line + 1 }, scene := s' } : Pipeline MemoryStore).pumpFrom
        (fuel + 1) r := by
  rw [pumpFrom_succ_of_next (.replay { q with lines := ls, line := q.line + 1 }) s']
  rw [next_replay hq hf, hl, readFrom_cons, hr]
  simp only [ha, Feed.next, Replay.next_of_fault_none { q with lines := ls, line := q.line + 1 } hf,
    Replay.readFrom_with]

theorem pumpFrom_event (hq : p.feed = .replay q) (hf : q.fault = none) (hl : q.lines = l :: ls)
    {rec : Record} (hr : lineRecord l = some (.ok rec)) {s' : Scene} {e : Raw}
    (ha : Reader.apply q.clock p.scene rec = (s', some e)) {p' : Pipeline MemoryStore} {r' : PumpReport}
    (hfe : ({ p with feed := .replay { q with lines := ls, line := q.line + 1 }, scene := s' } : Pipeline MemoryStore).feedEvent
      r e = .ok (p', r')) :
    p.pumpFrom (fuel + 1) r = p'.pumpFrom fuel r' := by
  simp only [Pipeline.pumpFrom, next_replay hq hf, hl, readFrom_cons, hr, ha]
  rw [hfe]
  rfl

theorem pumpFrom_event_fault (hq : p.feed = .replay q) (hf : q.fault = none) (hl : q.lines = l :: ls)
    {rec : Record} (hr : lineRecord l = some (.ok rec)) {s' : Scene} {e : Raw}
    (ha : Reader.apply q.clock p.scene rec = (s', some e)) {f : Fault}
    (hfe : ({ p with feed := .replay { q with lines := ls, line := q.line + 1 }, scene := s' } : Pipeline MemoryStore).feedEvent
      r e = .error f) :
    p.pumpFrom (fuel + 1) r = .error f := by
  simp only [Pipeline.pumpFrom, next_replay hq hf, hl, readFrom_cons, hr, ha]
  rw [hfe]
  rfl

end Lines

theorem bucketStart_of_pos {t c : Int} (hc : 0 < c) :
    Tally.bucketStart t c = if Word.Fits (t - t % c) then .ok (t - t % c) else .error .subOverflow := by
  rw [Tally.bucketStart_eq_sub hc]
  rfl

theorem bucketStart_eq {t c : Int} (hc : 0 < c) (hb : Word.Fits (t - t % c)) :
    Tally.bucketStart t c = .ok (t - t % c) := by
  rw [bucketStart_of_pos hc, if_pos hb]

theorem bucketStart_fault {t c : Int} (hc : 0 < c) (hb : ¬ Word.Fits (t - t % c)) :
    Tally.bucketStart t c = .error .subOverflow := by
  rw [bucketStart_of_pos hc, if_neg hb]

theorem record_some {a : Tally.Aggregator} {c t : Int} (hc : 0 < c) (hb : Word.Fits (t - t % c)) (g : GroupId)
    (hn : Word.Fits (a.pending.getD ⟨t - t % c, g⟩ 0 + 1)) (stats : Stats.Counters) :
    a.record ({ clusterSize := c } : MemoryStore) stats (some g) t =
      .ok (true, ⟨a.pending.insert ⟨t - t % c, g⟩ (a.pending.getD ⟨t - t % c, g⟩ 0 + 1)⟩,
        stats.recordKeypresses 1) := by
  simp [Tally.Aggregator.record, Tally.Aggregator.recordCount, Tally.CounterStore.bucketOf,
    Tally.CounterStore.clusterSize, bucketStart_eq hc hb, Word.add_eq_ok hn, bind, Except.bind, pure, Except.pure]

theorem record_fault {a : Tally.Aggregator} {c t : Int} (hc : 0 < c) (hb : ¬ Word.Fits (t - t % c)) (g : GroupId)
    (stats : Stats.Counters) :
    a.record ({ clusterSize := c } : MemoryStore) stats (some g) t = .error .subOverflow := by
  simp [Tally.Aggregator.record, Tally.Aggregator.recordCount, Tally.CounterStore.bucketOf,
    Tally.CounterStore.clusterSize, bucketStart_fault hc hb, bind, Except.bind]

theorem process_keyPress (specs : List GroupSpec) (u : Option GroupId) (C : Window.Cache) {s : Scene}
    (hg : s.graph.Consistent) (stats : Stats.Counters) (w : Window.Handle) (t : Int) :
    ∃ C' cl stats', ({ rules := ⟨specs.map GroupSpec.toGroup⟩, cache := some C, unmatchedGroup := u } : Filter).process
        s stats (.keyPress w t) =
        (some cl, { rules := ⟨specs.map GroupSpec.toGroup⟩, cache := some C', unmatchedGroup := u }, stats') ∧
      C'.entries = holdFor C.entries s.windows w ∧
      cl.group = placeWith specs u s.graph (holdFor C.entries s.windows w)[w]? ∧ cl.timestamp = t := by
  obtain ⟨C₁, h₁, he₁⟩ := lookup_eq C s.windows w
  obtain ⟨C₂, h₂, he₂⟩ := lookup_eq C₁ s.windows w
  rw [he₁, holdFor_holdFor] at h₂ he₂
  simp only [Filter.process, Filter.className, Filter.owner, Window.Cache.className, Window.Cache.owner, h₁, h₂]
  refine ⟨C₂, _, _, rfl, he₂, ?_, rfl⟩
  rw [placeWith, ← Classify.classify_toGroup_eq hg]

section Step

variable {specs : List GroupSpec} {u : Option GroupId} {c : Int} {p : Pipeline MemoryStore}
  {r : PumpReport} {st : Reference}

/-- A pipeline that has pumped what a reference reading has read, with report `r`: the same
scene, over a graph the graph's operations reach, the memo holding what the reference holds, the
empty store of width `c`, the reference's report, and pending counts that are the reference's
counts per bucket and group, positive and summing to the key presses placed in a group. -/
structure Tracks (specs : List GroupSpec) (u : Option GroupId) (c : Int) (p : Pipeline MemoryStore)
    (r : PumpReport) (st : Reference) : Prop where
  scene : p.scene = st.scene
  reachable : Proc.Graph.Reachable st.scene.graph
  filter : ∃ C : Window.Cache,
    p.filter = { rules := ⟨specs.map GroupSpec.toGroup⟩, cache := some C, unmatchedGroup := u } ∧ C.entries = st.held
  store : p.store = { clusterSize := c }
  report : r = st.report
  pending : ∀ k : Key, p.aggregator.pending.getD k 0 = st.countIn c k.bucket k.group
  positive : p.aggregator.Positive
  total : total p.aggregator.pending.toList = st.presses.countP (·.2.isSome)

theorem Tracks.consistent (ht : Tracks specs u c p r st) : p.scene.graph.Consistent := by
  rw [ht.scene]
  exact ht.reachable.consistent

theorem Tracks.feed (ht : Tracks specs u c p r st) (f : Feed) :
    Tracks specs u c { p with feed := f } r st :=
  ⟨ht.scene, ht.reachable, ht.filter, ht.store, ht.report, ht.pending, ht.positive, ht.total⟩

theorem Tracks.declaration (ht : Tracks specs u c p r st) (f : Feed) {rec : Record}
    (hp : Placeable c rec) (he : eventOf rec = none) :
    Tracks specs u c { p with feed := f, scene := declare p.scene rec } r (st.step specs u rec) := by
  rw [step_declaration specs u st hp he]
  exact ⟨by rw [ht.scene], reachable_declare ht.reachable rec, ht.filter, ht.store, ht.report, ht.pending, ht.positive, ht.total⟩

theorem Tracks.keyPress (hc : 0 < c) (ht : Tracks specs u c p r st) (w : Window.Handle) {t : Int}
    (hb : Word.Fits (t - t % c)) (hroom : (st.presses.length : Int) < Word.max) :
    ∃ p' r', p.feedEvent r (.keyPress w t) = .ok (p', r') ∧ p'.feed = p.feed ∧ p'.scene = p.scene ∧
      Tracks specs u c p' r' (st.step specs u (.keyPress w (some t))) := by
  obtain ⟨C, hfil, hC⟩ := ht.filter
  obtain ⟨C', cl, stats', hproc, hC', hgroup, hts⟩ := process_keyPress specs u C ht.consistent p.stats w t
  rw [hC, ht.scene] at hC' hgroup
  simp only [Pipeline.feedEvent, hfil, hproc, hgroup, hts, ht.store]
  have hstep : st.step specs u (.keyPress w (some t)) =
      { st with held := holdFor st.held st.scene.windows w, events := st.events + 1,
                presses := st.presses ++ [(t, placeWith specs u st.scene.graph (holdFor st.held st.scene.windows w)[w]?)] } :=
    rfl
  rw [hstep]
  cases hg : placeWith specs u st.scene.graph (holdFor st.held st.scene.windows w)[w]? with
  | none =>
    refine ⟨_, _, rfl, rfl, rfl, ⟨ht.scene, ht.reachable, ⟨C', rfl, hC'⟩, rfl, ?_, fun k ↦ ?_, ht.positive, ?_⟩⟩
    · rw [ht.report]
      simp [Reference.report, List.countP_append]
    · rw [ht.pending k]
      simp [Reference.countIn, List.countP_append]
    · rw [ht.total]
      simp [List.countP_append]
  | some g =>
    have hn : Word.Fits (p.aggregator.pending.getD ⟨t - t % c, g⟩ 0 + 1) := by
      have h0 := ht.positive.getD_nonneg ⟨t - t % c, g⟩
      have hle : p.aggregator.pending.getD ⟨t - t % c, g⟩ 0 ≤ st.presses.length := by
        rw [ht.pending]
        exact_mod_cast List.countP_le_length
      unfold Word.Fits Word.min
      omega
    rcases Tally.record_tally (record_some hc hb g hn stats') ht.positive with ⟨-, -, hpos, htot, -⟩ | ⟨hnone, -⟩
    · rw [record_some hc hb g hn stats']
      refine ⟨_, _, rfl, rfl, rfl, ⟨ht.scene, ht.reachable, ⟨C', rfl, hC'⟩, rfl, ?_, fun k ↦ ?_, hpos, ?_⟩⟩
      · rw [ht.report]
        simp [Reference.report, List.countP_append]
      · rw [Tally.getD_insert_key]
        by_cases hk : (⟨t - t % c, g⟩ : Key) = k
        · subst hk
          rw [if_pos rfl, ht.pending]
          simp [Reference.countIn, List.countP_append]
        · rw [if_neg hk, ht.pending k]
          have hne : ¬ (t - t % c = k.bucket ∧ g = k.group) := fun ⟨hb', hg'⟩ ↦ hk (by rw [hb', hg'])
          simp [Reference.countIn, List.countP_append, hne]
      · rw [htot, ht.total]
        simp [List.countP_append]
    · cases hnone

theorem Tracks.keyPress_fault (hc : 0 < c) (ht : Tracks specs u c p r st) (w : Window.Handle) {t : Int}
    {g : GroupId} (hg : placeWith specs u st.scene.graph (holdFor st.held st.scene.windows w)[w]? = some g)
    (hb : ¬ Word.Fits (t - t % c)) :
    p.feedEvent r (.keyPress w t) = .error .subOverflow := by
  obtain ⟨C, hfil, hC⟩ := ht.filter
  obtain ⟨C', cl, stats', hproc, hC', hgroup, hts⟩ := process_keyPress specs u C ht.consistent p.stats w t
  rw [hC, ht.scene, hg] at hgroup
  simp only [Pipeline.feedEvent, hfil, hproc, hgroup, hts, ht.store, record_fault hc hb, bind, Except.bind]

theorem Tracks.destroyNotify (ht : Tracks specs u c p r st) (w : Window.Handle) :
    ∃ p' r', p.feedEvent r (.destroyNotify w) = .ok (p', r') ∧ p'.feed = p.feed ∧ p'.scene = p.scene ∧
      Tracks specs u c p' r' (st.step specs u (.destroyNotify w)) := by
  obtain ⟨C, hfil, hC⟩ := ht.filter
  simp only [Pipeline.feedEvent, hfil, Filter.process, Filter.invalidate, Option.map_some]
  refine ⟨_, _, rfl, rfl, rfl, ⟨ht.scene, ht.reachable, ⟨C.invalidate w, rfl, ?_⟩, ht.store, ?_, ht.pending, ht.positive, ht.total⟩⟩
  · simp [Window.Cache.invalidate, hC, Reference.step]
  · rw [ht.report]
    rfl

theorem Tracks.focusIn (ht : Tracks specs u c p r st) (w : Window.Handle) :
    ∃ p' r', p.feedEvent r (.focusIn w) = .ok (p', r') ∧ p'.feed = p.feed ∧ p'.scene = p.scene ∧
      Tracks specs u c p' r' (st.step specs u (.focusIn w)) := by
  obtain ⟨C, hfil, hC⟩ := ht.filter
  simp only [Pipeline.feedEvent, hfil, Filter.process]
  refine ⟨_, _, rfl, rfl, rfl, ⟨ht.scene, ht.reachable, ⟨C, rfl, hC⟩, ht.store, ?_, ht.pending, ht.positive, ht.total⟩⟩
  rw [ht.report]
  rfl

theorem Tracks.event (hc : 0 < c) (ht : Tracks specs u c p r st) {rec : Record} {e : Raw}
    (he : eventOf rec = some e) (hp : Placeable c rec) (hroom : (st.presses.length : Int) < Word.max) :
    ∃ p' r', p.feedEvent r e = .ok (p', r') ∧ p'.feed = p.feed ∧ p'.scene = p.scene ∧
      Tracks specs u c p' r' (st.step specs u rec) := by
  cases rec with
  | keyPress w t =>
    cases t with
    | none => exact (hp : False).elim
    | some t =>
      obtain rfl : e = .keyPress w t := (Option.some.inj he).symm
      exact ht.keyPress hc w hp hroom
  | destroyNotify w =>
    obtain rfl : e = .destroyNotify w := (Option.some.inj he).symm
    exact ht.destroyNotify w
  | focusIn w =>
    obtain rfl : e = .focusIn w := (Option.some.inj he).symm
    exact ht.focusIn w
  | process => cases he
  | processExit => cases he
  | window => cases he

theorem presses_step_le (st : Reference) (rec : Record) :
    (st.step specs u rec).presses.length ≤ st.presses.length + 1 := by
  cases rec <;> simp [Reference.step]

theorem Tracks.pumpFrom (hc : 0 < c) (ls : List String) : ∀ (fuel : Nat) (p : Pipeline MemoryStore)
    (q : Reader) (r : PumpReport) (st : Reference), p.feed = .replay q → q.fault = none → q.lines = ls →
    ls.length < fuel → Tracks specs u c p r st → (∀ rec ∈ (replayRecords q.line ls).1, Placeable c rec) →
    (st.presses.length + ls.length : Int) ≤ Word.max →
    ∃ res p' r', p.pumpFrom fuel r = .ok (res, p') ∧
      Tracks specs u c p' r' ((replayRecords q.line ls).1.foldl (Reference.step specs u) st) ∧
      (((replayRecords q.line ls).1.foldl (Reference.step specs u) st).presses.length : Int) ≤ Word.max ∧
      res = ((replayRecords q.line ls).1.foldl (Reference.step specs u) st).result (replayRecords q.line ls).2 := by
  induction ls with
  | nil =>
    rintro (_ | fuel) p q r st hq hf hl hfuel ht - hb
    · simp at hfuel
    · simp only [replayRecords, List.foldl_nil]
      exact ⟨_, _, r, pumpFrom_end hq hf hl, ht.feed _, by simpa using hb, by rw [ht.report]; rfl⟩
  | cons l ls ih =>
    rintro (_ | fuel) p q r st hq hf hl hfuel ht hplace hb
    · simp at hfuel
    have hls : ls.length < fuel := by simp at hfuel; omega
    have hb' : (st.presses.length + ls.length : Int) + 1 ≤ Word.max := by simp at hb; omega
    cases hlr : lineRecord l with
    | none =>
      rw [replayRecords_skip q.line ls hlr] at hplace ⊢
      rw [pumpFrom_skip hq hf hl hlr]
      exact ih (fuel + 1) _ { q with lines := ls, line := q.line + 1 } r st rfl hf rfl (by omega)
        (ht.feed _) hplace (by omega)
    | some res =>
      cases res with
      | error e =>
        rw [replayRecords_malformed q.line ls hlr]
        exact ⟨_, _, r, pumpFrom_malformed hq hf hl hlr, ht.feed _, by simp; omega, rfl⟩
      | ok rec =>
        rw [replayRecords_record q.line ls hlr] at hplace ⊢
        have hp := hplace rec List.mem_cons_self
        have hrest : ∀ rec' ∈ (replayRecords (q.line + 1) ls).1, Placeable c rec' :=
          fun rec' h ↦ hplace rec' (List.mem_cons_of_mem _ h)
        have happly := Replay.apply_stamped q.clock p.scene hp.stamped
        have hlen : ((st.step specs u rec).presses.length : Int) ≤ st.presses.length + 1 := by
          exact_mod_cast presses_step_le st rec
        rw [List.foldl_cons]
        cases he : eventOf rec with
        | none =>
          rw [he] at happly
          rw [pumpFrom_declaration hq hf hl hlr happly]
          exact ih (fuel + 1) _ { q with lines := ls, line := q.line + 1 } r _ rfl hf rfl (by omega)
            (ht.declaration _ hp he) hrest (by omega)
        | some e =>
          rw [he, Replay.declare_of_event he] at happly
          obtain ⟨p', r', hfe, hfeed, -, ht'⟩ :=
            (ht.feed (.replay { q with lines := ls, line := q.line + 1 })).event hc he hp (by omega)
          rw [pumpFrom_event hq hf hl hlr happly hfe]
          exact ih fuel p' { q with lines := ls, line := q.line + 1 } r' _ hfeed hf rfl hls ht' hrest (by omega)

end Step

theorem commitKeys_fresh : ∀ (entries : List (Key × Int)) (m : MemoryStore) (r : Tally.CommitReport),
    m.failing = [] → entries.Pairwise (fun a b ↦ a.1 ≠ b.1) → (∀ e ∈ entries, 0 < e.2) →
    (∀ e ∈ entries, m.counts.getD e.1 0 = 0) → 0 ≤ r.keypressesWritten →
    r.keypressesWritten + total entries ≤ Word.max →
    ∃ m' r', entries.foldlM Tally.Aggregator.commitKey (m, r) = .ok (m', r') ∧
      ∀ k, m'.counts.getD k 0 = m.counts.getD k 0 + Tally.countOf entries k
  | [], m, r, _, _, _, _, _, _ => ⟨m, r, rfl, fun k ↦ by simp [Tally.countOf]⟩
  | (k, n) :: es, m, r, hf, hd, hpos, hzero, hr, hsum => by
    rw [List.pairwise_cons] at hd
    rw [Tally.total_cons] at hsum
    have hn : 0 < n := hpos (k, n) List.mem_cons_self
    have hes := Tally.total_nonneg fun e he ↦ hpos e (List.mem_cons_of_mem _ he)
    have h0 : m.countFor k.bucket k.group = 0 := hzero (k, n) List.mem_cons_self
    have hv : Word.Fits (m.countFor k.bucket k.group + n) := by
      rw [h0]; unfold Word.Fits Word.min; omega
    have hw : Word.Fits (r.keypressesWritten + n) := by
      unfold Word.Fits Word.min; omega
    have hu : Tally.CounterStore.upsert m k.bucket k.group n =
        .ok (.ok { m with counts := m.counts.insert k n, writes := m.writes + 1 }) := by
      show m.upsert k.bucket k.group n = _
      rw [Tally.memory_upsert m hf, Word.add_eq_ok hv, h0, Int.zero_add]
      rfl
    have hk := Tally.commitKey_of_upsert (r := r) hu
    rw [Word.add_eq_ok hw] at hk
    have hzero' : ∀ e ∈ es, (m.counts.insert k n).getD e.1 0 = 0 := fun e he ↦ by
      rw [Tally.getD_insert_key, if_neg (hd.1 e he)]
      exact hzero e (List.mem_cons_of_mem _ he)
    obtain ⟨m', r', hfold, hcount⟩ := commitKeys_fresh es { m with counts := m.counts.insert k n, writes := m.writes + 1 }
      { r with written := r.written + 1, keypressesWritten := r.keypressesWritten + n } hf hd.2
      (fun e he ↦ hpos e (List.mem_cons_of_mem _ he)) hzero' (by dsimp only; omega) (by dsimp only; omega)
    refine ⟨m', r', ?_, fun k' ↦ ?_⟩
    · rw [List.foldlM_cons, hk]
      exact hfold
    · rw [hcount, Tally.countOf_cons, Tally.getD_insert_key]
      by_cases hk' : k = k'
      · subst hk'
        rw [if_pos rfl, if_pos rfl, show m.counts.getD k 0 = 0 from h0]
        omega
      · rw [if_neg hk', if_neg hk']
        omega

theorem Tracks.commit {specs : List GroupSpec} {u : Option GroupId} {c : Int} {p : Pipeline MemoryStore}
    {r : PumpReport} {st : Reference} (ht : Tracks specs u c p r st) (hroom : (st.presses.length : Int) ≤ Word.max) :
    ∃ cr p', p.commit = .ok (cr, p') ∧ ∀ b g, p'.store.countFor b g = st.countIn c b g := by
  have hsum : (0 : Int) + Tally.total p.aggregator.pending.toList ≤ Word.max := by
    have hle : st.presses.countP (·.2.isSome) ≤ st.presses.length := List.countP_le_length
    rw [ht.total]
    omega
  obtain ⟨m', r', hfold, hcount⟩ := commitKeys_fresh p.aggregator.pending.toList { clusterSize := c }
    { buckets := p.aggregator.pending.toList.length } rfl (Tally.toList_keys_distinct _) ht.positive
    (fun e _ ↦ Std.TreeMap.getD_emptyc) (Int.le_refl 0) hsum
  have hcommit : p.commit =
      .ok (r', { p with
        store := m', aggregator := {},
        stats := if r'.buckets == 0 then p.stats else p.stats.recordCommit r'.written r'.failed r'.keypressesDropped }) := by
    simp only [Pipeline.commit, Tally.Aggregator.commit, ht.store, hfold, bind, Except.bind, pure, Except.pure]
  refine ⟨_, _, hcommit, fun b g ↦ ?_⟩
  show m'.counts.getD ⟨b, g⟩ 0 = _
  rw [hcount, Tally.countOf_toList, ht.pending, Std.TreeMap.getD_emptyc, Int.zero_add]

/-- The pipeline a replay starts in: the replay's lines, nothing declared, an empty memo, and the
store. -/
def replayPipeline (specs : List GroupSpec) (u : Option GroupId) (origin text : String) (m : MemoryStore) :
    Pipeline MemoryStore :=
  { feed := .replay (Reader.ofText origin text), scene := {}, filter := ⟨⟨specs.map GroupSpec.toGroup⟩, some {}, u⟩,
    store := m }

theorem tracks_start (specs : List GroupSpec) (u : Option GroupId) {c : Int} (origin text : String) :
    Tracks specs u c (replayPipeline specs u origin text { clusterSize := c }) {} {} where
  scene := rfl
  reachable := .empty
  filter := ⟨{}, rfl, rfl⟩
  store := rfl
  report := rfl
  pending k := by
    simp [replayPipeline, Reference.countIn]
  positive := Tally.positive_empty
  total := rfl

/-- A replay with a timestamp on every key press, the start of whose bucket is a word, and
fewer lines than the largest word, pumped through the memo of window metadata and the empty
memory store of width `c` and then committed, runs as the reference reads it: the pump reports
the reference's events, key presses and key presses placed in a group, or stops at the first
line that holds no record with that line's number; and the store counts, for each bucket and
group, the key presses the reference places there. -/
theorem pump_refines_reference (specs : List GroupSpec) (u : Option GroupId) {c : Int} (origin text : String)
    {m₀ : MemoryStore} (hmake : MemoryStore.make c = .ok m₀)
    (hplace : ∀ rec ∈ (replayRecords 0 (splitLines text)).1, Placeable c rec)
    (hlines : ((splitLines text).length : Int) ≤ Word.max) :
    let ref := (replayRecords 0 (splitLines text)).1.foldl (Reference.step specs u) {}
    ∃ res p cr p', (replayPipeline specs u origin text m₀).pump false = .ok (res, p) ∧
      p.commit = .ok (cr, p') ∧
      res = ref.result (replayRecords 0 (splitLines text)).2 ∧ ∀ b g, p'.store.countFor b g = ref.countIn c b g := by
  intro ref
  obtain ⟨hc, rfl⟩ := Tally.MemoryStore.make_eq_ok hmake
  obtain ⟨res, p, _, hpump, ht, hroom, hres⟩ :=
    Tracks.pumpFrom hc (splitLines text) ((splitLines text).length + 1) _ (Reader.ofText origin text) {} {}
      rfl rfl rfl (Nat.lt_succ_self _) (tracks_start specs u origin text) hplace (by simpa using hlines)
  obtain ⟨cr, p', hcommit, hcount⟩ := ht.commit hroom
  exact ⟨res, p, cr, p', hpump, hcommit, hres, hcount⟩

theorem pump_refines_reference_window :
    let text := writeRecords [.window 7 "XTerm" (some 100), .keyPress 7 (some 5)]
    let ref := (replayRecords 0 (splitLines text)).1.foldl (Reference.step [] (some 1)) {}
    MemoryStore.make 900 = .ok { clusterSize := 900 } ∧
      (∀ rec ∈ (replayRecords 0 (splitLines text)).1, Placeable 900 rec) ∧
      ((splitLines text).length : Int) ≤ Word.max ∧
      ∃ res p cr p', (replayPipeline [] (some 1) "replay" text { clusterSize := 900 }).pump false = .ok (res, p) ∧
        p.commit = .ok (cr, p') ∧
        res = ref.result (replayRecords 0 (splitLines text)).2 ∧ ∀ b g, p'.store.countFor b g = ref.countIn 900 b g := by
  intro text ref
  have hrt : ∀ r ∈ [Record.window 7 "XTerm" (some 100), .keyPress 7 (some 5)], r.RoundTrips := by
    intro r hr
    simp only [List.mem_cons, List.not_mem_nil, or_false] at hr
    rcases hr with rfl | rfl <;> exact ⟨by decide, rfl⟩
  have hlines : splitLines text = [Record.window 7 "XTerm" (some 100), .keyPress 7 (some 5)].map Record.render :=
    Replay.splitLines_writeRecords fun r hr ↦ (hrt r hr).single
  have hmake : MemoryStore.make 900 = .ok { clusterSize := 900 } := rfl
  have hplace : ∀ rec ∈ (replayRecords 0 (splitLines text)).1, Placeable 900 rec := by
    rw [hlines, replayRecords_written _ 0 hrt]
    intro rec hrec
    simp only [List.mem_cons, List.not_mem_nil, or_false] at hrec
    rcases hrec with rfl | rfl
    · trivial
    · show Word.Fits (5 - 5 % 900)
      unfold Word.Fits Word.min Word.max
      omega
  have hlen : ((splitLines text).length : Int) ≤ Word.max := by
    rw [hlines]
    unfold Word.max
    simp
  exact ⟨hmake, hplace, hlen, pump_refines_reference [] (some 1) "replay" text hmake hplace hlen⟩

/-- A key press at the least word, placed in the unmatched group over a width of 7: the
reference counts it in the bucket that starts 6 below the least word, where the pump faults. -/
theorem pump_faults_below_least_bucket :
    let text := writeRecords [.keyPress 1 (some Word.min)]
    let ref := (replayRecords 0 (splitLines text)).1.foldl (Reference.step [] (some 1)) {}
    ref.countIn 7 (Word.min - 6) 1 = 1 ∧
      (replayPipeline [] (some 1) "replay" text { clusterSize := 7 }).pump false = .error .subOverflow := by
  intro text ref
  have hrt : (Record.keyPress 1 (some Word.min)).RoundTrips := ⟨by decide, rfl⟩
  have hlines : splitLines text = [(Record.keyPress 1 (some Word.min)).render] :=
    Replay.splitLines_writeRecords (by simpa using hrt.single)
  have hplace : placeWith [] (some 1) ({} : Scene).graph (holdFor ∅ ({} : Scene).windows 1)[1]? = some 1 := by
    simp [placeWith]
  have hb : ¬ Word.Fits (Word.min - Word.min % 7) := by
    unfold Word.Fits Word.min
    omega
  constructor
  · have href : ref = Reference.step [] (some 1) {} (.keyPress 1 (some Word.min)) := by
      simp only [ref, hlines, replayRecords, lineRecord_render hrt, List.foldl_cons, List.foldl_nil]
    rw [href]
    simp only [Reference.step, Reference.countIn, hplace]
    decide
  · have ha := Replay.apply_stamped 0 {} (show (Record.keyPress 1 (some Word.min)).Stamped from rfl)
    rw [Replay.declare_of_event rfl] at ha
    have hfe := ((tracks_start (c := 7) [] (some 1) "replay" text).feed
      (.replay { Reader.ofText "replay" text with lines := [], line := 0 + 1 })).keyPress_fault
      (by decide) 1 hplace hb
    unfold Pipeline.pump
    rw [if_neg Bool.false_ne_true]
    exact pumpFrom_event_fault rfl rfl hlines (lineRecord_render hrt) ha hfe

end KeystrokeTally.Event
