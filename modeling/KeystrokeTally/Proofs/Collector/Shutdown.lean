import KeystrokeTally.Collector
import KeystrokeTally.Proofs.Tally.Totals

namespace KeystrokeTally.Collector

open Tally

/-- How a source ends once its events are read. -/
inductive Ending where
  | exhausted
  | failed
  | waits
  deriving DecidableEq, Repr

/-- What the pump reads: each event as the filter classifies it (none for an event that is no
key press), then how the source ends. -/
structure Input where
  events : List (Option Event.Classified)
  ending : Ending

/-- Where the pump thread stands in its loop, with the number of events it has handled. -/
inductive PumpAt where
  | check (i : Nat)
  | read (i : Nat)
  | holding (i : Nat)
  | done (i : Nat) (failed : Bool)
  deriving DecidableEq, Repr

/-- Where the committer task stands; `final` marks the commit made on shutdown. -/
inductive CommitterAt where
  | idle
  | taking (final : Bool)
  | writing (final : Bool) (snapshot : List (Key × Int))
  | stopped
  deriving DecidableEq, Repr

/-- Where the main task stands, with the reason it chose. -/
inductive MainAt where
  | select
  | stopping (r : StopReason)
  | notifying (r : StopReason)
  | awaiting (r : StopReason)
  | returned (r : StopReason)
  deriving DecidableEq, Repr

/-- Who moves next: a tick fires the committer's timer, a signal reaches the main task. -/
inductive Actor where
  | pump
  | tick
  | committer
  | signal
  | main
  deriving DecidableEq, Repr

/-- The collector's tasks and what they share. -/
structure Tasks (σ : Type) where
  input : Input
  store : σ
  cache : Aggregator := {}
  stats : Stats.Counters := {}
  reports : List CommitReport := []
  stop : Bool := false
  shutdown : Bool := false
  pump : PumpAt := .check 0
  committer : CommitterAt := .idle
  main : MainAt := .select
  abandoned : Int := 0

namespace Tasks

variable {σ : Type} [CounterStore σ]

def pumpStep (t : Tasks σ) : Except Fault (Tasks σ) :=
  match t.pump with
  | .check i => pure { t with pump := if t.stop then .done i false else .read i }
  | .read i =>
    if i < t.input.events.length then pure { t with pump := .holding i }
    else
      match t.input.ending with
      | .exhausted => pure { t with pump := .done i false }
      | .failed => pure { t with pump := .done i true }
      | .waits => pure t
  | .holding i =>
    match t.input.events[i]? with
    | some (some c) => do
      let (_, cache, stats) ← t.cache.record t.store t.stats c.group c.timestamp
      pure { t with cache, stats, pump := .check (i + 1) }
    | _ => pure { t with pump := .check (i + 1) }
  | .done _ _ => pure t

/-- One step of the committer: noticing the shutdown, taking the pending counts, or writing them
and accounting for the commit. A commit whose writes fault panics, and the committer goes on with
an empty report. -/
def commitStep (t : Tasks σ) : Tasks σ :=
  match t.committer with
  | .idle => if t.shutdown then { t with committer := .taking true } else t
  | .taking final => { t with cache := {}, committer := .writing final t.cache.pending.toList }
  | .writing final snapshot =>
    match snapshot.foldlM Aggregator.commitKey (t.store, { buckets := snapshot.length }) with
    | .ok (store, r) =>
      { t with store, stats := Cycle.commitStats t.stats r, reports := r :: t.reports,
               committer := if final then .stopped else .idle }
    | .error _ =>
      { t with store := Aggregator.storeAtFault snapshot (t.store, { buckets := snapshot.length }),
               reports := {} :: t.reports, abandoned := t.abandoned + total snapshot,
               committer := if final then .stopped else .idle }
  | .stopped => t

def tickStep (t : Tasks σ) : Tasks σ :=
  match t.committer with
  | .idle => { t with committer := .taking false }
  | _ => t

def mainStep (t : Tasks σ) : Tasks σ :=
  match t.main with
  | .select =>
    match t.pump with
    | .done _ failed => { t with main := .stopping (if failed then .sourceFailed else .sourceExhausted) }
    | _ => t
  | .stopping r => { t with stop := true, main := .notifying r }
  | .notifying r => { t with shutdown := true, main := .awaiting r }
  | .awaiting r =>
    match t.committer with
    | .stopped => { t with main := .returned r }
    | _ => t
  | .returned _ => t

def signalStep (t : Tasks σ) : Tasks σ :=
  match t.main with
  | .select => { t with main := .stopping .signal }
  | _ => t

def step (t : Tasks σ) : Actor → Except Fault (Tasks σ)
  | .pump => t.pumpStep
  | .committer => pure t.commitStep
  | .tick => pure t.tickStep
  | .main => pure t.mainStep
  | .signal => pure t.signalStep

def start (input : Input) (store : σ) : Tasks σ := { input, store }

def run (input : Input) (store : σ) (sched : List Actor) : Except Fault (Tasks σ) :=
  sched.foldlM step (start input store)

end Tasks

def pressesOf (events : List (Option Event.Classified)) : Nat :=
  events.countP fun e ↦ (e.bind (·.group)).isSome

def writtenOf (reports : List CommitReport) : Nat :=
  reports.foldr (fun r acc ↦ r.keypressesWritten.toNat + acc) 0

def droppedOf (reports : List CommitReport) : Nat :=
  reports.foldr (fun r acc ↦ r.keypressesDropped.toNat + acc) 0

def PumpAt.handled : PumpAt → Nat
  | .check i | .read i | .holding i | .done i _ => i

/-- The key presses the pump may still record once it has seen the stop flag: the event it is
about to read or holds. -/
def PumpAt.inHand : PumpAt → Nat
  | .read _ | .holding _ => 1
  | _ => 0

def CommitterAt.final : CommitterAt → Bool
  | .taking true | .writing true _ | .stopped => true
  | _ => false

def CommitterAt.finalTaken : CommitterAt → Bool
  | .writing true _ | .stopped => true
  | _ => false

def CommitterAt.snapshot : CommitterAt → List (Key × Int)
  | .writing _ s => s
  | _ => []

def MainAt.reason : MainAt → Option StopReason
  | .select => none
  | .stopping r | .notifying r | .awaiting r | .returned r => some r

def MainAt.raised : MainAt → Bool
  | .notifying _ | .awaiting _ | .returned _ => true
  | _ => false

def MainAt.notified : MainAt → Bool
  | .awaiting _ | .returned _ => true
  | _ => false

theorem pressesOf_take_succ (l : List (Option Event.Classified)) (i : Nat) :
    pressesOf (l.take (i + 1)) = pressesOf (l.take i) + pressesOf l[i]?.toList := by
  rw [List.take_add_one, pressesOf, List.countP_append]
  rfl

theorem writtenOf_cons (r : CommitReport) (rs : List CommitReport) :
    writtenOf (r :: rs) = r.keypressesWritten.toNat + writtenOf rs := rfl

theorem droppedOf_cons (r : CommitReport) (rs : List CommitReport) :
    droppedOf (r :: rs) = r.keypressesDropped.toNat + droppedOf rs := rfl

theorem CommitterAt.final_of_finalTaken {c : CommitterAt} (h : c.finalTaken = true) : c.final = true := by
  cases c with
  | writing f _ => cases f <;> simp_all [CommitterAt.finalTaken, CommitterAt.final]
  | _ => simp_all [CommitterAt.finalTaken, CommitterAt.final]

theorem PumpAt.inHand_le_one (p : PumpAt) : p.inHand ≤ 1 := by
  cases p <;> simp [PumpAt.inHand]

theorem pressesOf_none_or_absent {l : List (Option Event.Classified)} {i : Nat}
    (h : ∀ c, l[i]? = some (some c) → False) : pressesOf l[i]?.toList = 0 := by
  cases hi : l[i]? with
  | none => rfl
  | some e =>
    cases e with
    | none => rfl
    | some c => exact absurd hi (h c)

theorem pressesOf_some (c : Event.Classified) :
    pressesOf [some c] = if c.group.isSome then 1 else 0 := by
  cases hg : c.group <;> simp [pressesOf, hg]

theorem pressesOf_getElem?_le_one (l : List (Option Event.Classified)) (i : Nat) :
    pressesOf l[i]?.toList ≤ 1 := by
  cases l[i]? with
  | none => exact Nat.zero_le 1
  | some e => exact List.countP_le_length

theorem CommitterAt.final_writing (f : Bool) (s : List (Key × Int)) : (CommitterAt.writing f s).final = f := by
  cases f <;> rfl

theorem CommitterAt.final_taking (f : Bool) : (CommitterAt.taking f).final = f := by
  cases f <;> rfl

theorem CommitterAt.finalTaken_writing (f : Bool) (s : List (Key × Int)) : (CommitterAt.writing f s).finalTaken = f := by
  cases f <;> rfl

theorem CommitterAt.after_write (f : Bool) :
    (if f then CommitterAt.stopped else .idle).snapshot = [] ∧ (if f then CommitterAt.stopped else .idle).final = f ∧
      (if f then CommitterAt.stopped else .idle).finalTaken = f := by
  cases f <;> exact ⟨rfl, rfl, rfl⟩

theorem MainAt.reason_isSome_of_notified {m : MainAt} (h : m.notified = true) : m.reason.isSome := by
  cases m <;> simp_all [MainAt.notified, MainAt.reason]

namespace Tasks

variable {σ : Type}

/-- What every state of a run keeps. The counts are positive and the reports sound. Every key press
the pump has recorded is written or dropped by a commit, abandoned by a commit that panicked, in the
snapshot being written, or pending, and the statistics count them. The tasks also keep the order of the shutdown: the stop flag goes up
only after the main task has chosen its reason, the notice only after the stop flag, and the final
commit only after the notice. A reason other than a signal is chosen only once the pump has read
its whole source. After the final take, what is pending and what the pump may still record come to
at most one key press on a signal, and to none otherwise. -/
structure Sound (t : Tasks σ) : Prop where
  positive : t.cache.Positive
  snapshot : ∀ e ∈ t.committer.snapshot, 0 < e.2
  reports : ∀ r ∈ t.reports, r.Sound
  abandoned_nonneg : 0 ≤ t.abandoned
  conserved : (pressesOf (t.input.events.take t.pump.handled) : Int) =
    writtenOf t.reports + droppedOf t.reports + t.abandoned + total t.committer.snapshot +
      total t.cache.pending.toList
  recorded : t.stats.keypressesRecorded = pressesOf (t.input.events.take t.pump.handled) % Nat.pow 2 64
  dropped : t.stats.keypressesDropped = droppedOf t.reports % Nat.pow 2 64
  holding : ∀ i, t.pump = .holding i → i < t.input.events.length
  handled : t.pump.handled ≤ t.input.events.length
  ended : ∀ i f, t.pump = .done i f → (t.stop = true ∧ f = false) ∨
    (i = t.input.events.length ∧ t.input.ending ≠ .waits ∧ (f = true ↔ t.input.ending = .failed))
  stop : t.stop = t.main.raised
  notice : t.shutdown = true → t.main.notified = true
  final : t.committer.final = true → t.shutdown = true
  chosen : ∀ r, t.main.reason = some r → r ≠ .signal →
    (∃ f, t.pump = .done t.input.events.length f) ∧ (r = .sourceFailed ↔ t.input.ending = .failed)
  returned : ∀ r, t.main = .returned r → t.committer = .stopped
  left : t.committer.finalTaken = true →
    total t.cache.pending.toList + t.pump.inHand ≤ if t.main.reason = some .signal then 1 else 0

theorem sound_start (input : Input) (store : σ) : (start input store).Sound where
  positive := positive_empty
  snapshot _ h := by cases h
  reports _ h := by cases h
  abandoned_nonneg := Int.le_refl 0
  conserved := rfl
  recorded := rfl
  dropped := rfl
  holding _ h := by cases h
  handled := Nat.zero_le _
  ended _ _ h := by cases h
  stop := rfl
  notice h := by cases h
  final h := by cases h
  chosen _ h := by cases h
  returned _ h := by cases h
  left h := by cases h

variable {t t' : Tasks σ}

theorem Sound.reason_of_running (hs : t.Sound) (hp : ∀ i f, t.pump ≠ .done i f) {r : StopReason}
    (hr : t.main.reason = some r) : r = .signal := by
  by_contra hne
  obtain ⟨⟨f, hf⟩, -⟩ := hs.chosen r hr hne
  exact hp _ _ hf

theorem Sound.stop_of_final (hs : t.Sound) (hf : t.committer.final = true) : t.stop = true := by
  have hn := hs.notice (hs.final hf)
  rw [hs.stop]
  revert hn
  cases t.main <;> simp [MainAt.notified, MainAt.raised]

theorem Sound.movePump (hs : t.Sound) {p : PumpAt} (hrun : ∀ i f, t.pump ≠ .done i f)
    (hh : p.handled = t.pump.handled) (hhold : ∀ i, p = .holding i → i < t.input.events.length)
    (hend : ∀ i f, p = .done i f → (t.stop = true ∧ f = false) ∨
      (i = t.input.events.length ∧ t.input.ending ≠ .waits ∧ (f = true ↔ t.input.ending = .failed)))
    (hin : t.committer.finalTaken = true → p.inHand ≤ t.pump.inHand) :
    ({ t with pump := p } : Tasks σ).Sound :=
  { hs with
    conserved := by
      show (pressesOf (t.input.events.take p.handled) : Int) = _
      rw [hh]
      exact hs.conserved
    recorded := by
      show _ = pressesOf (t.input.events.take p.handled) % _
      rw [hh]
      exact hs.recorded
    holding := hhold
    handled := by
      show p.handled ≤ _
      rw [hh]
      exact hs.handled
    ended := hend
    chosen := fun r hr hne ↦ absurd (hs.reason_of_running hrun hr) hne
    left := fun hf ↦ by
      have := hs.left hf
      have := hin hf
      show total t.cache.pending.toList + (p.inHand : Int) ≤ if t.main.reason = some .signal then 1 else 0
      omega }

theorem Sound.advance (hs : t.Sound) {i : Nat} (hp : t.pump = .holding i) {a : Aggregator}
    {st : Stats.Counters} (hpos : a.Positive)
    (htot : total a.pending.toList = total t.cache.pending.toList + pressesOf t.input.events[i]?.toList)
    (hrec : st.keypressesRecorded =
      (t.stats.keypressesRecorded + pressesOf t.input.events[i]?.toList) % Nat.pow 2 64)
    (hdrop : st.keypressesDropped = t.stats.keypressesDropped) :
    ({ t with cache := a, stats := st, pump := .check (i + 1) } : Tasks σ).Sound := by
  have hlt := hs.holding i hp
  have hcons := hs.conserved
  have hrecorded := hs.recorded
  have hleft := hs.left
  rw [hp] at hcons hrecorded hleft
  simp only [PumpAt.handled, PumpAt.inHand] at hcons hrecorded hleft
  have hone := pressesOf_getElem?_le_one t.input.events i
  exact
  { hs with
    positive := hpos
    conserved := by
      show (pressesOf (t.input.events.take (i + 1)) : Int) = _ + _ + _ + total a.pending.toList
      rw [pressesOf_take_succ, htot]
      push_cast
      omega
    recorded := by
      show st.keypressesRecorded = pressesOf (t.input.events.take (i + 1)) % Nat.pow 2 64
      rw [hrec, hrecorded, pressesOf_take_succ, Nat.mod_add_mod]
    dropped := by
      show st.keypressesDropped = _
      rw [hdrop]
      exact hs.dropped
    holding := fun _ h ↦ by cases h
    handled := hlt
    ended := fun _ _ h ↦ by cases h
    chosen := fun r hr hne ↦ absurd (hs.reason_of_running (by simp [hp]) hr) hne
    left := fun hf ↦ by
      have := hleft hf
      show total a.pending.toList + ((0 : Nat) : Int) ≤ if t.main.reason = some .signal then 1 else 0
      omega }

theorem Sound.inHand_le (hs : t.Sound) (h : t.main.reason.isSome) :
    (t.pump.inHand : Int) ≤ if t.main.reason = some .signal then 1 else 0 := by
  obtain ⟨r, hr⟩ := Option.isSome_iff_exists.mp h
  by_cases hsig : r = .signal
  · rw [hr, hsig, if_pos rfl]
    exact Int.ofNat_le.mpr t.pump.inHand_le_one
  · obtain ⟨⟨f, hf⟩, -⟩ := hs.chosen r hr hsig
    rw [hf, hr]
    simp [PumpAt.inHand, hsig]

theorem Sound.not_returned (hs : t.Sound) (hc : t.committer ≠ .stopped) (r : StopReason) :
    t.main ≠ .returned r := fun h ↦ hc (hs.returned r h)

theorem Sound.not_final (hs : t.Sound) (hm : t.main.notified = false) : t.committer.final = false := by
  cases hf : t.committer.final
  · rfl
  · have := hs.notice (hs.final hf)
    rw [hm] at this
    cases this

theorem Sound.shutdown_false (hs : t.Sound) (hm : t.main.notified = false) : t.shutdown = false := by
  cases hsd : t.shutdown
  · rfl
  · have := hs.notice hsd
    rw [hm] at this
    cases this

theorem Sound.tickStep (hs : t.Sound) : t.tickStep.Sound := by
  unfold Tasks.tickStep
  split
  case h_1 hc =>
    have hcons := hs.conserved
    rw [hc] at hcons
    exact
    { hs with
      snapshot := fun _ h ↦ by cases h
      conserved := hcons
      final := fun h ↦ by cases h
      returned := fun r hr ↦ absurd hr (hs.not_returned (by rw [hc]; simp) r)
      left := fun h ↦ by cases h }
  case h_2 => exact hs

theorem Sound.mainStep (hs : t.Sound) : t.mainStep.Sound := by
  unfold Tasks.mainStep
  split
  case h_1 hm =>
    split
    case h_1 i f hp =>
      have hstop : t.stop = false := by rw [hs.stop, hm]; rfl
      have hn : t.main.notified = false := by rw [hm]; rfl
      obtain ⟨hi, -, hfail⟩ : i = t.input.events.length ∧ t.input.ending ≠ .waits ∧
          (f = true ↔ t.input.ending = .failed) := by
        rcases hs.ended i f hp with ⟨h, -⟩ | h
        · rw [hstop] at h
          cases h
        · exact h
      exact
      { hs with
        stop := hstop
        notice := fun h ↦ absurd h (by rw [hs.shutdown_false hn]; simp)
        chosen := fun r hr _ ↦ by
          have hr' : (if f then StopReason.sourceFailed else .sourceExhausted) = r := Option.some.inj hr
          refine ⟨⟨f, by rw [hp, hi]⟩, ?_⟩
          rw [← hr', ← hfail]
          cases f <;> simp
        returned := fun _ h ↦ by cases h
        left := fun hf ↦ absurd (CommitterAt.final_of_finalTaken hf) (by rw [hs.not_final hn]; simp) }
    case h_2 => exact hs
  case h_2 r hm =>
    have hn : t.main.notified = false := by rw [hm]; rfl
    exact
    { hs with
      stop := rfl
      ended := fun i f hp ↦ (hs.ended i f hp).elim (fun h ↦ Or.inl ⟨rfl, h.2⟩) Or.inr
      notice := fun h ↦ absurd h (by rw [hs.shutdown_false hn]; simp)
      chosen := fun r' hr' hne ↦ hs.chosen r' (by rw [hm]; exact hr') hne
      returned := fun _ h ↦ by cases h
      left := fun hf ↦ absurd (CommitterAt.final_of_finalTaken hf) (by rw [hs.not_final hn]; simp) }
  case h_3 r hm =>
    have hleft := hs.left
    rw [hm] at hleft
    exact
    { hs with
      stop := by rw [hs.stop, hm]; rfl
      notice := fun _ ↦ rfl
      final := fun _ ↦ rfl
      chosen := fun r' hr' hne ↦ hs.chosen r' (by rw [hm]; exact hr') hne
      returned := fun _ h ↦ by cases h
      left := hleft }
  case h_4 r hm =>
    split
    case h_1 hc =>
      have hleft := hs.left
      rw [hm] at hleft
      exact
      { hs with
        stop := by rw [hs.stop, hm]; rfl
        notice := fun _ ↦ rfl
        chosen := fun r' hr' hne ↦ hs.chosen r' (by rw [hm]; exact hr') hne
        returned := fun _ h ↦ by cases h; exact hc
        left := hleft }
    case h_2 => exact hs
  case h_5 => exact hs

theorem Sound.signalStep (hs : t.Sound) : t.signalStep.Sound := by
  unfold Tasks.signalStep
  split
  case h_1 hm =>
    have hn : t.main.notified = false := by rw [hm]; rfl
    exact
    { hs with
      stop := by rw [hs.stop, hm]; rfl
      notice := fun h ↦ absurd h (by rw [hs.shutdown_false hn]; simp)
      chosen := fun _ hr hne ↦ absurd (Option.some.inj hr).symm hne
      returned := fun _ h ↦ by cases h
      left := fun hf ↦ absurd (CommitterAt.final_of_finalTaken hf) (by rw [hs.not_final hn]; simp) }
  case h_2 => exact hs

theorem Sound.finish (hs : t.Sound) {f : Bool} {snap : List (Key × Int)} (hc : t.committer = .writing f snap)
    (store : σ) {stats : Stats.Counters} {r : CommitReport} {lost abandoned : Int} (hr : r.Sound)
    (hlost : 0 ≤ lost) (hab : abandoned = t.abandoned + lost)
    (hmove : r.keypressesWritten + r.keypressesDropped + lost = total snap)
    (hrec : stats.keypressesRecorded = t.stats.keypressesRecorded)
    (hdrop : stats.keypressesDropped = droppedOf (r :: t.reports) % Nat.pow 2 64) :
    ({ t with store := store, stats := stats, reports := r :: t.reports, abandoned := abandoned,
               committer := if f then .stopped else .idle } : Tasks σ).Sound := by
  obtain ⟨hsnap', hfinal', htaken'⟩ := CommitterAt.after_write f
  have hcons := hs.conserved
  rw [hc] at hcons
  have hleft := hs.left
  rw [hc, CommitterAt.finalTaken_writing] at hleft
  exact
  { hs with
    snapshot := by rw [hsnap']; intro _ h; cases h
    reports := fun r' hr' ↦ by
      rcases List.mem_cons.mp hr' with rfl | hr'
      · exact hr
      · exact hs.reports r' hr'
    abandoned_nonneg := by
      show 0 ≤ abandoned
      have := hs.abandoned_nonneg
      omega
    conserved := by
      show _ = ((writtenOf (r :: t.reports) : Nat) : Int) + ((droppedOf (r :: t.reports) : Nat) : Int) + abandoned +
        total (if f then CommitterAt.stopped else .idle).snapshot + _
      rw [hsnap', writtenOf_cons, droppedOf_cons, total_nil]
      simp only [CommitterAt.snapshot] at hcons
      push_cast
      rw [Int.toNat_of_nonneg hr.written_nonneg, Int.toNat_of_nonneg hr.dropped_nonneg]
      omega
    recorded := hrec.trans hs.recorded
    dropped := hdrop
    final := fun hf ↦ hs.final (by rw [hc, CommitterAt.final_writing, ← hfinal']; exact hf)
    returned := fun r' hr' ↦ absurd hr' (hs.not_returned (by rw [hc]; simp) r')
    left := fun hf ↦ hleft (htaken' ▸ hf) }

section Steps

variable [CounterStore σ]

theorem Sound.pumpStep (hs : t.Sound) (h : t.pumpStep = .ok t') : t'.Sound := by
  unfold Tasks.pumpStep at h
  split at h
  case h_1 i hp =>
    cases h
    by_cases hstop : t.stop = true
    · rw [if_pos hstop]
      refine hs.movePump (by simp [hp]) (by simp [hp, PumpAt.handled]) (fun _ h ↦ by cases h)
        (fun _ _ he ↦ ?_) (fun _ ↦ by simp [PumpAt.inHand])
      cases he
      exact Or.inl ⟨hstop, rfl⟩
    · rw [if_neg hstop]
      refine hs.movePump (by simp [hp]) (by simp [hp, PumpAt.handled]) (fun _ h ↦ by cases h)
        (fun _ _ h ↦ by cases h) (fun hf ↦ ?_)
      exact absurd (hs.stop_of_final (CommitterAt.final_of_finalTaken hf)) hstop
  case h_2 i hp =>
    split at h
    case isTrue hlt =>
      cases h
      exact hs.movePump (by simp [hp]) (by simp [hp, PumpAt.handled])
        (fun _ he ↦ by cases he; exact hlt) (fun _ _ h ↦ by cases h) (fun _ ↦ by simp [hp, PumpAt.inHand])
    case isFalse hge =>
      have hi : i = t.input.events.length := by
        have := hs.handled
        simp only [hp, PumpAt.handled] at this
        omega
      split at h
      case h_1 hend =>
        cases h
        exact hs.movePump (by simp [hp]) (by simp [hp, PumpAt.handled]) (fun _ h ↦ by cases h)
          (fun _ _ he ↦ by cases he; exact Or.inr ⟨hi, by simp [hend], by simp [hend]⟩)
          (fun _ ↦ by simp [PumpAt.inHand])
      case h_2 hend =>
        cases h
        exact hs.movePump (by simp [hp]) (by simp [hp, PumpAt.handled]) (fun _ h ↦ by cases h)
          (fun _ _ he ↦ by cases he; exact Or.inr ⟨hi, by simp [hend], by simp [hend]⟩)
          (fun _ ↦ by simp [PumpAt.inHand])
      case h_3 =>
        cases h
        exact hs
  case h_3 i hp =>
    split at h
    case h_1 c hc =>
      cases hr : t.cache.record t.store t.stats c.group c.timestamp with
      | error e =>
        simp only [hr, bind, Except.bind] at h
        cases h
      | ok res =>
        obtain ⟨ok, a, st⟩ := res
        simp only [hr, bind, Except.bind, pure, Except.pure, Except.ok.injEq] at h
        subst h
        have hpress : pressesOf t.input.events[i]?.toList = if c.group.isSome then 1 else 0 := by
          rw [hc, Option.toList_some, pressesOf_some]
        rcases record_tally hr hs.positive with ⟨hg, -, hpos, htot, rfl⟩ | ⟨hg, -, rfl, rfl⟩
        · rw [if_pos hg] at hpress
          refine hs.advance hp hpos (by rw [htot, hpress]; rfl) ?_ rfl
          rw [hpress]
          rfl
        · simp only [hg, Option.isSome_none, Bool.false_eq_true, if_false] at hpress
          refine hs.advance hp hs.positive (by rw [hpress]; omega) ?_ rfl
          rw [hpress, Nat.add_zero, hs.recorded, Nat.mod_mod]
    case h_2 hc =>
      cases h
      have hnone := pressesOf_none_or_absent hc
      refine hs.advance hp hs.positive (by rw [hnone]; omega) ?_ rfl
      rw [hnone, Nat.add_zero, hs.recorded, Nat.mod_mod]
  case h_4 =>
    cases h
    exact hs

theorem CommitReport.sound_empty : ({} : CommitReport).Sound := ⟨rfl, Int.le_refl 0, Int.le_refl 0, fun _ ↦ rfl⟩

theorem Sound.commitStep (hs : t.Sound) : t.commitStep.Sound := by
  unfold Tasks.commitStep
  split
  case h_1 hc =>
    split
    case isTrue hsd =>
      have hcons := hs.conserved
      rw [hc] at hcons
      exact
      { hs with
        snapshot := fun _ h ↦ by cases h
        conserved := hcons
        final := fun _ ↦ hsd
        returned := fun r hr ↦ absurd hr (hs.not_returned (by rw [hc]; simp) r)
        left := fun hf ↦ by cases hf }
    case isFalse => exact hs
  case h_2 f hc =>
    have hcons := hs.conserved
    rw [hc] at hcons
    exact
    { hs with
      positive := positive_empty
      snapshot := hs.positive
      conserved := by
        show (pressesOf (t.input.events.take t.pump.handled) : Int) = writtenOf t.reports + droppedOf t.reports +
          t.abandoned + total t.cache.pending.toList + total ({} : Aggregator).pending.toList
        rw [total_empty]
        simp only [CommitterAt.snapshot] at hcons
        rw [total_nil] at hcons
        omega
      final := fun hf ↦ hs.final (by rw [hc, CommitterAt.final_taking]; rwa [CommitterAt.final_writing] at hf)
      returned := fun r hr ↦ absurd hr (hs.not_returned (by rw [hc]; simp) r)
      left := fun hf ↦ by
        rw [CommitterAt.finalTaken_writing] at hf
        have hn := hs.notice (hs.final (by rw [hc, CommitterAt.final_taking, hf]))
        have := hs.inHand_le (MainAt.reason_isSome_of_notified hn)
        show total ({} : Aggregator).pending.toList + (t.pump.inHand : Int) ≤
          if t.main.reason = some .signal then 1 else 0
        rw [total_empty]
        omega }
  case h_3 f snap hc =>
    have hsnap : ∀ e ∈ snap, 0 < e.2 := by
      have := hs.snapshot
      rw [hc] at this
      exact this
    split
    case h_1 store r hw =>
      obtain ⟨hsound, hpress⟩ := snapshot_report hsnap hw
      obtain ⟨hrec, -, -, hdrop⟩ :=
        commitStats_counts t.stats r (fun h0 ↦ by have := hsound.keys; omega) hsound.quiet
      exact hs.finish hc store hsound (Int.le_refl 0) (Int.add_zero _).symm (by rw [Int.add_zero]; exact hpress)
        hrec (by rw [hdrop _ hs.dropped, droppedOf_cons])
    case h_2 =>
      exact hs.finish hc _ CommitReport.sound_empty (total_nonneg hsnap) rfl (by simp)
        rfl (by rw [droppedOf_cons, hs.dropped, show ({} : CommitReport).keypressesDropped.toNat = 0 from rfl, Nat.zero_add])
  case h_4 => exact hs

theorem Sound.step (hs : t.Sound) {a : Actor} (h : t.step a = .ok t') : t'.Sound := by
  cases a with
  | pump => exact hs.pumpStep h
  | committer =>
    cases h
    exact hs.commitStep
  | tick =>
    cases h
    exact hs.tickStep
  | main =>
    cases h
    exact hs.mainStep
  | signal =>
    cases h
    exact hs.signalStep

theorem foldlM_step_keeps (P : Tasks σ → Prop) (hstep : ∀ t a t', P t → t.step a = .ok t' → P t') :
    ∀ (sched : List Actor) {t t' : Tasks σ}, P t → sched.foldlM step t = .ok t' → P t'
  | [], _, _, hp, h => by
    cases h
    exact hp
  | a :: sched, t, t', hp, h => by
    rw [List.foldlM_cons] at h
    cases hst : t.step a with
    | error e =>
      rw [hst] at h
      cases h
    | ok t₁ =>
      simp only [hst, bind, Except.bind] at h
      exact foldlM_step_keeps P hstep sched (hstep t a t₁ hp hst) h

theorem sound_run (input : Input) (store : σ) (sched : List Actor) (h : run input store sched = .ok t) :
    t.Sound :=
  foldlM_step_keeps Sound (fun _ _ _ hs hst ↦ hs.step hst) sched (sound_start input store) h

theorem input_step {a : Actor} (h : t.step a = .ok t') : t'.input = t.input := by
  cases a with
  | pump =>
    change t.pumpStep = .ok t' at h
    unfold Tasks.pumpStep at h
    split at h
    · cases h
      rfl
    · split at h
      · cases h
        rfl
      · split at h <;> (cases h; rfl)
    · split at h
      · simp only [bind, Except.bind] at h
        split at h
        · cases h
        · cases h
          rfl
      · cases h
        rfl
    · cases h
      rfl
  | committer =>
    cases h
    unfold Tasks.commitStep
    split
    · split <;> rfl
    · rfl
    · split <;> rfl
    · rfl
  | tick =>
    cases h
    unfold Tasks.tickStep
    split <;> rfl
  | main =>
    cases h
    unfold Tasks.mainStep
    repeat' split
    all_goals rfl
  | signal =>
    cases h
    unfold Tasks.signalStep
    split <;> rfl

theorem input_run (input : Input) (store : σ) (sched : List Actor) (h : run input store sched = .ok t) :
    t.input = input :=
  foldlM_step_keeps (fun t ↦ t.input = input) (fun _ _ _ hi hst ↦ (input_step hst).trans hi) sched rfl h

theorem commit_alone (final : Bool) (hc : t.committer = .taking final) :
    t.commitStep.commitStep =
      match t.cache.commit t.store t.stats with
      | .ok (r, store, cache, stats) =>
        { t with store, cache, stats, reports := r :: t.reports,
                 committer := if final then .stopped else .idle }
      | .error _ =>
        { t with cache := {},
                 store := Aggregator.storeAtFault t.cache.pending.toList
                   (t.store, { buckets := t.cache.pending.toList.length }),
                 reports := {} :: t.reports, abandoned := t.abandoned + total t.cache.pending.toList,
                 committer := if final then .stopped else .idle } := by
  have htake : t.commitStep = { t with cache := {}, committer := .writing final t.cache.pending.toList } := by
    unfold Tasks.commitStep
    rw [hc]
  rw [htake]
  unfold Tasks.commitStep Aggregator.commit
  dsimp only
  cases t.cache.pending.toList.foldlM Aggregator.commitKey (t.store, { buckets := t.cache.pending.toList.length }) with
  | error e => rfl
  | ok sr => rfl

end Steps

end Tasks

section Returned

variable {σ : Type} [CounterStore σ]

/-- When the collector returns, its final commit is done and every report balances. The key
presses the pump recorded are those the commits wrote, those they dropped, those of commits that
panicked and were abandoned, and those still pending, and the statistics count them. On a
signal, one key press at most is still pending: the one the pump had read before it saw the stop
flag. When the source ended first, exhausted or failed, the pump has read the whole source and
nothing is pending, so the key presses recorded are exactly those written, those dropped and
those abandoned. -/
theorem shutdown_commits_all_but_held (input : Input) (store : σ) (sched : List Actor) {t : Tasks σ}
    {r : StopReason} (hrun : Tasks.run input store sched = .ok t) (hret : t.main = .returned r) :
    t.committer = .stopped ∧ (∀ rep ∈ t.reports, rep.Sound) ∧ 0 ≤ t.abandoned ∧
    (pressesOf (input.events.take t.pump.handled) : Int) =
      writtenOf t.reports + droppedOf t.reports + t.abandoned + total t.cache.pending.toList ∧
    t.stats.keypressesRecorded = pressesOf (input.events.take t.pump.handled) % Nat.pow 2 64 ∧
    t.stats.keypressesDropped = droppedOf t.reports % Nat.pow 2 64 ∧
    total t.cache.pending.toList ≤ (if r = .signal then 1 else 0) ∧
    (r ≠ .signal → t.cache.pending.isEmpty = true ∧ t.pump.handled = input.events.length ∧
      (r = .sourceFailed ↔ input.ending = .failed) ∧
      t.stats.keypressesRecorded =
        (writtenOf t.reports + t.stats.keypressesDropped + t.abandoned.toNat) % Nat.pow 2 64) := by
  have hs := Tasks.sound_run input store sched hrun
  have hin := Tasks.input_run input store sched hrun
  have hstopped := hs.returned r hret
  have hbalance : (pressesOf (input.events.take t.pump.handled) : Int) =
      writtenOf t.reports + droppedOf t.reports + t.abandoned + total t.cache.pending.toList := by
    have := hs.conserved
    rw [hstopped, hin] at this
    simpa [CommitterAt.snapshot, total_nil] using this
  have hleft := hs.left (by rw [hstopped]; rfl)
  rw [hret] at hleft
  have hpending : total t.cache.pending.toList ≤ if r = .signal then 1 else 0 := by
    have hr : (if (MainAt.returned r).reason = some .signal then (1 : Int) else 0) =
        if r = .signal then 1 else 0 := by simp [MainAt.reason]
    rw [hr] at hleft
    omega
  have hrecorded := hs.recorded
  rw [hin] at hrecorded
  refine ⟨hstopped, hs.reports, hs.abandoned_nonneg, hbalance, hrecorded, hs.dropped, hpending, fun hsig ↦ ?_⟩
  obtain ⟨⟨f, hf⟩, hfail⟩ := hs.chosen r (by rw [hret]; rfl) hsig
  rw [if_neg hsig] at hpending
  have hempty := hs.positive.isEmpty hpending
  have hnone : total t.cache.pending.toList = 0 := Int.le_antisymm hpending hs.positive.total_nonneg
  have hab : (t.abandoned.toNat : Int) = t.abandoned := Int.toNat_of_nonneg hs.abandoned_nonneg
  refine ⟨hempty, by rw [hf, hin]; rfl, by rw [hfail, hin], ?_⟩
  rw [hrecorded, hs.dropped, Nat.add_right_comm, Nat.add_mod_mod]
  congr 1
  omega

end Returned

example :
    let input : Input := ⟨[some ⟨some 1, none, 9223372036854775807⟩], .exhausted⟩
    let sched : List Actor := [.pump, .pump, .pump, .pump, .pump, .main, .main, .main, .committer, .committer,
      .committer, .main]
    (Tasks.run input ({ clusterSize := 900, table := {} } : Tally.Database Tally.CounterFile) sched).map
      (fun t ↦ (t.main, t.stats.keypressesRecorded, writtenOf t.reports, t.stats.keypressesDropped, t.abandoned)) =
      .ok (.returned .sourceExhausted, 1, 0, 0, 1) := rfl

theorem shutdown_commits_replay :
    let input : Input := ⟨[some ⟨some 1, none, 0⟩, none], .exhausted⟩
    let sched : List Actor := [.pump, .pump, .pump, .tick, .committer, .committer, .pump, .pump, .pump,
      .pump, .pump, .main, .main, .main, .committer, .committer, .committer, .main]
    ∃ t, Tasks.run input ({ clusterSize := 900, table := {} } : Tally.Database Tally.CounterFile) sched = .ok t ∧
      t.main = .returned .sourceExhausted ∧ t.cache.pending.isEmpty = true ∧ writtenOf t.reports = 1 ∧
      t.abandoned = 0 ∧
      t.stats.keypressesRecorded = (writtenOf t.reports + t.stats.keypressesDropped + t.abandoned.toNat) % Nat.pow 2 64 := by
  intro input sched
  have hrun : Tasks.run input ({ clusterSize := 900, table := {} } : Tally.Database Tally.CounterFile) sched = .ok _ := rfl
  obtain ⟨-, -, -, -, -, -, -, hsource⟩ := shutdown_commits_all_but_held input _ sched hrun rfl
  obtain ⟨hempty, -, -, hrecorded⟩ := hsource (by decide)
  exact ⟨_, hrun, rfl, hempty, rfl, rfl, hrecorded⟩

/-- A signal while the pump holds its second key press: the stop flag goes up, the final commit
takes and writes the first key press, and the pump records the one it held after that take. The
collector returns with two key presses recorded, one written, none dropped and one pending. -/
theorem signal_strands_held_press :
    let input : Input := ⟨[some ⟨some 1, none, 0⟩, some ⟨some 1, none, 5⟩], .waits⟩
    let sched : List Actor := [.pump, .pump, .pump, .pump, .pump, .signal, .main, .main, .committer,
      .committer, .pump, .committer, .main]
    ∃ t, Tasks.run input ({ clusterSize := 900, table := {} } : Tally.Database Tally.CounterFile) sched = .ok t ∧
      t.main = .returned .signal ∧ t.committer = .stopped ∧ t.cache.pending.toList = [(⟨0, 1⟩, 1)] ∧
      t.stats.keypressesRecorded = 2 ∧ writtenOf t.reports = 1 ∧ t.stats.keypressesDropped = 0 := by
  intro input sched
  exact ⟨_, rfl, rfl, rfl, rfl, rfl, rfl, rfl⟩

end KeystrokeTally.Collector
