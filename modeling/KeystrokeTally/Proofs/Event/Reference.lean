import KeystrokeTally.Event.Pump
import KeystrokeTally.Proofs.Classify.Tiers
import KeystrokeTally.Proofs.Replay.Framing

namespace KeystrokeTally.Event

open Classify (GroupId)
open Config (GroupSpec)
open Replay (Record declare eventOf)

/-- What a line of a replay holds once trimmed: nothing for a blank or comment line, else a
record or the reason it holds none. -/
def lineRecord (l : String) : Option (Except Json.Error Record) :=
  let t := Text.trim l
  if t.isEmpty || t.startsWith "#" then none else some (Record.parse t)

/-- The records of the lines after line `n`, up to the first line that holds none, and that
line's number and error. -/
def replayRecords (n : Nat) : List String → List Record × Option (Nat × Json.Error)
  | [] => ([], none)
  | l :: ls =>
    match lineRecord l with
    | none => replayRecords (n + 1) ls
    | some (.error e) => ([], some (n + 1, e))
    | some (.ok r) => (r :: (replayRecords (n + 1) ls).1, (replayRecords (n + 1) ls).2)

def Placeable (c : Int) : Record → Prop
  | .keyPress _ (some t) => Word.Fits (t - t % c)
  | .keyPress _ none => False
  | _ => True

/-- Held metadata after a key press in `w`: unchanged when something is held for `w`, else with
what the table knows of `w`, if anything. -/
def holdFor (held : Std.TreeMap Window.Handle Window.Metadata compare) (t : Window.Table)
    (w : Window.Handle) : Std.TreeMap Window.Handle Window.Metadata compare :=
  match held[w]? with
  | some _ => held
  | none =>
    match t.query? w with
    | some m => held.insert w m
    | none => held

/-- The group of a key press whose window shows metadata `m`, over process graph `g`: the group
the three tiers of `specs` place it in, else the unmatched group `u`. -/
noncomputable def placeWith (specs : List GroupSpec) (u : Option GroupId) (g : Proc.Graph)
    (m : Option Window.Metadata) : Option GroupId :=
  ((Classify.tiered specs g ((m.map (·.className)).getD "") (m.bind (·.owner))).map (·.group)).orElse
    fun _ => u

/-- The reference reading so far: the scene, the metadata held per window, the number of events,
and each key press's timestamp and group, in order. -/
structure Reference where
  scene : Scene := {}
  held : Std.TreeMap Window.Handle Window.Metadata compare := ∅
  events : Nat := 0
  presses : List (Int × Option GroupId) := []

namespace Reference

noncomputable def step (specs : List GroupSpec) (u : Option GroupId) (st : Reference) : Record → Reference
  | .keyPress w t =>
    let held := holdFor st.held st.scene.windows w
    { st with held, events := st.events + 1,
              presses := st.presses ++ [(t.getD 0, placeWith specs u st.scene.graph held[w]?)] }
  | .destroyNotify w => { st with held := st.held.erase w, events := st.events + 1 }
  | .focusIn _ => { st with events := st.events + 1 }
  | r => { st with scene := declare st.scene r }

def report (st : Reference) : PumpReport :=
  ⟨st.events, st.presses.length, st.presses.countP (·.2.isSome)⟩

/-- What a reading ends with: its report, or the number and error of the first line that holds
no record. -/
def result (st : Reference) : Option (Nat × Json.Error) → Except Replay.ReplayError PumpReport
  | some (n, e) => .error (.parse n e)
  | none => .ok st.report

def countIn (c : Int) (st : Reference) (b : Int) (g : GroupId) : Nat :=
  st.presses.countP fun q ↦ q.1 - q.1 % c = b ∧ q.2 = some g

end Reference

theorem getElem?_holdFor (held : Std.TreeMap Window.Handle Window.Metadata compare) (t : Window.Table)
    (w : Window.Handle) : (holdFor held t w)[w]? = held[w]?.orElse fun _ ↦ t.query? w := by
  unfold holdFor
  cases hw : held[w]? with
  | some m => exact hw
  | none =>
    cases ht : t.query? w with
    | some m => simp
    | none => simpa using hw

theorem holdFor_holdFor (held : Std.TreeMap Window.Handle Window.Metadata compare) (t : Window.Table)
    (w : Window.Handle) : holdFor (holdFor held t w) t w = holdFor held t w := by
  cases hw : held[w]? with
  | some m => simp [holdFor, hw]
  | none =>
    cases ht : t.query? w with
    | some m => simp [holdFor, hw, ht]
    | none => simp [holdFor, hw, ht]

theorem lookup_eq (C : Window.Cache) (t : Window.Table) (w : Window.Handle) :
    ∃ C', C.lookup t w = ((holdFor C.entries t w)[w]?, C') ∧ C'.entries = holdFor C.entries t w := by
  rw [getElem?_holdFor]
  unfold Window.Cache.lookup holdFor
  cases hw : C.entries[w]? with
  | some m => exact ⟨_, rfl, rfl⟩
  | none =>
    cases ht : t.query? w with
    | some m => exact ⟨_, rfl, rfl⟩
    | none => exact ⟨_, rfl, rfl⟩

theorem step_declaration (specs : List GroupSpec) (u : Option GroupId) (st : Reference) {r : Record}
    (hp : Placeable c r) (he : eventOf r = none) : st.step specs u r = { st with scene := declare st.scene r } := by
  cases r with
  | keyPress w t =>
    cases t with
    | none => cases hp
    | some t => cases he
  | destroyNotify w => cases he
  | focusIn w => cases he
  | _ => rfl

theorem reachable_declare {s : Scene} (hs : Proc.Graph.Reachable s.graph) :
    ∀ r : Record, Proc.Graph.Reachable (declare s r).graph
  | .process p q n => .step (.upsert ⟨p, q, n⟩) hs
  | .processExit p => .step (.remove p (s.processes.kill p).1.has) hs
  | .window _ _ _ => hs
  | .keyPress _ _ => hs
  | .destroyNotify _ => hs
  | .focusIn _ => hs

section Lines

variable {l : String} (n : Nat) (ls : List String)

theorem replayRecords_skip (h : lineRecord l = none) : replayRecords n (l :: ls) = replayRecords (n + 1) ls := by
  simp [replayRecords, h]

theorem replayRecords_malformed {e : Json.Error} (h : lineRecord l = some (.error e)) :
    replayRecords n (l :: ls) = ([], some (n + 1, e)) := by
  simp [replayRecords, h]

theorem replayRecords_record {rec : Record} (h : lineRecord l = some (.ok rec)) :
    replayRecords n (l :: ls) = (rec :: (replayRecords (n + 1) ls).1, (replayRecords (n + 1) ls).2) := by
  simp [replayRecords, h]

end Lines

theorem lineRecord_render {rec : Record} (h : rec.RoundTrips) : lineRecord rec.render = some (.ok rec) := by
  simp only [lineRecord, Replay.trim_render, Replay.render_not_skipped, Bool.false_eq_true, if_false, h.parses]

theorem replayRecords_written : ∀ (rs : List Record) (n : Nat), (∀ r ∈ rs, r.RoundTrips) →
    replayRecords n (rs.map Record.render) = (rs, none)
  | [], _, _ => rfl
  | r :: rs, n, h => by
    have ih := replayRecords_written rs (n + 1) fun r' hr' ↦ h r' (List.mem_cons_of_mem _ hr')
    rw [List.map_cons, replayRecords_record n _ (lineRecord_render (h r List.mem_cons_self)), ih]

theorem Placeable.stamped {r : Record} (h : Placeable c r) : r.Stamped := by
  cases r with
  | keyPress w t =>
    cases t with
    | none => cases h
    | some t => rfl
  | _ => trivial

end KeystrokeTally.Event
