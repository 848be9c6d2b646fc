import KeystrokeTally.Replay.Source

namespace KeystrokeTally.Replay

/-- What writing promises of a record: its line holds no line feed and parses back to it. -/
structure Record.RoundTrips (r : Record) : Prop where
  single : '\n' ∉ r.render.toList
  parses : Record.parse r.render = .ok r

def Record.Stamped : Record → Prop
  | .keyPress _ t => t.isSome
  | _ => True

def declare (s : Scene) : Record → Scene
  | .process p q n => s.declareProcess ⟨p, q, n⟩
  | .processExit p => s.exitProcess p
  | .window w c o => s.declareWindow w (Window.Metadata.make c (o.bind Window.ownerOfRaw))
  | _ => s

def eventOf : Record → Option Event.Raw
  | .keyPress w t => t.map (.keyPress w)
  | .destroyNotify w => some (.destroyNotify w)
  | .focusIn w => some (.focusIn w)
  | _ => none

/-- The events of a replay of `rs` from scene `s`, each with the scene that the records before it
build. -/
def timeline (s : Scene) : List Record → List (Event.Raw × Scene)
  | [] => []
  | r :: rs => ((eventOf r).map (·, s)).toList ++ timeline (declare s r) rs

def Reader.reads : Nat → Reader → Scene → List (Next × Scene)
  | 0, _, _ => []
  | n + 1, r, s => ((r.next s).1, (r.next s).2.2) :: reads n (r.next s).2.1 (r.next s).2.2

def Next.unnumbered : Next → Next
  | .failed (.parse _ e) => .failed (.parse 0 e)
  | x => x

def Skipped (l : String) : Prop :=
  (Text.trim l).isEmpty = true ∨ (Text.trim l).startsWith "#" = true

/-- `ls'` is `ls` with skipped lines put in anywhere. -/
inductive Padded : List String → List String → Prop
  | nil : Padded [] []
  | keep (l : String) {ls ls' : List String} : Padded ls ls' → Padded (l :: ls) (l :: ls')
  | skip {l : String} {ls ls' : List String} : Skipped l → Padded ls ls' → Padded ls (l :: ls')

section Lines

theorem splitOn_terminated : ∀ ls : List (List Char), (∀ l ∈ ls, '\n' ∉ l) →
    (ls.flatMap (· ++ ['\n'])).splitOn '\n' = ls ++ [[]]
  | [], _ => rfl
  | l :: ls, h => by
    rw [List.flatMap_cons, List.append_assoc, List.singleton_append,
      List.splitOn_append_cons_self_of_not_mem (h l List.mem_cons_self),
      splitOn_terminated ls fun l' hl' ↦ h l' (List.mem_cons_of_mem _ hl')]
    rfl

theorem getLast?_terminated : ∀ ls : List (List Char), ls ≠ [] →
    (ls.flatMap (· ++ ['\n'])).getLast? = some '\n'
  | [], h => absurd rfl h
  | [l], _ => by simp
  | l :: l' :: ls, _ => by
    rw [List.flatMap_cons, List.getLast?_append, getLast?_terminated (l' :: ls) (List.cons_ne_nil _ _)]
    rfl

theorem toList_writeRecords (rs : List Record) :
    (writeRecords rs).toList = (rs.map (·.render.toList)).flatMap (· ++ ['\n']) := by
  simp [writeRecords, String.toList_join, List.flatMap_map]

theorem splitLines_writeRecords {rs : List Record} (h : ∀ r ∈ rs, '\n' ∉ r.render.toList) :
    splitLines (writeRecords rs) = rs.map Record.render := by
  have hlines : ∀ l ∈ rs.map (·.render.toList), '\n' ∉ l := by
    simpa using h
  unfold splitLines
  rw [toList_writeRecords]
  cases rs with
  | nil => rfl
  | cons r rs =>
    have hne : (r :: rs).map (·.render.toList) ≠ [] := List.cons_ne_nil _ _
    have hlast := getLast?_terminated _ hne
    have hfull : ((r :: rs).map (·.render.toList)).flatMap (· ++ ['\n']) ≠ [] := by
      intro he
      rw [he] at hlast
      cases hlast
    simp only [List.isEmpty_eq_false_iff.mpr hfull, hlast, splitOn_terminated _ hlines,
      List.dropLast_concat, List.map_map, Bool.false_eq_true, if_false, if_true]
    simp [Function.comp_def, String.ofList_toList]

end Lines

section Render

theorem toJson_obj (r : Record) : ∃ ms, r.toJson = .obj ms := by
  cases r <;> exact ⟨_, rfl⟩

theorem toList_render (r : Record) : ∃ body, r.render.toList = '{' :: (body ++ ['}']) := by
  obtain ⟨ms, hms⟩ := toJson_obj r
  refine ⟨(Json.compactMembers ms).toList, ?_⟩
  rw [Record.render, hms]
  simp [Json.Value.compact]

theorem trimChars_braced (body : List Char) :
    Text.trimChars ('{' :: (body ++ ['}'])) = '{' :: (body ++ ['}']) := by
  have hl : Text.isBlank '{' = false := by decide
  have hr : Text.isBlank '}' = false := by decide
  simp [Text.trimChars, hl, hr]

theorem trim_render (r : Record) : Text.trim r.render = r.render := by
  obtain ⟨body, hb⟩ := toList_render r
  rw [Text.trim, hb, trimChars_braced, ← hb, String.ofList_toList]

theorem render_not_skipped (r : Record) : (r.render.isEmpty || r.render.startsWith "#") = false := by
  obtain ⟨body, hb⟩ := toList_render r
  have hne : r.render ≠ "" := fun he ↦ by simp [he] at hb
  rw [Bool.or_eq_false_iff, String.isEmpty_eq_false_iff, String.startsWith_string_eq_false_iff, hb]
  exact ⟨hne, by simp⟩

end Render

section Written

variable {r : Reader} {s : Scene}

theorem apply_stamped (clock : Int) (s : Scene) {rec : Record} (h : rec.Stamped) :
    Reader.apply clock s rec = (declare s rec, eventOf rec) := by
  cases rec with
  | keyPress w t =>
    cases t with
    | none => cases h
    | some t => rfl
  | _ => rfl

theorem readFrom_with (r : Reader) (lines : List String) (line : Nat) :
    ∀ ls n s, ({ r with lines, line } : Reader).readFrom ls n s = r.readFrom ls n s
  | [], _, _ => rfl
  | l :: ls, n, s => by
    simp only [Reader.readFrom, Reader.apply]
    split
    · exact readFrom_with r lines line ls (n + 1) s
    · split
      · rfl
      · split
        · rfl
        · exact readFrom_with r lines line ls (n + 1) _

theorem next_of_fault_none (q : Reader) (h : q.fault = none) (s : Scene) :
    q.next s = q.readFrom q.lines q.line s := by
  rw [Reader.next, h]

theorem reads_succ_congr {q q' : Reader} {s s' : Scene} (h : q.next s = q'.next s') (n : Nat) :
    Reader.reads (n + 1) q s = Reader.reads (n + 1) q' s' := by
  simp only [Reader.reads, h]

theorem readFrom_render (r : Reader) {rec : Record} (hrec : rec.RoundTrips) (hs : rec.Stamped)
    (ls : List String) (n : Nat) (s : Scene) :
    r.readFrom (rec.render :: ls) n s =
      match eventOf rec with
      | some e => (.event e, { r with lines := ls, line := n + 1 }, declare s rec)
      | none => r.readFrom ls (n + 1) (declare s rec) := by
  rw [Reader.readFrom]
  simp only [trim_render, render_not_skipped, Bool.false_eq_true, if_false, hrec.parses,
    apply_stamped _ _ hs]
  cases eventOf rec <;> rfl

theorem declare_of_event {rec : Record} {e : Event.Raw} (h : eventOf rec = some e) (s : Scene) :
    declare s rec = s := by
  cases rec <;> first | rfl | cases h

theorem reads_written : ∀ (rs : List Record) (r : Reader) (s : Scene), r.fault = none →
    r.lines = rs.map Record.render → (∀ rec ∈ rs, rec.RoundTrips ∧ rec.Stamped) →
    Reader.reads ((timeline s rs).length + 1) r s =
      (timeline s rs).map (fun p ↦ (.event p.1, p.2)) ++ [(.exhausted, rs.foldl declare s)]
  | [], r, s, hf, hl, _ => by
    simp only [Reader.reads, Reader.next, hf, hl, List.map_nil, Reader.readFrom]
    rfl
  | rec :: rs, r, s, hf, hl, hrs => by
    obtain ⟨hrec, hs⟩ := hrs rec List.mem_cons_self
    have hrest : ∀ rec' ∈ rs, rec'.RoundTrips ∧ rec'.Stamped := fun rec' h ↦ hrs rec' (List.mem_cons_of_mem _ h)
    have hnext : r.next s = match eventOf rec with
        | some e => (.event e, { r with lines := rs.map Record.render, line := r.line + 1 }, declare s rec)
        | none => r.readFrom (rs.map Record.render) (r.line + 1) (declare s rec) := by
      rw [next_of_fault_none r hf, hl, List.map_cons, readFrom_render r hrec hs]
    have ih := reads_written rs { r with lines := rs.map Record.render, line := r.line + 1 }
    cases he : eventOf rec with
    | some e =>
      have hds := declare_of_event he s
      rw [he, hds] at hnext
      simp only [timeline, he, hds, Option.map_some, Option.toList_some, List.singleton_append,
        List.length_cons, List.map_cons, List.foldl_cons]
      rw [Reader.reads, hnext, ih s hf rfl hrest]
      rfl
    | none =>
      rw [he] at hnext
      have hq : r.readFrom (rs.map Record.render) (r.line + 1) (declare s rec) =
          ({ r with lines := rs.map Record.render, line := r.line + 1 } : Reader).next (declare s rec) := by
        rw [next_of_fault_none { r with lines := rs.map Record.render, line := r.line + 1 } hf]
        exact (readFrom_with r _ _ _ _ _).symm
      simp only [timeline, he, Option.map_none, Option.toList_none, List.nil_append, List.foldl_cons]
      rw [reads_succ_congr (hnext.trans hq), ih (declare s rec) hf rfl hrest]

end Written

section Padding

/-- Readers that agree but for skipped lines put among their lines and their line counts. -/
structure Reader.Pads (q q' : Reader) : Prop where
  origin : q'.origin = q.origin
  fault : q'.fault = q.fault
  clock : q'.clock = q.clock
  lines : Padded q.lines q'.lines

theorem skipped_iff (l : String) :
    ((Text.trim l).isEmpty || (Text.trim l).startsWith "#") = true ↔ Skipped l := by
  rw [Bool.or_eq_true]
  rfl

theorem readFrom_padded {q q' : Reader} (ho : q'.origin = q.origin) (hf : q'.fault = q.fault)
    (hc : q'.clock = q.clock) {ls ls' : List String} (hp : Padded ls ls') :
    ∀ n n' s, (q'.readFrom ls' n' s).1.unnumbered = (q.readFrom ls n s).1.unnumbered ∧
      (q'.readFrom ls' n' s).2.2 = (q.readFrom ls n s).2.2 ∧
      Reader.Pads (q.readFrom ls n s).2.1 (q'.readFrom ls' n' s).2.1 := by
  induction hp with
  | nil => exact fun n n' s ↦ ⟨rfl, rfl, ho, hf, hc, .nil⟩
  | @skip l ls ls' hl _ ih =>
    intro n n' s
    have hskip : ((Text.trim l).isEmpty || (Text.trim l).startsWith "#") = true := (skipped_iff l).mpr hl
    rw [Reader.readFrom]
    simp only [hskip, if_true]
    exact ih n (n' + 1) s
  | @keep l ls ls' _ ih =>
    intro n n' s
    rw [Reader.readFrom, Reader.readFrom]
    split
    · exact ih (n + 1) (n' + 1) s
    · split
      · next e _ => exact ⟨rfl, rfl, ho, hf, hc, ‹Padded ls ls'›⟩
      · rw [hc]
        split
        · exact ⟨rfl, rfl, ho, hf, rfl, ‹Padded ls ls'›⟩
        · exact ih (n + 1) (n' + 1) _

theorem next_padded {q q' : Reader} (hq : Reader.Pads q q') (s : Scene) :
    (q'.next s).1.unnumbered = (q.next s).1.unnumbered ∧ (q'.next s).2.2 = (q.next s).2.2 ∧
      Reader.Pads (q.next s).2.1 (q'.next s).2.1 := by
  unfold Reader.next
  rw [hq.fault, hq.origin]
  cases q.fault with
  | some e => exact ⟨rfl, rfl, hq⟩
  | none => exact readFrom_padded hq.origin hq.fault hq.clock hq.lines q.line q'.line s

theorem reads_padded : ∀ (n : Nat) {q q' : Reader}, Reader.Pads q q' → ∀ s,
    (Reader.reads n q' s).map (fun p ↦ (p.1.unnumbered, p.2)) =
      (Reader.reads n q s).map (fun p ↦ (p.1.unnumbered, p.2))
  | 0, _, _, _, _ => rfl
  | n + 1, q, q', hq, s => by
    obtain ⟨hx, hs, hq'⟩ := next_padded hq s
    simp only [Reader.reads, List.map_cons, hx, hs, reads_padded n hq']

end Padding

/-- A replay written from records that round-trip, key presses stamped, reads back call by call as
the events of the event records, each with the scene that exactly the declarations before it
build, and then as exhausted; and for any replay text, putting blank or comment lines among its
lines changes no answer of any read but the line numbers of parse errors. -/
theorem written_replay_reads_back (origin : String) :
    (∀ (rs : List Record) (s : Scene), (∀ r ∈ rs, r.RoundTrips ∧ r.Stamped) →
      Reader.reads ((timeline s rs).length + 1) (Reader.ofText origin (writeRecords rs)) s =
        (timeline s rs).map (fun p ↦ (.event p.1, p.2)) ++ [(.exhausted, rs.foldl declare s)]) ∧
    (∀ text text' : String, Padded (splitLines text) (splitLines text') → ∀ n s,
      (Reader.reads n (Reader.ofText origin text') s).map (fun p ↦ (p.1.unnumbered, p.2)) =
        (Reader.reads n (Reader.ofText origin text) s).map (fun p ↦ (p.1.unnumbered, p.2))) := by
  refine ⟨fun rs s hrs ↦ ?_, fun text text' hp n s ↦
    reads_padded n (show Reader.Pads (Reader.ofText origin text) (Reader.ofText origin text') from ⟨rfl, rfl, rfl, hp⟩) s⟩
  have hlines := splitLines_writeRecords fun r hr ↦ (hrs r hr).1.single
  exact reads_written rs _ s rfl hlines hrs

theorem written_replay_reads_back_window :
    let rs := [Record.window 7 "XTerm" (some 100), .keyPress 7 (some 5)]
    let s₁ := declare {} (.window 7 "XTerm" (some 100))
    (∀ r ∈ rs, r.RoundTrips ∧ r.Stamped) ∧
      Reader.reads 2 (Reader.ofText "replay" (writeRecords rs)) {} =
        [(.event (.keyPress 7 5), s₁), (.exhausted, s₁)] ∧
      Padded (splitLines "a\nb\n") (splitLines "a\n  \n# note\nb\n") ∧
      (Reader.reads 3 (Reader.ofText "replay" "a\n  \n# note\nb\n") {}).map (fun p ↦ (p.1.unnumbered, p.2)) =
        (Reader.reads 3 (Reader.ofText "replay" "a\nb\n") {}).map (fun p ↦ (p.1.unnumbered, p.2)) := by
  intro rs s₁
  have hrs : ∀ r ∈ rs, r.RoundTrips ∧ r.Stamped := by
    intro r hr
    simp only [rs, List.mem_cons, List.not_mem_nil, or_false] at hr
    rcases hr with rfl | rfl
    · exact ⟨⟨by decide, rfl⟩, trivial⟩
    · exact ⟨⟨by decide, rfl⟩, rfl⟩
  have hpad : Padded (splitLines "a\nb\n") (splitLines "a\n  \n# note\nb\n") := by
    rw [show splitLines "a\nb\n" = ["a", "b"] from rfl,
      show splitLines "a\n  \n# note\nb\n" = ["a", "  ", "# note", "b"] from rfl]
    exact .keep _ (.skip (Or.inl (by decide)) (.skip (Or.inr (String.startsWith_string_iff.mpr (by decide))) (.keep _ .nil)))
  obtain ⟨hwritten, hpadded⟩ := written_replay_reads_back "replay"
  exact ⟨hrs, hwritten rs {} hrs, hpad, hpadded _ _ hpad 3 {}⟩

end KeystrokeTally.Replay
