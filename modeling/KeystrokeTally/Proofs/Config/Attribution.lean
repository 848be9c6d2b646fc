import KeystrokeTally.Config.Validate
import KeystrokeTally.Event.Filter
import KeystrokeTally.Proofs.Classify.EmptyNames

namespace KeystrokeTally

open Proc (Pid Graph)
open Classify (Tier Names)

namespace Config

/-- What checking a configuration accepts: a positive bucket width, non-zero commit and sync
intervals, a log level naming a level when one is set, pairwise distinct group ids, no empty or
blank pattern, and, when unplaced key presses are counted, an unmatched group that is no
configured group's id. -/
structure Settings.Accepted (s : Settings) : Prop where
  clusterSize_pos : 0 < s.effectiveClusterSize
  commitInterval_pos : 0 < s.commitInterval
  syncInterval_pos : 0 < s.syncInterval
  level_named : ∀ l, s.logLevel = some l → (Log.Level.parse l).isSome
  ids_nodup : (s.groups.map (·.id)).Nodup
  no_blank : ∀ g ∈ s.groups, ∀ p ∈ g.windowClasses ++ g.terminalProcesses ++ g.processes,
    Text.isBlankOnly p = false
  unmatched_fresh : ∀ u, s.unmatchedGroup = some u → u ∉ s.groups.map (·.id)

theorem blankPatternKind_eq_none_iff (g : GroupSpec) :
    blankPatternKind g = none ↔
      ∀ p ∈ g.windowClasses ++ g.terminalProcesses ++ g.processes, Text.isBlankOnly p = false := by
  simp only [blankPatternKind, List.findSome?_cons, List.findSome?_nil, List.any_eq_true, List.mem_append]
  split_ifs <;> grind

theorem checkGroups_eq_ok_iff (seen : List Int) (gs : List GroupSpec) (r : List Int) :
    checkGroups seen gs = .ok r ↔
      (∀ g ∈ gs, g.id ∉ seen) ∧ (gs.map (·.id)).Nodup ∧ (∀ g ∈ gs, blankPatternKind g = none) ∧
        r = seen ++ gs.map (·.id) := by
  induction gs generalizing seen with
  | nil => simp [checkGroups, eq_comm]
  | cons g gs ih =>
    unfold checkGroups
    by_cases hseen : g.id ∈ seen
    · simp [hseen]
    cases hb : blankPatternKind g with
    | some kind => simp [hseen, hb]
    | none =>
      simp only [List.contains_iff_mem, hseen, if_false, ih]
      simp [hseen, hb]
      grind

theorem checkScalars_eq_ok_iff (s : Settings) :
    s.checkScalars = .ok () ↔ 0 < s.effectiveClusterSize ∧ 0 < s.commitInterval ∧ 0 < s.syncInterval ∧
      ∀ l, s.logLevel = some l → (Log.Level.parse l).isSome := by
  unfold Settings.checkScalars
  by_cases hc : s.effectiveClusterSize ≤ 0
  · simp [hc, bind, Except.bind, throw, throwThe, MonadExceptOf.throw]
  by_cases hm : s.commitInterval = 0
  · simp [hc, hm, bind, Except.bind, throw, throwThe, MonadExceptOf.throw]
  by_cases hs : s.syncInterval = 0
  · simp [hc, hm, hs, bind, Except.bind, throw, throwThe, MonadExceptOf.throw]
  have hpos : 0 < s.effectiveClusterSize := not_le.mp hc
  cases hl : s.logLevel with
  | none => simp [hc, hm, hs, hpos, Nat.pos_iff_ne_zero, pure, Except.pure]
  | some l =>
    cases hp : Log.Level.parse l <;>
      simp [hc, hm, hs, hp, hpos, Nat.pos_iff_ne_zero, throw, throwThe, MonadExceptOf.throw, pure, Except.pure]

theorem checkGroups_nil_eq_ok_iff (gs : List GroupSpec) (r : List Int) :
    checkGroups [] gs = .ok r ↔
      ((gs.map (·.id)).Nodup ∧ ∀ g ∈ gs, ∀ p ∈ g.windowClasses ++ g.terminalProcesses ++ g.processes,
        Text.isBlankOnly p = false) ∧ r = gs.map (·.id) := by
  simp only [checkGroups_eq_ok_iff, List.not_mem_nil, not_false_eq_true, implies_true, true_and,
    List.nil_append, blankPatternKind_eq_none_iff, and_assoc]

theorem validate_eq_ok_iff (s : Settings) : s.validate = .ok () ↔ s.Accepted := by
  have hacc : s.Accepted ↔ s.checkScalars = .ok () ∧ ((s.groups.map (·.id)).Nodup ∧
      ∀ g ∈ s.groups, ∀ p ∈ g.windowClasses ++ g.terminalProcesses ++ g.processes, Text.isBlankOnly p = false) ∧
      ∀ u, s.unmatchedGroup = some u → u ∉ s.groups.map (·.id) := by
    rw [checkScalars_eq_ok_iff]
    exact ⟨fun ⟨h₁, h₂, h₃, h₄, h₅, h₆, h₇⟩ ↦ ⟨⟨h₁, h₂, h₃, h₄⟩, ⟨h₅, h₆⟩, h₇⟩,
      fun ⟨⟨h₁, h₂, h₃, h₄⟩, ⟨h₅, h₆⟩, h₇⟩ ↦ ⟨h₁, h₂, h₃, h₄, h₅, h₆, h₇⟩⟩
  rw [hacc]
  unfold Settings.validate
  cases hs : s.checkScalars with
  | error e => simp [bind, Except.bind]
  | ok u =>
    cases hg : checkGroups [] s.groups with
    | error e =>
      simp only [bind, Except.bind, reduceCtorEq, false_iff]
      rintro ⟨-, hgroups, -⟩
      have hok := (checkGroups_nil_eq_ok_iff s.groups _).mpr ⟨hgroups, rfl⟩
      rw [hg] at hok
      cases hok
    | ok r =>
      obtain ⟨hgroups, rfl⟩ := (checkGroups_nil_eq_ok_iff s.groups r).mp hg
      rw [← and_assoc, and_iff_right ⟨rfl, hgroups⟩]
      simp only [bind, Except.bind]
      cases hu : s.unmatchedGroup with
      | none => simp [pure, Except.pure]
      | some u =>
        by_cases hmem : u ∈ s.groups.map (·.id)
        · simp only [List.contains_iff_mem, hmem, if_true, Option.some.injEq, forall_eq', not_true_eq_false,
            iff_false]
          simp [throw, throwThe, MonadExceptOf.throw]
        · simp only [List.contains_iff_mem, hmem, if_false, Option.some.injEq,
            forall_eq', not_false_eq_true, iff_true]
          rfl

def GroupSpec.patterns (g : GroupSpec) : Tier → List String
  | .terminalDescendant => g.terminalProcesses
  | .process => g.processes
  | .windowClass => g.windowClasses

end Config

namespace Classify

open Config (GroupSpec)

/-- The names tier `t` compares with its patterns, for a window of class `className` whose owner
is `owner`: the processes listed below a known owner, the known owner's own name, the class. -/
def tierNames (g : Graph) (className : String) (owner : Option Pid) : Tier → List String
  | .terminalDescendant => ((owner.filter (· != 0)).map fun o ↦ (g.descendants o).map (·.2)).getD []
  | .process => ((owner.filter (· != 0)).map g.nameOf).toList
  | .windowClass => [className]

theorem classify_placed {specs : List GroupSpec} {g : Graph} {className : String}
    {owner : Option Pid} {m : Match} (h : classify ⟨specs.map GroupSpec.toGroup⟩ g className owner = some m) :
    ∃ s ∈ specs, s.id = m.group ∧
      ∃ p ∈ s.patterns m.tier, ∃ n ∈ tierNames g className owner m.tier, Names p n := by
  unfold classify at h
  dsimp only at h
  split at h
  case h_1 id ht =>
    cases h
    unfold terminalTier at ht
    split at ht
    case isFalse => cases ht
    case isTrue =>
      obtain ⟨o, ho, hmatch⟩ := Option.bind_eq_some_iff.mp ht
      rw [matchTerminal_eq] at hmatch
      obtain ⟨s, hs, rfl, p, hp, n, hn, hpn⟩ := firstId_eq_some hmatch
      exact ⟨s, hs, rfl, p, hp, n, by simp [tierNames, ho, hn], hpn⟩
  case h_2 =>
    split at h
    case h_1 id hproc =>
      cases h
      obtain ⟨o, ho, hmatch⟩ := Option.bind_eq_some_iff.mp hproc
      rw [matchProcess_eq] at hmatch
      obtain ⟨s, hs, rfl, -, p, hp, hpn⟩ := firstId_eq_some hmatch
      exact ⟨s, hs, rfl, p, hp, g.nameOf o, by simp [tierNames, ho], hpn⟩
    case h_2 =>
      obtain ⟨id, hclass, rfl⟩ := Option.map_eq_some_iff.mp h
      rw [matchWindowClass_eq] at hclass
      obtain ⟨s, hs, rfl, -, p, hp, hpn⟩ := firstId_eq_some hclass
      exact ⟨s, hs, rfl, p, hp, className, List.mem_singleton_self _, hpn⟩

end Classify

namespace Event

def Filter.metadata (f : Filter) (t : Window.Table) (w : Window.Handle) : String × Option Pid :=
  ((f.className t w).1, ((f.className t w).2.owner t w).1)

theorem Filter.process_keyPress_fst (f : Filter) (sc : Scene) (stats : Stats.Counters)
    (w : Window.Handle) (ts : Int) :
    (f.process sc stats (.keyPress w ts)).1 =
      some ⟨((Classify.classify f.rules sc.graph (f.metadata sc.windows w).1 (f.metadata sc.windows w).2).map
          (·.group)).orElse fun _ ↦ f.unmatchedGroup,
        (Classify.classify f.rules sc.graph (f.metadata sc.windows w).1 (f.metadata sc.windows w).2).map (·.tier),
        ts⟩ := by
  cases hc : f.cache <;> simp only [process, metadata, className, owner, hc]

end Event

namespace Config

/-- The filter a configuration sets up: its rules and unmatched group, with the memo `cache`
or none. -/
def Settings.filter (s : Settings) (cache : Option Window.Cache) : Event.Filter :=
  { rules := s.rules, cache, unmatchedGroup := s.unmatchedGroup }

/-- A key press attributed soundly over the configuration `s`, for a window of class
`className` and owner `owner` over the graph `g`: a tier places it exactly when it counts for a
configured group; placed by tier `t`, every configured group of its id has a `t`-pattern naming
a name that tier looked at; no tier places it exactly when it counts for the unmatched group,
which is then no configured group. -/
structure Attributed (s : Settings) (g : Graph) (className : String) (owner : Option Pid)
    (cl : Event.Classified) : Prop where
  placed_iff : cl.tier.isSome ↔ ∃ spec ∈ s.groups, cl.group = some spec.id
  named : ∀ t, cl.tier = some t → ∀ spec ∈ s.groups, cl.group = some spec.id →
    ∃ p ∈ spec.patterns t, ∃ n ∈ Classify.tierNames g className owner t, Names p n
  unplaced_iff : cl.tier = none ↔ cl.group = s.unmatchedGroup
  unplaced_unconfigured : cl.tier = none → ∀ spec ∈ s.groups, cl.group ≠ some spec.id

theorem Settings.Accepted.attributed {s : Settings} (ha : s.Accepted) (g : Graph) (className : String)
    (owner : Option Pid) (ts : Int) :
    Attributed s g className owner
      ⟨((Classify.classify s.rules g className owner).map (·.group)).orElse fun _ ↦ s.unmatchedGroup,
        (Classify.classify s.rules g className owner).map (·.tier), ts⟩ := by
  cases hm : Classify.classify s.rules g className owner with
  | none =>
    have hfresh : ∀ spec ∈ s.groups, s.unmatchedGroup ≠ some spec.id := fun spec hspec hu ↦
      ha.unmatched_fresh _ hu (List.mem_map_of_mem hspec)
    exact ⟨by simpa using hfresh, fun t ht ↦ (by cases ht), by simp, fun _ ↦ hfresh⟩
  | some m =>
    obtain ⟨spec₀, hspec₀, hid, hnamed⟩ := Classify.classify_placed hm
    have hunique : ∀ spec ∈ s.groups, spec.id = m.group → spec = spec₀ := fun spec hspec he ↦
      List.inj_on_of_nodup_map ha.ids_nodup hspec hspec₀ (he.trans hid.symm)
    refine ⟨by simpa using ⟨spec₀, hspec₀, hid.symm⟩, fun t ht spec hspec hg ↦ ?_, ?_, fun ht ↦ (by cases ht)⟩
    · obtain rfl : m.tier = t := by simpa using ht
      obtain rfl := hunique spec hspec (by simpa using hg.symm)
      exact hnamed
    · simp only [Option.map_some, Option.orElse_some, reduceCtorEq, false_iff]
      intro hu
      exact ha.unmatched_fresh _ hu.symm (hid ▸ List.mem_map_of_mem hspec₀)

/-- Checking a configuration accepts exactly the configurations described by `Accepted`; and
over an accepted configuration, on every graph and window table and through a memo or none, every
key press is attributed soundly: a placed one counts for the one configured group whose pattern
of the placing tier names what that tier looked at, an unplaced one for the unmatched group, and
never the other way. -/
theorem validate_attributes (s : Settings) :
    (s.validate = .ok () ↔ s.Accepted) ∧
      (s.validate = .ok () → ∀ (cache : Option Window.Cache) (sc : Scene) (stats : Stats.Counters)
        (w : Window.Handle) (ts : Int),
        ∃ cl, ((s.filter cache).process sc stats (.keyPress w ts)).1 = some cl ∧ cl.timestamp = ts ∧
          Attributed s sc.graph ((s.filter cache).metadata sc.windows w).1
            ((s.filter cache).metadata sc.windows w).2 cl) :=
  ⟨validate_eq_ok_iff s, fun hv cache sc stats w ts ↦
    ⟨_, Event.Filter.process_keyPress_fst (s.filter cache) sc stats w ts, rfl,
      ((validate_eq_ok_iff s).mp hv).attributed _ _ _ ts⟩⟩

theorem validate_attributes_terminal :
    let s : Settings :=
      { countUnmatched := some true
        groups := [{ id := 1, processes := ["Firefox"] }, { id := 2, windowClasses := ["XTerm"] }] }
    let sc : Scene := { windows := ({} : Window.Table).declare 7 (Window.Metadata.make "XTerm" none) }
    s.validate = .ok () ∧
      ∃ cl, ((s.filter none).process sc {} (.keyPress 7 0)).1 = some cl ∧ cl.timestamp = 0 ∧
        Attributed s sc.graph ((s.filter none).metadata sc.windows 7).1 ((s.filter none).metadata sc.windows 7).2 cl :=
  ⟨rfl, (validate_attributes _).2 rfl none _ {} 7 0⟩

end Config

end KeystrokeTally
