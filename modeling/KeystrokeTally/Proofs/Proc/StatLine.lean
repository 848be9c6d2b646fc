import KeystrokeTally.Proc.StatLine

namespace KeystrokeTally.Proc

open Text

theorem digitsValue_toDigits (n : Nat) : digitsValue (Nat.toDigits 10 n) = some n := by
  obtain ⟨c, cs, hcs⟩ := List.exists_cons_of_ne_nil (Nat.toDigits_ne_nil (b := 10) (n := n))
  have hall : (Nat.toDigits 10 n).all Char.isDigit = true :=
    List.all_eq_true.mpr fun _ hd => Nat.isDigit_of_mem_toDigits (by decide) (by decide) hd
  have hstep : (fun acc (d : Char) => acc * 10 + (d.toNat - '0'.toNat)) =
      fun acc d => 10 * acc + (d.toNat - '0'.toNat) := by
    funext acc d
    rw [Nat.mul_comm]
  have hfold : (Nat.toDigits 10 n).foldl (fun acc d => acc * 10 + (d.toNat - '0'.toNat)) 0 = n := by
    rw [hstep, ← Nat.ofDigitChars_eq_foldl]
    exact Nat.ofDigitChars_ten_toDigits
  rw [hcs] at hall hfold ⊢
  simp only [digitsValue, hall, hfold, if_true]

theorem readPid_toString {p : Pid} (hp : p ≤ Word.maxPid) : readPid (toString p) = some p := by
  obtain ⟨c, cs, hcs⟩ := List.exists_cons_of_ne_nil (Nat.toDigits_ne_nil (b := 10) (n := p))
  have hdigit : c.isDigit = true :=
    Nat.isDigit_of_mem_toDigits (b := 10) (n := p) (by decide) (by decide) (by rw [hcs]; exact List.mem_cons_self)
  have hplus : c ≠ '+' := by
    rintro rfl
    exact absurd hdigit (by decide)
  have hvalue := digitsValue_toDigits p
  unfold readPid readUnsigned
  rw [Nat.toString_eq_repr, Nat.toList_repr, hcs]
  rw [hcs] at hvalue
  split
  case h_1 rest heq => exact absurd (List.cons.inj heq).1 hplus
  case h_2 => simp [hvalue, hp]

theorem readPid_le {s : String} {p : Pid} (h : readPid s = some p) : p ≤ Word.maxPid := by
  unfold readPid readUnsigned at h
  simp only at h
  split at h
  · split at h
    · cases h
      assumption
    · cases h
  · cases h

def IsWord (cs : List Char) : Prop := cs ≠ [] ∧ ∀ c ∈ cs, isBlank c = false

theorem wordsFrom_append_of_not_blank {xs : List Char} (h : ∀ c ∈ xs, isBlank c = false)
    (cs word : List Char) : wordsFrom (xs ++ cs) word = wordsFrom cs (xs.reverse ++ word) := by
  induction xs generalizing word with
  | nil => rfl
  | cons x xs ih =>
    rw [List.cons_append, wordsFrom, if_neg (by simp [h x List.mem_cons_self]),
      ih (fun c hc => h c (List.mem_cons_of_mem _ hc))]
    simp

theorem wordsFrom_word_append {w rest : List Char} (hw : IsWord w)
    (hrest : ∀ c ∈ rest.head?, isBlank c = true) :
    wordsFrom (w ++ rest) [] = w :: wordsFrom rest.tail [] := by
  have hne : w.reverse.isEmpty = false := by simpa using hw.1
  rw [wordsFrom_append_of_not_blank hw.2, List.append_nil]
  cases rest with
  | nil => simp [wordsFrom, hne]
  | cons c cs =>
    have hc : isBlank c = true := hrest c rfl
    simp [wordsFrom, hc, hne]

theorem wordsFrom_blank {c : Char} (hc : isBlank c = true) (cs : List Char) :
    wordsFrom (c :: cs) [] = wordsFrom cs [] := by
  simp [wordsFrom, hc]

theorem dropWhile_blank_of_head {cs : List Char} (h : ∀ c ∈ cs.head?, isBlank c = false) :
    cs.dropWhile isBlank = cs := by
  cases cs with
  | nil => rfl
  | cons c cs => exact List.dropWhile_cons_of_neg (by simp [h c rfl])

theorem trimChars_word_blank {w : List Char} (hw : IsWord w) {b : Char} (hb : isBlank b = true) :
    trimChars (w ++ [b]) = w := by
  have hhead : ∀ c ∈ (w ++ [b]).head?, isBlank c = false := by
    intro c hc
    obtain ⟨d, ds, rfl⟩ := List.exists_cons_of_ne_nil hw.1
    exact hw.2 c (by simp_all)
  have hlast : ∀ c ∈ w.reverse.head?, isBlank c = false := by
    intro c hc
    exact hw.2 c (List.mem_reverse.mp (List.mem_of_mem_head? hc))
  unfold trimChars
  rw [dropWhile_blank_of_head hhead, List.reverse_append, List.reverse_singleton, List.singleton_append,
    List.dropWhile_cons_of_pos hb, dropWhile_blank_of_head hlast, List.reverse_reverse]

theorem firstIndex_append {p : Char → Bool} {xs ys : List Char} {c : Char}
    (hxs : ∀ x ∈ xs, p x = false) (hc : p c = true) : firstIndex p (xs ++ c :: ys) = some xs.length := by
  unfold firstIndex
  rw [List.findIdx?_append, List.findIdx?_eq_none_iff.mpr hxs, List.findIdx?_cons, if_pos hc]
  simp

theorem lastIndex_append {p : Char → Bool} {xs ys : List Char} {c : Char}
    (hys : ∀ y ∈ ys, p y = false) (hc : p c = true) : lastIndex p (xs ++ c :: ys) = some xs.length := by
  have hrev : ∀ y ∈ ys.reverse, p y = false := fun y hy => hys y (List.mem_reverse.mp hy)
  have hfirst : List.findIdx? p (ys.reverse ++ c :: xs.reverse) = some ys.length := by
    have hrev' : firstIndex p (ys.reverse ++ c :: xs.reverse) = some ys.reverse.length :=
      firstIndex_append hrev hc
    rwa [List.length_reverse] at hrev'
  unfold lastIndex
  rw [List.reverse_append, List.reverse_cons, List.append_assoc, List.singleton_append, hfirst]
  simp only [Option.map_some, List.length_append, List.length_cons]
  congr 1
  omega

theorem parseStat_cut {pre name post : List Char} (hpre : ∀ c ∈ pre, c ≠ '(') (hpost : ∀ c ∈ post, c ≠ ')') :
    parseStat (String.ofList (pre ++ '(' :: name ++ ')' :: post)) =
      (readPid (trim (String.ofList pre))).bind fun pid =>
        match words (String.ofList post) with
        | _ :: ppidText :: _ => (readPid ppidText).bind fun ppid => some ⟨pid, ppid, String.ofList name⟩
        | _ => none := by
  have hopen : firstIndex (· == '(') (pre ++ '(' :: name ++ ')' :: post) = some pre.length := by
    rw [List.append_assoc, List.cons_append]
    exact firstIndex_append (fun c hc => by simpa using hpre c hc) (by simp)
  have hclose : lastIndex (· == ')') (pre ++ '(' :: name ++ ')' :: post) = some (pre.length + 1 + name.length) := by
    have hcut : pre ++ '(' :: name ++ ')' :: post = (pre ++ '(' :: name) ++ ')' :: post := by simp
    rw [hcut, lastIndex_append (fun c hc => by simpa using hpost c hc) (by simp)]
    simp [Nat.add_assoc, Nat.add_comm 1]
  have hlen : (pre ++ ['(']).length = pre.length + 1 := by simp
  have htake : (pre ++ '(' :: name ++ ')' :: post).take pre.length = pre := by simp
  have hname : ((pre ++ '(' :: name ++ ')' :: post).take (pre.length + 1 + name.length)).drop (pre.length + 1) = name := by
    rw [List.take_left' (by simp; omega), show pre ++ '(' :: name = (pre ++ ['(']) ++ name by simp,
      List.drop_left' hlen]
  have hrest : (pre ++ '(' :: name ++ ')' :: post).drop (pre.length + 1 + name.length + 1) = post := by
    rw [show pre ++ '(' :: name ++ ')' :: post = (pre ++ '(' :: name ++ [')']) ++ post by simp,
      List.drop_left' (by simp; omega)]
  unfold parseStat
  simp only [String.toList_ofList, hopen, hclose, Option.bind_eq_bind, Option.bind_some, htake, hname, hrest]
  rw [if_neg (by omega)]
  rfl

def StateToken (state : String) : Prop := IsWord state.toList ∧ ')' ∉ state.toList

def StatTail (tail : String) : Prop := (∀ c ∈ tail.toList.head?, isBlank c = true) ∧ ')' ∉ tail.toList

def statLine (pid : Pid) (name state : String) (ppid : Pid) (tail : String) : String :=
  toString pid ++ " (" ++ name ++ ") " ++ state ++ " " ++ toString ppid ++ tail

theorem isBlank_of_isDigit {c : Char} (h : c.isDigit = true) : isBlank c = false := by
  simp only [Char.isDigit, Bool.and_eq_true, decide_eq_true_eq] at h
  have hlo : 48 ≤ c.toNat := by simpa [Char.le_def, UInt32.le_iff_toNat_le] using h.1
  have hhi : c.toNat ≤ 57 := by simpa [Char.le_def, UInt32.le_iff_toNat_le] using h.2
  simp [isBlank]
  omega

theorem isWord_toString (n : Nat) : IsWord (toString n).toList := by
  rw [Nat.toString_eq_repr, Nat.toList_repr]
  exact ⟨Nat.toDigits_ne_nil,
    fun _ hc => isBlank_of_isDigit (Nat.isDigit_of_mem_toDigits (by decide) (by decide) hc)⟩

theorem not_paren_of_digits {n : Nat} {c : Char} (hc : c ∈ (toString n).toList) : c ≠ '(' ∧ c ≠ ')' := by
  rw [Nat.toString_eq_repr, Nat.toList_repr] at hc
  have hdigit := Nat.isDigit_of_mem_toDigits (by decide) (by decide) hc
  constructor <;> rintro rfl <;> exact absurd hdigit (by decide)

theorem parseStat_statLine {pid ppid : Pid} (hpid : pid ≤ Word.maxPid) (hppid : ppid ≤ Word.maxPid)
    (name : String) {state tail : String} (hstate : StateToken state) (htail : StatTail tail) :
    parseStat (statLine pid name state ppid tail) = some ⟨pid, ppid, name⟩ := by
  have hline : statLine pid name state ppid tail =
      String.ofList (((toString pid).toList ++ [' ']) ++ '(' :: name.toList ++ ')' ::
        (' ' :: (state.toList ++ ' ' :: ((toString ppid).toList ++ tail.toList)))) := by
    rw [← String.ofList_toList (s := statLine pid name state ppid tail)]
    simp [statLine, String.toList_append]
  have hpre : ∀ c ∈ (toString pid).toList ++ [' '], c ≠ '(' := by
    intro c hc
    rcases List.mem_append.mp hc with hc | hc
    · exact (not_paren_of_digits hc).1
    · simp_all
  have hpost : ∀ c ∈ ' ' :: (state.toList ++ ' ' :: ((toString ppid).toList ++ tail.toList)), c ≠ ')' := by
    intro c hc
    simp only [List.mem_cons, List.mem_append] at hc
    rcases hc with rfl | hc | rfl | hc | hc
    · decide
    · rintro rfl; exact hstate.2 hc
    · decide
    · exact (not_paren_of_digits hc).2
    · rintro rfl; exact htail.2 hc
  have htrim : trim (String.ofList ((toString pid).toList ++ [' '])) = toString pid := by
    rw [trim, String.toList_ofList, trimChars_word_blank (isWord_toString pid) (by decide), String.ofList_toList]
  have hwords : words (String.ofList (' ' :: (state.toList ++ ' ' :: ((toString ppid).toList ++ tail.toList)))) =
      state :: toString ppid :: words (String.ofList tail.toList.tail) := by
    simp only [words, wordsOf, String.toList_ofList]
    rw [wordsFrom_blank (by decide), wordsFrom_word_append hstate.1 (by simp; decide), List.tail_cons,
      wordsFrom_word_append (isWord_toString ppid) htail.1]
    simp only [List.map_cons, String.ofList_toList]
  rw [hline, parseStat_cut hpre hpost, htrim, readPid_toString hpid, Option.bind_some, hwords]
  dsimp only
  rw [readPid_toString hppid, Option.bind_some, String.ofList_toList]

theorem parseStat_pids_le {s : String} {e : Entry} (h : parseStat s = some e) :
    e.pid ≤ Word.maxPid ∧ e.ppid ≤ Word.maxPid := by
  unfold parseStat at h
  simp only [Option.bind_eq_bind, Option.bind_eq_some_iff] at h
  obtain ⟨_, -, _, -, h⟩ := h
  split at h
  · cases h
  · obtain ⟨pid, hpid, h⟩ := Option.bind_eq_some_iff.mp h
    split at h
    · obtain ⟨ppid, hppid, h⟩ := Option.bind_eq_some_iff.mp h
      cases h
      exact ⟨readPid_le hpid, readPid_le hppid⟩
    · cases h

/-- For every state token and tail of the kernel's layout: every line so laid out decodes to its
pid, parent pid and name, and every line the parser accepts, re-encoded with them, decodes to the
same process again. -/
theorem parseStat_decodes_statLine {state tail : String} (hstate : StateToken state) (htail : StatTail tail) :
    (∀ pid ppid name, pid ≤ Word.maxPid → ppid ≤ Word.maxPid →
      parseStat (statLine pid name state ppid tail) = some ⟨pid, ppid, name⟩) ∧
    (∀ s e, parseStat s = some e → parseStat (statLine e.pid e.name state e.ppid tail) = some e) := by
  refine ⟨fun pid ppid name hpid hppid => parseStat_statLine hpid hppid name hstate htail, ?_⟩
  intro s e h
  obtain ⟨hpid, hppid⟩ := parseStat_pids_le h
  rw [parseStat_statLine hpid hppid e.name hstate htail]

theorem parseStat_decodes_sleeping :
    StateToken "S" ∧ StatTail " 1234 1234 0 -1 4194304" ∧
      parseStat (statLine 1234 "Web Content (x)" "S" 1000 " 1234 1234 0 -1 4194304") =
        some ⟨1234, 1000, "Web Content (x)"⟩ := by
  have hstate : StateToken "S" := ⟨⟨by decide, by simp [isBlank]⟩, by decide⟩
  have htail : StatTail " 1234 1234 0 -1 4194304" := ⟨by simp; decide, by decide⟩
  exact ⟨hstate, htail, (parseStat_decodes_statLine hstate htail).1 _ _ _ (by decide) (by decide)⟩

end KeystrokeTally.Proc
