import FastqFixtures.Proofs.PathFrame

/-! # Changes confined to the files of one directory

Every file operation on a path that lands in a directory sets or drops one entry of it, and
never a directory. Two trees that differ only in such entries resolve every other path the
same way, since a walk goes on only from directories. `ChangesIn w w' dir names` records
this: `w'` differs from `w` at most in the files `names` of `dir`, none of which is a
directory before or after. Such changes compose, and a whole run of file operations is
described by the names it touched and what stands there at its end.

* `walk_of_agree` — a walk that does not end on an entry where two trees differ.
* `Reaches` — the leading segments of a path walk to a directory.
* `ChangesIn` — changes confined to named files of a directory, and how they compose.
* `create_changes`, `store_changes`, `append_of_file`, `remove_of_file` — the file
  operations as such changes.
-/

namespace FastqFixtures

set_option autoImplicit false

namespace Workspace

/-! ## Entries and walks where two trees agree -/

theorem lookup_drop (w : Workspace) (x y : List Bytes) :
    (w.drop x).lookup y = if y = x then none else w.lookup y := by
  unfold drop lookup
  rw [List.find?_filter]
  by_cases hy : y = x
  · subst hy
    have : w.entries.find? (fun a => decide ((a.1 != y) = true ∧ (a.1 == y) = true)) = none :=
      List.find?_eq_none.2 fun p _ => by simp
    rw [this, if_pos rfl]
    rfl
  · -- an entry at `y` is not at `x`, so the filter keeps it
    have hpred : (fun a : List Bytes × Node => decide ((a.1 != x) = true ∧ (a.1 == y) = true)) =
        (·.1 == y) := by
      funext a
      by_cases ha : a.1 = y
      · simp [ha, hy]
      · simp [ha]
    rw [hpred, if_neg hy]

variable {w w' : Workspace}

theorem stepInto_of_agree {X : List Bytes → Prop} (hsame : ∀ y, ¬ X y → w'.lookup y = w.lookup y)
    {cs : List Bytes} {seg : Bytes} (h : ¬ X (cs ++ [seg])) :
    w'.stepInto cs seg = w.stepInto cs seg := by
  simp only [stepInto, hsame _ h]

/-- Two trees that agree on every entry outside `X`, where `w` has no directory, walk alike to
every place outside `X` that `w` walks to: the walk never steps on from an entry of `X`. -/
theorem walk_of_agree {X : List Bytes → Prop} (hsame : ∀ y, ¬ X y → w'.lookup y = w.lookup y)
    (hx : ∀ y, X y → w.lookup y ≠ some .dir) {cs d : List Bytes} {here f : Found}
    {segs : List Bytes} (hd : ¬ X d) :
    w.walk cs here segs = .ok (d, f) → w'.walk cs here segs = .ok (d, f) := by
  fun_induction w.walk cs here segs with
  | case1 => exact id
  | case2 cs here seg rest hm hall =>
    rw [walk.eq_2, if_pos hm, if_pos hall]
    exact id
  | case3 | case4 | case7 => intro h; cases h
  | case5 cs here seg rest hm hd he ih =>
    rw [walk.eq_2, if_neg hm, if_neg hd, if_pos he]
    exact ih
  | case6 cs here seg rest hm hd he hdd up ih =>
    rw [walk.eq_2, if_neg hm, if_neg hd, if_neg he, if_pos hdd]
    exact ih
  | case8 cs here seg rest hm hdir he hdd hlong next there hstep ih =>
    intro h
    -- a step into `X` lands on no directory, so the walk would end there
    have hnx : ¬ X (cs ++ [seg]) := by
      intro hX
      have hnext : next = cs ++ [seg] := by rw [← stepInto_fst w cs seg, hstep]
      have hthere : there.isDir = false := by
        have := isDir_stepInto w cs seg
        rw [hstep] at this
        exact Bool.eq_false_iff.2 fun hdir => hx _ hX (this.1 hdir)
      exact hd ((eq_of_walk_of_not_isDir hthere h).trans hnext ▸ hX)
    rw [walk.eq_2, if_neg hm, if_neg hdir, if_neg he, if_neg hdd, if_neg hlong,
      stepInto_of_agree hsame hnx, hstep]
    exact ih h

/-! ## Changes confined to a directory's files -/

/-- The leading segments `init` of a path walk from the working directory to the directory
`dir`. -/
def Reaches (w : Workspace) (init dir : List Bytes) : Prop :=
  ∃ here, here.isDir = true ∧ w.walk [] .top init = .ok (dir, here)

theorem Reaches.unique {init d d' : List Bytes} (h : w.Reaches init d) (h' : w.Reaches init d') :
    d = d' := by
  obtain ⟨_, -, hw⟩ := h
  obtain ⟨_, -, hw'⟩ := h'
  rw [hw] at hw'
  exact (Prod.mk.inj (Except.ok.inj hw')).1

theorem Lands.reaches {path : Bytes} {init dir : List Bytes} {name : Bytes}
    (h : Lands w path init dir name) : w.Reaches init dir :=
  h.walks

theorem Lands.of_reaches {path : Bytes} {init dir : List Bytes} {name : Bytes}
    (h : Lands w path init dir name) (hr : w'.Reaches init dir) : Lands w' path init dir name :=
  ⟨h.named, h.short, hr⟩

/-- `w'` differs from `w` at most in the entries `names` of the directory `dir`, which are
directories in neither. -/
structure ChangesIn (w w' : Workspace) (dir : List Bytes) (names : List Bytes) : Prop where
  same : ∀ y, (∀ n ∈ names, y ≠ dir ++ [n]) → w'.lookup y = w.lookup y
  before : ∀ n ∈ names, w.lookup (dir ++ [n]) ≠ some .dir
  after : ∀ n ∈ names, w'.lookup (dir ++ [n]) ≠ some .dir

variable {dir : List Bytes} {names : List Bytes}

theorem ChangesIn.lookup (h : ChangesIn w w' dir names) {m : Bytes} (hm : m ∉ names) :
    w'.lookup (dir ++ [m]) = w.lookup (dir ++ [m]) :=
  h.same _ fun n hn he => hm (by rw [show m = n by simpa using he]; exact hn)

theorem changesIn_self (h : ∀ n ∈ names, w.lookup (dir ++ [n]) ≠ some .dir) :
    ChangesIn w w dir names :=
  ⟨fun _ _ => rfl, h, h⟩

theorem ChangesIn.congr {names' : List Bytes} (h : ChangesIn w w' dir names)
    (hn : ∀ n, n ∈ names ↔ n ∈ names') : ChangesIn w w' dir names' :=
  ⟨fun y hy => h.same y fun n hm => hy n ((hn n).1 hm), fun n hm => h.before n ((hn n).2 hm),
    fun n hm => h.after n ((hn n).2 hm)⟩

theorem ChangesIn.trans {w'' : Workspace} {names' : List Bytes} (h : ChangesIn w w' dir names)
    (h' : ChangesIn w' w'' dir names') : ChangesIn w w'' dir (names ++ names') := by
  refine ⟨fun y hy => ?_, fun n hn => ?_, fun n hn => ?_⟩
  · rw [h'.same y fun n hn => hy n (List.mem_append_right _ hn),
      h.same y fun n hn => hy n (List.mem_append_left _ hn)]
  · by_cases hm : n ∈ names
    · exact h.before n hm
    · rw [← h.lookup hm]
      exact h'.before n ((List.mem_append.1 hn).resolve_left hm)
  · by_cases hm : n ∈ names'
    · exact h'.after n hm
    · rw [h'.lookup hm]
      exact h.after n ((List.mem_append.1 hn).resolve_right hm)

theorem ChangesIn.reaches (h : ChangesIn w w' dir names) {init : List Bytes}
    (hr : w.Reaches init dir) : w'.Reaches init dir := by
  obtain ⟨here, hdir, hw⟩ := hr
  let X : List Bytes → Prop := fun y => ∃ n ∈ names, y = dir ++ [n]
  have hdX : ¬ X dir := by
    rintro ⟨n, -, hn⟩
    have := congrArg List.length hn
    simp at this
  refine ⟨here, hdir, walk_of_agree (X := X) (fun y hy => h.same y fun n hn he => hy ⟨n, hn, he⟩)
    ?_ hdX hw⟩
  rintro y ⟨n, hn, rfl⟩
  exact h.before n hn

theorem changesIn_put {n : Bytes} (hx : w.lookup (dir ++ [n]) ≠ some .dir) {node : Node}
    (hnode : node ≠ .dir) : ChangesIn w (w.put (dir ++ [n]) node) dir [n] := by
  refine ⟨fun y hy => ?_, by simpa using hx, by simpa [lookup_put] using hnode⟩
  rw [lookup_put, if_neg (hy n (List.mem_singleton_self n))]

theorem changesIn_drop {n : Bytes} (hx : w.lookup (dir ++ [n]) ≠ some .dir) :
    ChangesIn w (w.drop (dir ++ [n])) dir [n] := by
  refine ⟨fun y hy => ?_, by simpa using hx, by simp [lookup_drop]⟩
  rw [lookup_drop, if_neg (hy n (List.mem_singleton_self n))]

/-! ## File operations as changes -/

variable {path : Bytes} {init : List Bytes} {name : Bytes}

/-- A create that succeeds makes an empty file, or leaves a device link as it is. -/
theorem create_changes (h : Lands w path init dir name) (hc : w.create path = .ok w') :
    ChangesIn w w' dir [name] ∧
      (w'.lookup (dir ++ [name]) = some (.file []) ∨
        w.lookup (dir ++ [name]) = some .fullDevice ∧ w' = w) := by
  obtain ⟨hd, rfl | ⟨hdev, rfl⟩⟩ := create_eq_ok_of_lands h hc
  · exact ⟨changesIn_put hd nofun, .inl (by simp [lookup_put])⟩
  · exact ⟨changesIn_self (by simpa using hd), .inr ⟨hdev, rfl⟩⟩

/-- A store that succeeds on an entry that is no directory writes the file. -/
theorem store_changes (h : Lands w path init dir name) {c : Bytes} (hs : w.store path c = .ok w')
    (hx : w.lookup (dir ++ [name]) ≠ some .dir) :
    ChangesIn w w' dir [name] ∧ w'.lookup (dir ++ [name]) = some (.file c) := by
  obtain ⟨-, rfl⟩ := store_eq_ok_of_lands h hs hx
  exact ⟨changesIn_put hx nofun, by simp [lookup_put]⟩

/-- Two files of one directory, created in turn and then written in the other order: only
they change, each holding what was last written to it. -/
theorem two_files_changes (hr : w.Reaches init dir) {p1 p2 n1 n2 : Bytes}
    (hn1 : Named p1 init n1) (hn2 : Named p2 init n2) (hne : n1 ≠ n2) {w1 w2 w3 w4 : Workspace}
    (hc1 : w.create p1 = .ok w1) (hc2 : w1.create p2 = .ok w2) {c1 c2 : Bytes}
    (hs2 : w2.store p2 c2 = .ok w3) (hs1 : w3.store p1 c1 = .ok w4) :
    ChangesIn w w4 dir [n1, n2] ∧ w4.lookup (dir ++ [n1]) = some (.file c1) ∧
      w4.lookup (dir ++ [n2]) = some (.file c2) ∧ n1.length ≤ nameMax ∧ n2.length ≤ nameMax := by
  have hne' : n2 ∉ [n1] := by simpa using Ne.symm hne
  obtain ⟨d1, h1⟩ := lands_of_create hn1 hc1
  obtain rfl : dir = d1 := hr.unique h1.reaches
  obtain ⟨ch1, -⟩ := create_changes h1 hc1
  obtain ⟨d2, h2⟩ := lands_of_create hn2 hc2
  obtain rfl : dir = d2 := (ch1.reaches hr).unique h2.reaches
  obtain ⟨ch2, -⟩ := create_changes h2 hc2
  have ch12 := ch1.trans ch2
  obtain ⟨ch3, hl3⟩ := store_changes (h2.of_reaches (ch2.reaches h2.reaches)) hs2
    (ch2.after n2 (List.mem_singleton_self n2))
  have hd1 : w3.lookup (dir ++ [n1]) ≠ some .dir := by
    rw [ch3.lookup (by simpa using hne)]
    exact ch12.after n1 (by simp)
  obtain ⟨ch4, hl4⟩ := store_changes (h1.of_reaches (ch3.reaches (ch12.reaches hr))) hs1 hd1
  have hnames : ∀ n, n ∈ [n1] ++ [n2] ++ [n2] ++ [n1] ↔ n ∈ [n1, n2] := fun n => by
    simp only [List.mem_append, List.mem_cons, List.not_mem_nil, or_false]
    grind
  refine ⟨((ch12.trans ch3).trans ch4).congr hnames, hl4, ?_, h1.short, h2.short⟩
  rw [ch4.lookup hne']
  exact hl3

theorem openRead_of_file (h : Lands w path init dir name) {c : Bytes}
    (hl : w.lookup (dir ++ [name]) = some (.file c)) : w.openRead path = .ok (.contents c) := by
  rw [openRead_of_lands h, hl]

theorem stat_of_file (h : Lands w path init dir name) {c : Bytes}
    (hl : w.lookup (dir ++ [name]) = some (.file c)) : w.stat path = .ok (.contents c) := by
  rw [stat, find_of_lands h, stepInto, hl]

theorem append_of_file (h : Lands w path init dir name) {c : Bytes}
    (hl : w.lookup (dir ++ [name]) = some (.file c)) (more : Bytes) :
    w.append path more = .ok (w.put (dir ++ [name]) (.file (c ++ more))) := by
  rw [append, find_of_lands h, stepInto, hl]

theorem remove_of_file (h : Lands w path init dir name) {c : Bytes}
    (hl : w.lookup (dir ++ [name]) = some (.file c)) :
    w.remove path = .ok (w.drop (dir ++ [name])) := by
  rw [remove, find_of_lands h, stepInto, hl]

theorem openRead_of_dropped (h : Lands w path init dir name)
    (hl : w.lookup (dir ++ [name]) = none) :
    w.openRead path = .error (.file .openFile path .noEntry) := by
  rw [openRead_of_lands h, hl]

end Workspace

end FastqFixtures
