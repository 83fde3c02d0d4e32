import Mathlib
import FastqFixtures.Workspace

/-! # Resolving paths after writes

A path to a file is resolved in two parts: the walk of its leading segments to a directory,
then one step into the entry of its last name. A walk goes on only from directories, so
setting an entry that is not a directory changes no walk that does not end on it; and the
last step looks at one entry only.

* `lookup_put` — the entry at a path after a write.
* `walk_append`, `walk_put_of_not_dir` — walks split at any segment, and unchanged by writes
  where they do not look.
* `Named`, `Lands` — a path to a file of a directory, and where it lands.
* `create_of_lands`, `store_of_lands`, `openRead_of_lands` — the file operations on such a
  path, read off the entry it lands on.
* `named_append` — the paths made by extending an output prefix.
-/

namespace FastqFixtures

set_option autoImplicit false

namespace Workspace

/-! ## Entries after a write -/

/-- The entry at `y` after `x` is set: the new node at `x`, the old entry elsewhere. -/
theorem lookup_put (w : Workspace) (x y : List Bytes) (n : Node) :
    (w.put x n).lookup y = if y = x then some n else w.lookup y := by
  unfold put lookup
  split
  · next hx =>
    -- every entry at `x` is replaced, so the first entry at `y` is found at the same place
    have hpred : ((·.1 == y) ∘ fun p : List Bytes × Node => if p.1 == x then (x, n) else p) =
        (·.1 == y) := by
      funext p
      by_cases hp : p.1 = x
      · subst hp; by_cases hy : y = p.1 <;> simp [hy]
      · simp [hp]
    rw [List.find?_map, hpred]
    cases hfind : w.entries.find? (·.1 == y) with
    | none =>
      have : y ≠ x := by
        rintro rfl
        obtain ⟨p, hp, hpx⟩ := List.any_eq_true.1 hx
        exact (List.find?_eq_none.1 hfind p hp) hpx
      simp [this]
    | some e =>
      have he : e.1 = y := by simpa using List.find?_some hfind
      by_cases hy : y = x <;> simp [he, hy]
  · next hx =>
    rw [List.find?_append]
    by_cases hy : y = x
    · subst hy
      have : w.entries.find? (·.1 == y) = none :=
        List.find?_eq_none.2 fun p hp hpy => by
          have : p.1 = y := by simpa using hpy
          exact hx (List.any_eq_true.2 ⟨p, hp, by simp [this]⟩)
      simp [this]
    · simp [hy, Ne.symm hy]


/-! ## Walks -/

theorem walk_missing (w : Workspace) (cs : List Bytes) (segs : List Bytes) :
    w.walk cs .missing segs =
      if segs.all List.isEmpty then .ok (cs, .missing) else .error .noEntry := by
  cases segs with
  | nil => rfl
  | cons seg rest => simp [walk]

/-- A walk over two runs of segments is the walk over the second from where the first ends. -/
theorem walk_append (w : Workspace) (a b : List Bytes) (cs : List Bytes) (here : Found) :
    w.walk cs here (a ++ b) = (w.walk cs here a).bind fun p => w.walk p.1 p.2 b := by
  fun_induction w.walk cs here a with
  | case1 => rfl
  | case2 cs here seg rest hm hall =>
    obtain rfl : here = .missing := by simpa using hm
    rw [walk_missing, List.all_append, hall, Bool.true_and]
    exact (walk_missing w cs b).symm
  | case3 cs here seg rest hm hall =>
    obtain rfl : here = .missing := by simpa using hm
    rw [walk_missing, List.all_append, Bool.eq_false_iff.2 hall, Bool.false_and]
    rfl
  | case4 cs here seg rest hm hd =>
    rw [List.cons_append, walk.eq_2, if_neg hm, if_pos hd]
    rfl
  | case5 cs here seg rest hm hd he ih =>
    rw [List.cons_append, walk.eq_2, if_neg hm, if_neg hd, if_pos he, ih]
  | case6 cs here seg rest hm hd he hdd up ih =>
    rw [List.cons_append, walk.eq_2, if_neg hm, if_neg hd, if_neg he, if_pos hdd]
    exact ih
  | case7 cs here seg rest hm hd he hdd hlong =>
    rw [List.cons_append, walk.eq_2, if_neg hm, if_neg hd, if_neg he, if_neg hdd, if_pos hlong]
    rfl
  | case8 cs here seg rest hm hd he hdd hlong next there hstep ih =>
    rw [List.cons_append, walk.eq_2, if_neg hm, if_neg hd, if_neg he, if_neg hdd, if_neg hlong,
      hstep]
    exact ih

theorem eq_of_walk_of_not_isDir {w : Workspace} {cs d : List Bytes} {here f : Found}
    {segs : List Bytes} (hhere : here.isDir = false) (h : w.walk cs here segs = .ok (d, f)) :
    d = cs := by
  cases segs with
  | nil =>
    simp only [walk, Except.ok.injEq, Prod.mk.injEq] at h
    exact h.1.symm
  | cons seg rest =>
    by_cases hm : here = .missing
    · subst hm
      rw [walk_missing] at h
      split at h
      · simp only [Except.ok.injEq, Prod.mk.injEq] at h
        exact h.1.symm
      · cases h
    · rw [walk.eq_2, if_neg (by simpa using hm), if_pos (by simp [hhere])] at h
      cases h

theorem stepInto_fst (w : Workspace) (cs : List Bytes) (seg : Bytes) :
    (w.stepInto cs seg).1 = cs ++ [seg] := by
  unfold stepInto
  split <;> rfl

theorem isDir_stepInto (w : Workspace) (cs : List Bytes) (seg : Bytes) :
    (w.stepInto cs seg).2.isDir = true ↔ w.lookup (cs ++ [seg]) = some .dir := by
  unfold stepInto
  split
  · next n hn => cases n <;> simp [Found.isDir, hn]
  · next hn => simp [Found.isDir, hn]

theorem stepInto_put_of_ne {w : Workspace} {x : List Bytes} (n : Node) {cs : List Bytes}
    {seg : Bytes} (h : cs ++ [seg] ≠ x) : (w.put x n).stepInto cs seg = w.stepInto cs seg := by
  simp only [stepInto, lookup_put, h, if_false]

/-- Setting an entry that is not a directory leaves every walk that does not end there as it
was: a walk goes on only from directories, so it never looks at that entry. -/
theorem walk_put_of_not_dir {w : Workspace} {x : List Bytes} (hx : w.lookup x ≠ some .dir)
    (n : Node) {cs d : List Bytes} {here f : Found} {segs : List Bytes} (hd : d ≠ x) :
    w.walk cs here segs = .ok (d, f) → (w.put x n).walk cs here segs = .ok (d, f) := by
  fun_induction w.walk cs here segs with
  | case1 => exact id
  | case2 cs here seg rest hm hall =>
    rw [walk.eq_2, if_pos hm, if_pos hall]
    exact id
  | case3 | case4 | case7 => intro h; cases h
  | case5 cs here seg rest hm hd he ih =>
    rw [walk.eq_2, if_neg hm, if_neg hd, if_pos he]
    exact ih
  | case6 cs here seg rest hm hd he hdd up ih =>
    rw [walk.eq_2, if_neg hm, if_neg hd, if_neg he, if_pos hdd]
    exact ih
  | case8 cs here seg rest hm hdir he hdd hlong next there hstep ih =>
    intro h
    -- the step cannot enter `x`: nothing but a directory lets the walk end elsewhere
    have hne : cs ++ [seg] ≠ x := by
      rintro hcx
      have hnext : next = x := by rw [← hcx, ← stepInto_fst w cs seg, hstep]
      have hthere : there.isDir = false := by
        have := isDir_stepInto w cs seg
        rw [hstep, hcx] at this
        exact Bool.eq_false_iff.2 fun hdir => hx (this.1 hdir)
      exact hd ((eq_of_walk_of_not_isDir hthere h).trans hnext)
    rw [walk.eq_2, if_neg hm, if_neg hdir, if_neg he, if_neg hdd, if_neg hlong,
      stepInto_put_of_ne n hne, hstep]
    exact ih h

theorem walk_name (w : Workspace) {cs : List Bytes} {here : Found} {name : Bytes}
    (hdir : here.isDir = true) (hne : name ≠ []) (hdot : name ≠ [46])
    (hdotdot : name ≠ [46, 46])
    (hshort : name.length ≤ nameMax) : w.walk cs here [name] = .ok (w.stepInto cs name) := by
  have hm : (here == Found.missing) = false := by
    cases here <;> simp_all [Found.isDir]
  have hseg : (name.isEmpty || name == [46]) = false := by simp [hne, hdot]
  rw [walk.eq_2, hm, if_neg Bool.false_ne_true, if_neg (by simp [hdir]), hseg,
    if_neg Bool.false_ne_true, if_neg (by simpa using hdotdot), if_neg (by omega)]
  rfl

/-! ## Paths to the files of a directory -/

/-- The segments of `path` are those of `init` and then the plain name `name`, and the path is
taken as it is: no zero byte, not too long, no trailing slash. -/
structure Named (path : Bytes) (init : List Bytes) (name : Bytes) : Prop where
  accepted : refusal? path = none
  file : wantsDir path = false
  split : Bytes.splitOn 47 path = init ++ [name]
  ne_nil : name ≠ []
  ne_dot : name ≠ [46]
  ne_dotdot : name ≠ [46, 46]

/-- A named path reaches the entry `name` of the directory `dir`: its leading segments walk to
`dir`, and the name is short enough to be looked up. -/
structure Lands (w : Workspace) (path : Bytes) (init dir : List Bytes) (name : Bytes) : Prop
    where
  named : Named path init name
  short : name.length ≤ nameMax
  walks : ∃ here, here.isDir = true ∧ w.walk [] .top init = .ok (dir, here)

variable {w : Workspace} {path : Bytes} {init dir : List Bytes} {name : Bytes}

theorem Named.isEmpty_eq_false (h : Named path init name) : path.isEmpty = false := by
  cases path with
  | nil =>
    have hlast := congrArg List.getLast? h.split
    simp only [Bytes.splitOn, List.splitOnP_nil, List.getLast?_singleton,
      List.getLast?_concat, Option.some.injEq] at hlast
    exact absurd hlast.symm h.ne_nil
  | cons => rfl

theorem find_of_named (hn : Named path init name) :
    w.find path = w.walk [] .top (init ++ [name]) := by
  rw [find, hn.accepted, hn.isEmpty_eq_false, hn.split]
  rfl

theorem find_of_lands (h : Lands w path init dir name) :
    w.find path = .ok (w.stepInto dir name) := by
  obtain ⟨here, hdir, hwalk⟩ := h.walks
  rw [find_of_named h.named, walk_append, hwalk]
  exact walk_name w hdir h.named.ne_nil h.named.ne_dot h.named.ne_dotdot h.short

theorem isDir_of_walk_name {cs : List Bytes} {here : Found} {r : List Bytes × Found}
    (hne : name ≠ []) (hdot : name ≠ [46]) (hdotdot : name ≠ [46, 46])
    (h : w.walk cs here [name] = .ok r) : here.isDir = true ∧ name.length ≤ nameMax := by
  by_cases hm : here = .missing
  · subst hm
    rw [walk_missing] at h
    simp [hne] at h
  · rw [walk.eq_2, if_neg (by simpa using hm)] at h
    by_cases hd : here.isDir = true
    · refine ⟨hd, Nat.not_lt.1 fun hlong => ?_⟩
      rw [if_neg (by simp [hd]), if_neg (by simp [hne, hdot]), if_neg (by simpa using hdotdot),
        if_pos hlong] at h
      cases h
    · rw [if_pos (by simpa using hd)] at h
      cases h

theorem lands_of_find (hn : Named path init name) {r : List Bytes × Found}
    (h : w.find path = .ok r) :
    ∃ dir, Lands w path init dir name ∧ r = w.stepInto dir name := by
  rw [find_of_named hn, walk_append] at h
  cases hw : w.walk [] .top init with
  | error e => rw [hw] at h; cases h
  | ok p =>
    rw [hw] at h
    change w.walk p.1 p.2 [name] = .ok r at h
    obtain ⟨hdir, hshort⟩ := isDir_of_walk_name hn.ne_nil hn.ne_dot hn.ne_dotdot h
    refine ⟨p.1, ⟨hn, hshort, p.2, hdir, hw⟩, ?_⟩
    rw [walk_name w hdir hn.ne_nil hn.ne_dot hn.ne_dotdot hshort] at h
    exact (Except.ok.inj h).symm

theorem Lands.put (h : Lands w path init dir name) {y : List Bytes} (hy : w.lookup y ≠ some .dir)
    (hlen : y.length = dir.length + 1) (n : Node) : Lands (w.put y n) path init dir name := by
  obtain ⟨here, hdir, hwalk⟩ := h.walks
  have hne : dir ≠ y := by
    rintro rfl
    omega
  exact ⟨h.named, h.short, here, hdir, walk_put_of_not_dir hy n hne hwalk⟩

theorem slashedName?_eq_none (hn : Named path init name) : slashedName? path = none := by
  unfold slashedName?
  simp only [hn.file, Bool.false_and, Bool.false_eq_true, if_false]
  split <;> rfl

theorem create_of_lands (h : Lands w path init dir name) :
    w.create path = match w.lookup (dir ++ [name]) with
      | some .dir => .error (.file .openFile path .isDir)
      | some .fullDevice => .ok w
      | _ => .ok (w.put (dir ++ [name]) (.file [])) := by
  rw [create]
  simp only [h.named.accepted, slashedName?_eq_none h.named, find_of_lands h, stepInto]
  cases w.lookup (dir ++ [name]) with
  | none => rfl
  | some n => cases n <;> rfl

theorem store_of_lands (h : Lands w path init dir name) (c : Bytes) :
    w.store path c = match w.lookup (dir ++ [name]) with
      | some .fullDevice => .error (.file .write path .noSpace)
      | some .dir => .ok w
      | _ => .ok (w.put (dir ++ [name]) (.file c)) := by
  rw [store]
  simp only [find_of_lands h, stepInto]
  cases w.lookup (dir ++ [name]) with
  | none => rfl
  | some n => cases n <;> rfl

/-- A file that lands where there is neither a directory nor a link to the device is created
empty. -/
theorem create_of_free (h : Lands w path init dir name)
    (hd : w.lookup (dir ++ [name]) ≠ some .dir) (hf : w.lookup (dir ++ [name]) ≠ some .fullDevice) :
    w.create path = .ok (w.put (dir ++ [name]) (.file [])) := by
  rw [create_of_lands h]
  split <;> simp_all

/-- A file that lands where there is neither a directory nor a link to the device takes what is
stored. -/
theorem store_of_free (h : Lands w path init dir name) (c : Bytes)
    (hd : w.lookup (dir ++ [name]) ≠ some .dir) (hf : w.lookup (dir ++ [name]) ≠ some .fullDevice) :
    w.store path c = .ok (w.put (dir ++ [name]) (.file c)) := by
  rw [store_of_lands h]
  split <;> simp_all

theorem openRead_of_lands (h : Lands w path init dir name) :
    w.openRead path = match w.lookup (dir ++ [name]) with
      | some (.file c) => .ok (.contents c)
      | some .dir => .ok .directory
      | some .fullDevice => .ok .zeros
      | none => .error (.file .openFile path .noEntry) := by
  rw [openRead]
  simp only [find_of_lands h, stepInto]
  cases w.lookup (dir ++ [name]) with
  | none => rfl
  | some n => cases n <;> rfl

theorem refusal?_eq_none_of_create {w' : Workspace} (hc : w.create path = .ok w') :
    refusal? path = none := by
  unfold create at hc
  cases h : refusal? path with
  | none => rfl
  | some e => simp [h] at hc

theorem lands_of_create (hn : Named path init name) {w' : Workspace}
    (hc : w.create path = .ok w') : ∃ dir, Lands w path init dir name := by
  rw [create] at hc
  simp only [hn.accepted, slashedName?_eq_none hn] at hc
  cases hf : w.find path with
  | error e => rw [hf] at hc; cases hc
  | ok r => exact (lands_of_find hn hf).imp fun _ h => h.1

/-- A create that succeeds found no directory there, and made an empty file unless the entry
is the full device. -/
theorem create_eq_ok_of_lands (h : Lands w path init dir name) {w' : Workspace}
    (hc : w.create path = .ok w') :
    w.lookup (dir ++ [name]) ≠ some .dir ∧
      (w' = w.put (dir ++ [name]) (.file []) ∨
        w.lookup (dir ++ [name]) = some .fullDevice ∧ w' = w) := by
  rw [create_of_lands h] at hc
  cases hl : w.lookup (dir ++ [name]) with
  | none =>
    rw [hl] at hc
    exact ⟨nofun, .inl (Except.ok.inj hc).symm⟩
  | some n =>
    rw [hl] at hc
    cases n with
    | file c => exact ⟨nofun, .inl (Except.ok.inj hc).symm⟩
    | dir => cases hc
    | fullDevice => exact ⟨nofun, .inr ⟨rfl, (Except.ok.inj hc).symm⟩⟩

/-- A store that succeeds on an entry that is not a directory found no device there, and wrote
the file. -/
theorem store_eq_ok_of_lands (h : Lands w path init dir name) {c : Bytes} {w' : Workspace}
    (hs : w.store path c = .ok w') (hx : w.lookup (dir ++ [name]) ≠ some .dir) :
    w.lookup (dir ++ [name]) ≠ some .fullDevice ∧ w' = w.put (dir ++ [name]) (.file c) := by
  rw [store_of_lands h] at hs
  cases hl : w.lookup (dir ++ [name]) with
  | none =>
    rw [hl] at hs
    exact ⟨nofun, (Except.ok.inj hs).symm⟩
  | some n =>
    rw [hl] at hs
    cases n with
    | file c => exact ⟨nofun, (Except.ok.inj hs).symm⟩
    | dir => exact absurd hl hx
    | fullDevice => cases hs

/-! ## Names that extend a path -/

theorem splitOn_append_exists (output : Bytes) {suffix : Bytes} (hs : ∀ b ∈ suffix, b ≠ 47) :
    ∃ init last, Bytes.splitOn 47 output = init ++ [last] ∧
      Bytes.splitOn 47 (output ++ suffix) = init ++ [last ++ suffix] := by
  unfold Bytes.splitOn
  induction output with
  | nil =>
    refine ⟨[], [], rfl, List.splitOnP_eq_singleton fun b hb => ?_⟩
    simpa using hs b hb
  | cons x output ih =>
    obtain ⟨init, last, h1, h2⟩ := ih
    rw [List.cons_append, List.splitOnP_cons_eq_if_modifyHead,
      List.splitOnP_cons_eq_if_modifyHead, h1, h2]
    by_cases hx : x = 47
    · exact ⟨[] :: init, last, by simp [hx], by simp [hx]⟩
    · cases init with
      | nil => exact ⟨[], x :: last, by simp [hx], by simp [hx]⟩
      | cons i is => exact ⟨(x :: i) :: is, last, by simp [hx], by simp [hx]⟩

theorem splitOn_append {output suffix : Bytes} (hs : ∀ b ∈ suffix, b ≠ 47) {init : List Bytes}
    {last : Bytes} (h : Bytes.splitOn 47 output = init ++ [last]) :
    Bytes.splitOn 47 (output ++ suffix) = init ++ [last ++ suffix] := by
  obtain ⟨init', last', h1, h2⟩ := splitOn_append_exists output hs
  obtain ⟨rfl, hlast⟩ := List.append_inj' (h.symm.trans h1) rfl
  rw [h2, (List.singleton_inj.1 hlast)]

theorem splitOn_eq_concat (path : Bytes) : ∃ init last, Bytes.splitOn 47 path = init ++ [last] := by
  rcases List.eq_nil_or_concat (Bytes.splitOn 47 path) with h | h
  · exact absurd h (List.splitOnP_ne_nil _ _)
  · simpa using h

/-- A path extended by three or more bytes without a slash names a file in the directory of
its last segment, once the kernel takes it. -/
theorem named_append {output suffix : Bytes} (hs : ∀ b ∈ suffix, b ≠ 47)
    (hlen : 3 ≤ suffix.length) (hacc : refusal? (output ++ suffix) = none) {init : List Bytes}
    {last : Bytes} (h : Bytes.splitOn 47 output = init ++ [last]) :
    Named (output ++ suffix) init (last ++ suffix) := by
  have hname : 3 ≤ (last ++ suffix).length := by simp; omega
  refine ⟨hacc, ?_, splitOn_append hs h, ?_, ?_, ?_⟩
  · have hne : suffix ≠ [] := List.ne_nil_of_length_pos (by omega)
    obtain ⟨b, hb⟩ : ∃ b, suffix.getLast? = some b :=
      ⟨_, List.getLast?_eq_some_getLast hne⟩
    have hb' : b ≠ 47 := hs b (List.mem_of_getLast? hb)
    simp [wantsDir, List.getLast?_append, hb, hb']
  all_goals
    intro he
    rw [he] at hname
    simp at hname

end Workspace

end FastqFixtures
