import Mathlib
import FastqFixtures.Pool
import FastqFixtures.Proofs.DirectoryChanges

/-! # Concatenating files

Concatenation creates the destination empty and then appends each source to it in turn. When
the destination lands on a file of an existing directory, each append sets that one entry, and
a source kept apart from it reads the same before and after; so the destination ends up
holding the sources' contents one after another, and nothing else changes. The first source
that does not read as a file stops the run with its fault, and the destination keeps what the
sources before it gave.

* `put_put`, `find_put_of_ne` — an entry set twice, and paths resolved apart from it.
* `FileApart` — a source that is a file, apart from the destination.
* `appendAll_files_append` — appending files adds their contents, whatever comes after them.
* `concat_of_files`, `concat_stops_at` — a run over files, and a run stopped by a source.
* `concat_writes_sources` — what concatenation leaves, when it succeeds and when it stops.
* `concat_fails_at_destination` — destinations that cannot take the sources.
-/

namespace FastqFixtures

set_option autoImplicit false

namespace Workspace

@[simp]
theorem room_put (w : Workspace) (x : List Bytes) (a : Node) : (w.put x a).room = w.room := by
  unfold put
  split <;> rfl

theorem put_put (w : Workspace) (x : List Bytes) (a b : Node) :
    (w.put x a).put x b = w.put x b := by
  unfold put
  by_cases hx : w.entries.any (·.1 == x) = true
  · have hmap : (w.entries.map fun p => if p.1 == x then (x, a) else p).any (·.1 == x) = true := by
      obtain ⟨p, hp, hpx⟩ := List.any_eq_true.1 hx
      exact List.any_eq_true.2 ⟨(x, a), List.mem_map.2 ⟨p, hp, by simp [hpx]⟩, by simp⟩
    rw [if_pos hx, if_pos hmap, if_pos hx, List.map_map]
    congr 2
    funext p
    by_cases hp : p.1 = x <;> simp [hp]
  · have hnew : (w.entries ++ [(x, a)]).any (·.1 == x) = true := by simp
    -- no old entry is at `x`, so only the new one is replaced
    have hold : (w.entries.map fun p => if p.1 == x then (x, b) else p) = w.entries := by
      refine (List.map_congr_left fun p hp => ?_).trans (List.map_id' _)
      exact if_neg fun hpx => hx (List.any_eq_true.2 ⟨p, hp, hpx⟩)
    rw [if_neg hx, if_pos hnew, if_neg hx, List.map_append, hold]
    simp

/-- Setting an entry that is not a directory leaves every path that resolves elsewhere as it
was. -/
theorem find_put_of_ne {w : Workspace} {x : List Bytes} (hx : w.lookup x ≠ some .dir) (n : Node)
    {path : Bytes} {cs : List Bytes} {f : Found} (h : w.find path = .ok (cs, f)) (hcs : cs ≠ x) :
    (w.put x n).find path = .ok (cs, f) := by
  rw [find] at h ⊢
  cases hr : refusal? path with
  | some e =>
    simp only [hr] at h
    cases h
  | none =>
    cases hp : path.isEmpty with
    | true =>
      simp only [hr, hp, if_true] at h
      cases h
    | false =>
      simp only [hr, hp, Bool.false_eq_true, if_false] at h ⊢
      exact walk_put_of_not_dir hx n hcs h

/-- The path `src` resolves to a regular file holding `c`, at a place other than `x`. -/
def FileApart (w : Workspace) (x : List Bytes) (src c : Bytes) : Prop :=
  ∃ cs, cs ≠ x ∧ w.find src = .ok (cs, .entry (.file c))

theorem FileApart.openRead {w : Workspace} {x : List Bytes} {src c : Bytes}
    (h : FileApart w x src c) : w.openRead src = .ok (.contents c) := by
  obtain ⟨cs, -, hfind⟩ := h
  rw [Workspace.openRead, hfind]

theorem FileApart.put {w : Workspace} {x : List Bytes} {src c : Bytes} (h : FileApart w x src c)
    (hx : w.lookup x ≠ some .dir) (n : Node) : FileApart (w.put x n) x src c := by
  obtain ⟨cs, hcs, hfind⟩ := h
  exact ⟨cs, hcs, find_put_of_ne hx n hfind hcs⟩

end Workspace

namespace Pool

open Text Workspace

variable {w : Workspace} {dst : Bytes} {init dir : List Bytes} {name : Bytes}

/-- Appending sources that are files apart from the destination's file adds their contents to
it in turn; what comes after them starts from there. -/
theorem appendAll_files_append (h : Lands w dst init dir name)
    (hx : w.lookup (dir ++ [name]) ≠ some .dir) {srcs contents : List Bytes}
    (hsrcs : List.Forall₂ (FileApart w (dir ++ [name])) srcs contents) (acc : Bytes)
    (rest : List Bytes) :
    appendAll dst (w.put (dir ++ [name]) (.file acc)) (srcs ++ rest) =
      appendAll dst (w.put (dir ++ [name]) (.file (acc ++ contents.flatten))) rest := by
  induction hsrcs generalizing acc with
  | nil => simp
  | @cons src c srcs contents hsrc _ ih =>
    have hlands := h.put hx (by simp) (.file acc)
    have hacc : (w.put (dir ++ [name]) (.file acc)).lookup (dir ++ [name]) = some (.file acc) := by
      simp [lookup_put]
    simp only [List.cons_append, appendAll, (hsrc.put hx _).openRead, append_of_file hlands hacc,
      put_put]
    rw [ih, List.flatten_cons, List.append_assoc]

theorem concat_eq_appendAll (h : Lands w dst init dir name)
    (hd : w.lookup (dir ++ [name]) ≠ some .dir) (hf : w.lookup (dir ++ [name]) ≠ some .fullDevice)
    (srcs : List Bytes) :
    concat w dst srcs = appendAll dst (w.put (dir ++ [name]) (.file [])) srcs := by
  rw [concat, create_of_free h hd hf]

/-- Concatenating files apart from a destination that can be created empty leaves it holding
their contents in order, and changes nothing else. -/
theorem concat_of_files (h : Lands w dst init dir name)
    (hd : w.lookup (dir ++ [name]) ≠ some .dir) (hf : w.lookup (dir ++ [name]) ≠ some .fullDevice)
    {srcs contents : List Bytes} (hsrcs : List.Forall₂ (FileApart w (dir ++ [name])) srcs contents) :
    concat w dst srcs = (.ok (), w.put (dir ++ [name]) (.file contents.flatten)) := by
  have hall := appendAll_files_append h hd hsrcs [] []
  rw [List.append_nil, List.nil_append] at hall
  rw [concat_eq_appendAll h hd hf, hall]
  rfl

theorem concat_stops_at (h : Lands w dst init dir name)
    (hd : w.lookup (dir ++ [name]) ≠ some .dir) (hf : w.lookup (dir ++ [name]) ≠ some .fullDevice)
    {pre contents : List Bytes} (hpre : List.Forall₂ (FileApart w (dir ++ [name])) pre contents)
    (rest : List Bytes) :
    concat w dst (pre ++ rest) =
      appendAll dst (w.put (dir ++ [name]) (.file contents.flatten)) rest := by
  rw [concat_eq_appendAll h hd hf, appendAll_files_append h hd hpre [] rest, List.nil_append]

/-- Concatenation into a destination that can be created empty, from sources that are files
apart from it, leaves the destination holding their contents in order and every other entry as
it was. When a source does not read as a file, the run stops there with that source's fault,
whatever follows, and the destination holds the contents of the sources before it; the endless
device first adds zero bytes until the disk is full. A destination that cannot be created stops
the run before anything is written. -/
theorem concat_writes_sources :
    (∀ (w : Workspace) (dst : Bytes) (init dir : List Bytes) (name : Bytes)
        (srcs contents : List Bytes),
      Lands w dst init dir name → w.lookup (dir ++ [name]) ≠ some .dir →
      w.lookup (dir ++ [name]) ≠ some .fullDevice →
      List.Forall₂ (FileApart w (dir ++ [name])) srcs contents →
      concat w dst srcs = (.ok (), w.put (dir ++ [name]) (.file contents.flatten))) ∧
    (∀ (w : Workspace) (dst : Bytes) (init dir : List Bytes) (name : Bytes)
        (pre contents : List Bytes) (bad : Bytes) (post : List Bytes),
      Lands w dst init dir name → w.lookup (dir ++ [name]) ≠ some .dir →
      w.lookup (dir ++ [name]) ≠ some .fullDevice →
      List.Forall₂ (FileApart w (dir ++ [name])) pre contents →
      let stopped := w.put (dir ++ [name]) (.file contents.flatten)
      (∀ f, stopped.openRead bad = .error f →
        concat w dst (pre ++ bad :: post) = (.error f, stopped)) ∧
      (stopped.openRead bad = .ok .directory →
        concat w dst (pre ++ bad :: post) =
          (.error (Fault.within (text "appending " ++ bad) (.file .read bad .isDir)), stopped)) ∧
      (stopped.openRead bad = .ok .zeros →
        concat w dst (pre ++ bad :: post) =
          (.error (Fault.within (text "appending " ++ bad) (.file .write dst .noSpace)),
            { w.put (dir ++ [name]) (.file (contents.flatten ++ List.replicate w.room 0)) with
                room := 0 }))) ∧
    (∀ (w : Workspace) (dst : Bytes) (srcs : List Bytes) (f : Fault),
      w.create dst = .error f → concat w dst srcs = (.error f, w)) := by
  refine ⟨fun _ _ _ _ _ _ _ h hd hf hsrcs => concat_of_files h hd hf hsrcs,
    fun w dst init dir name pre contents bad post h hd hf hpre => ?_,
    fun w dst srcs f hc => by rw [concat, hc]⟩
  intro stopped
  have hstop : concat w dst (pre ++ bad :: post) = appendAll dst stopped (bad :: post) :=
    concat_stops_at h hd hf hpre (bad :: post)
  refine ⟨fun f hopen => ?_, fun hopen => ?_, fun hopen => ?_⟩
  · simp only [hstop, appendAll, hopen]
  · simp only [hstop, appendAll, hopen]
  · -- the zero bytes go to the destination's file, after what the sources before gave
    have hlands := h.put hd (by simp) (.file contents.flatten)
    have hfile : stopped.lookup (dir ++ [name]) = some (.file contents.flatten) := by
      simp [stopped, lookup_put]
    simp only [hstop, appendAll, hopen, append_of_file hlands hfile, stopped, put_put, room_put]

/-- The tree holding the file `in` with the byte `x`, and a link `dev` to the full device. -/
def sourceBesideDevice : Workspace :=
  ⟨[([[100, 101, 118]], .fullDevice), ([[105, 110]], .file [120])], 0⟩

/-- A readable source does not make a concatenation succeed when the destination cannot take
it: `d/out` lies in a missing directory, and `dev` links to a device that is always full. -/
theorem concat_fails_at_destination :
    sourceBesideDevice.openRead [105, 110] = .ok (.contents [120]) ∧
    concat sourceBesideDevice [100, 47, 111, 117, 116] [[105, 110]] =
      (.error (.file .openFile [100, 47, 111, 117, 116] .noEntry), sourceBesideDevice) ∧
    concat sourceBesideDevice [100, 101, 118] [[105, 110]] =
      (.error (Fault.within (text "appending " ++ [105, 110])
        (.file .write [100, 101, 118] .noSpace)), sourceBesideDevice) :=
  ⟨rfl, rfl, rfl⟩

end Pool

end FastqFixtures
