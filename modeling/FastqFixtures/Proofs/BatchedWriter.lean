import Mathlib.Logic.Relation
import FastqFixtures.Fastq.Batching
import FastqFixtures.Proofs.SynthesizedFiles

/-! # Every interleaving of a batching writer hands its records over once, in order

A batching writer's caller and drain run side by side, and its stream may fail at any operation.
Whatever the cache size, the interleaving and the faults:

* every run is finite, and it stops only once the caller has made all its calls, so no flush and
  no close blocks forever (`potential_lt`, `Inv.progress`);
* the drain hands the records to the stream in write order, one write each, and writes none after
  the first that fails (`Inv.handed`);
* the first close returns the first fault of the stream's operations, every later close returns
  none and changes nothing else (`Inv.results_eq`, `Inv.step_of_returned`);
* between calls the cache holds fewer records than its capacity.

With no fault the stream receives exactly the text a `RecordWriter` collects from the same
records (`text_of_no_fault`). All of it rests on one invariant, `Inv`, which every step keeps.
-/

namespace FastqFixtures.Fastq

set_option autoImplicit false

/-! ## Handing records to a stream -/

/-- A log of writes in which only the last can have failed, and after which records were
dropped only if one did, hands its records over. -/
theorem handed_of_log {ws : List (Record × Option Fault)} {ds rs : List Record}
    (hrs : ws.map Prod.fst ++ ds = rs) (hstops : ∀ w ∈ ws.dropLast, w.2 = none)
    (hdropped : ds ≠ [] → firstFault (ws.map Prod.snd) ≠ none) : Handed rs ws := by
  induction ws generalizing rs with
  | nil =>
    -- nothing was written, so nothing failed and nothing was dropped
    have hds : ds = [] := by
      by_contra h
      exact hdropped h rfl
    subst hds hrs
    exact .done
  | cons w ws ih =>
    obtain ⟨r, f⟩ := w
    subst hrs
    by_cases hws : ws = []
    · subst hws
      cases f with
      | none =>
        have hds : ds = [] := by
          by_contra h
          exact hdropped h rfl
        subst hds
        exact .written .done
      | some f => exact .failed ds
    · -- a write followed by another succeeded
      have hdrop : ((r, f) :: ws).dropLast = (r, f) :: ws.dropLast :=
        List.dropLast_cons_of_ne_nil hws
      have hf : f = none := hstops (r, f) (by rw [hdrop]; exact List.mem_cons_self)
      subst hf
      refine .written (ih rfl (fun w hw => hstops w ?_) fun h => by simpa using hdropped h)
      rw [hdrop]
      exact List.mem_cons_of_mem _ hw

theorem Handed.map_fst {rs : List Record} {ws : List (Record × Option Fault)} (h : Handed rs ws)
    (hok : ∀ w ∈ ws, w.2 = none) : ws.map Prod.fst = rs := by
  induction h with
  | done => rfl
  | written _ ih => simp [ih fun w hw => hok w (List.mem_cons_of_mem _ hw)]
  | failed rs => simpa using hok _ List.mem_cons_self

theorem RecordWriter.text_foldl (rw : RecordWriter) (rs : List Record) :
    (rs.foldl RecordWriter.write rw).text = rw.text ++ (rs.map Record.format).flatten := by
  induction rs generalizing rw with
  | nil => simp
  | cons r rs ih => simp [ih, RecordWriter.text_write]

/-- One while the caller is inside its first `Close`. -/
def CallerAt.inClose : CallerAt → Nat
  | .flushing true | .closingChannel | .awaiting => 1
  | _ => 0

namespace BatchWriter

/-! ## The invariant -/

/-- What holds of every state a run reaches: the records are all accounted for, the drain's
fault is the first of the stream's, and the caller's place fits the drain's and its results. -/
structure Inv (cap : Nat) (rs : List Record) (closes : Nat) (s : BatchWriter) : Prop where
  cache_lt : s.caller = .ready → s.cache.length < cap
  /-- Each record is written, dropped, in the drain's batch, in the cache or still to come. -/
  conserve : s.writes.map Prod.fst ++ s.dropped ++ s.drain.batch ++ s.cache ++ s.todo = rs
  err_eq : s.err = firstFault s.outcomes
  stops : ∀ w ∈ s.writes.dropLast, w.2 = none
  dropped_fault : s.dropped ≠ [] → firstFault (s.writes.map Prod.snd) ≠ none
  closings_nil : s.drain ≠ .finished → s.closings = []
  closings_three : s.drain = .finished → ∃ fb fg ff, s.closings = [fb, fg, ff]
  todo_nil : s.caller ≠ .ready → s.caller ≠ .flushing false → s.todo = []
  cache_nil : s.caller = .closingChannel ∨ s.caller.channelClosed = true → s.cache = []
  finished_closed : s.drain = .finished → s.caller.channelClosed = true
  results_nil : s.caller ≠ .returned → s.results = []
  returned : s.caller = .returned →
    s.drain = .finished ∧ ∃ j, s.results = s.err :: List.replicate j none
  count : s.results.length + s.closesLeft + s.caller.inClose = closes

variable {cap : Nat} {rs : List Record} {closes : Nat} {s : BatchWriter}

theorem Inv.initial (hcap : 0 < cap) : Inv cap rs closes (start rs closes) where
  cache_lt _ := hcap
  conserve := by simp [BatchWriter.start, DrainAt.batch]
  err_eq := rfl
  stops := by simp [BatchWriter.start]
  dropped_fault h := absurd rfl h
  closings_nil _ := rfl
  closings_three h := by cases h
  todo_nil h _ := absurd rfl h
  cache_nil _ := rfl
  finished_closed h := by cases h
  results_nil _ := rfl
  returned h := by cases h
  count := by simp [BatchWriter.start, CallerAt.inClose]

theorem Inv.not_finished (inv : Inv cap rs closes s) (h : s.caller.channelClosed = false) :
    s.drain ≠ .finished := fun hfin => by simp [inv.finished_closed hfin] at h

theorem Inv.not_returned (inv : Inv cap rs closes s) (h : s.drain ≠ .finished) :
    s.caller ≠ .returned := fun hr => h (inv.returned hr).1

theorem Inv.err_of_writing (inv : Inv cap rs closes s) (h : s.drain ≠ .finished) :
    s.err = firstFault (s.writes.map Prod.snd) := by
  rw [inv.err_eq, outcomes, inv.closings_nil h]
  simp

/-! ## Each step keeps the invariant -/

theorem Inv.write (inv : Inv cap rs closes s) {r : Record} {rest : List Record}
    (is_ready : s.caller = .ready) (is_next : s.todo = r :: rest) {c : CallerAt}
    (hc : c = .flushing false ∨ c = .ready ∧ (s.cache ++ [r]).length < cap) :
    Inv cap rs closes { s with todo := rest, cache := s.cache ++ [r], caller := c } := by
  have hnotfin := inv.not_finished (by simp [is_ready, CallerAt.channelClosed])
  have hc0 : c.inClose = 0 ∧ c.channelClosed = false ∧ c ≠ .closingChannel ∧
      c ≠ .returned := by
    rcases hc with rfl | ⟨rfl, -⟩ <;> simp [CallerAt.inClose, CallerAt.channelClosed]
  refine { inv with
    cache_lt := fun h => ?_
    conserve := by simpa [is_next] using inv.conserve
    todo_nil := fun h1 h2 => ?_
    cache_nil := fun h => ?_
    finished_closed := fun h => absurd h hnotfin
    results_nil := fun _ => inv.results_nil (by simp [is_ready])
    returned := fun h => absurd h hc0.2.2.2
    count := by
      show s.results.length + s.closesLeft + c.inClose = closes
      rw [hc0.1]
      simpa [is_ready, CallerAt.inClose] using inv.count }
  · rcases hc with rfl | ⟨-, hlt⟩
    · cases h
    · exact hlt
  · rcases hc with rfl | ⟨rfl, -⟩
    · exact absurd rfl h2
    · exact absurd rfl h1
  · simp [hc0.2.1, hc0.2.2.1] at h

theorem Inv.close (inv : Inv cap rs closes s) {k : Nat} (is_ready : s.caller = .ready)
    (all_written : s.todo = []) (is_next : s.closesLeft = k + 1) :
    Inv cap rs closes { s with closesLeft := k, caller := .flushing true } :=
  { inv with
    cache_lt := fun h => by cases h
    todo_nil := fun _ _ => all_written
    cache_nil := fun h => by simp [CallerAt.channelClosed] at h
    finished_closed := fun h =>
      absurd h (inv.not_finished (by simp [is_ready, CallerAt.channelClosed]))
    results_nil := fun _ => inv.results_nil (by simp [is_ready])
    returned := fun h => by cases h
    count := by
      show s.results.length + k + 1 = closes
      have := inv.count
      simp only [is_ready, is_next, CallerAt.inClose] at this
      omega }

theorem Inv.closeAgain (inv : Inv cap rs closes s) {k : Nat} (is_returned : s.caller = .returned)
    (is_next : s.closesLeft = k + 1) :
    Inv cap rs closes { s with closesLeft := k, results := s.results ++ [none] } := by
  obtain ⟨hfin, j, hres⟩ := inv.returned is_returned
  refine { inv with
    results_nil := fun h => absurd is_returned h
    returned := fun _ => ⟨hfin, j + 1, by simp [hres, List.replicate_succ']⟩
    count := ?_ }
  show (s.results ++ [none]).length + k + s.caller.inClose = closes
  have := inv.count
  simp only [is_returned, is_next, CallerAt.inClose, List.length_append, List.length_singleton]
    at this ⊢
  omega

theorem Inv.flushEmpty (inv : Inv cap rs closes s) (hcap : 0 < cap) {closing : Bool}
    (is_flushing : s.caller = .flushing closing) (is_empty : s.cache = []) :
    Inv cap rs closes { s with caller := if closing then .closingChannel else .ready } := by
  have hnotfin := inv.not_finished (by simp [is_flushing, CallerAt.channelClosed])
  refine { inv with
    cache_lt := fun _ => by rw [show s.cache = [] from is_empty]; exact hcap
    todo_nil := fun h1 h2 => ?_
    cache_nil := fun _ => is_empty
    finished_closed := fun h => absurd h hnotfin
    results_nil := fun _ => inv.results_nil (by simp [is_flushing])
    returned := fun h => by cases closing <;> simp at h
    count := ?_ }
  · cases closing
    · exact absurd rfl h1
    · exact inv.todo_nil (by simp [is_flushing]) (by simp [is_flushing])
  · show s.results.length + s.closesLeft +
      (if closing then CallerAt.closingChannel else .ready).inClose = _
    rw [← inv.count, is_flushing]
    cases closing <;> rfl

/-- The drain takes the cache of a flushing caller as its batch. The caller has yet to return
from the send: the hand-off is this move and `flushEmpty` at once. -/
theorem Inv.takeBatch (inv : Inv cap rs closes s) {closing : Bool}
    (is_flushing : s.caller = .flushing closing) (is_receiving : s.drain = .receiving) :
    Inv cap rs closes { s with cache := [], drain := .writing s.cache } :=
  { inv with
    cache_lt := fun h => by simp [is_flushing] at h
    conserve := by simpa [is_receiving, DrainAt.batch] using inv.conserve
    closings_nil := fun _ => inv.closings_nil (by simp [is_receiving])
    closings_three := fun h => by cases h
    cache_nil := fun _ => rfl
    finished_closed := fun h => by cases h
    returned := fun h => by simp [is_flushing] at h }

theorem Inv.closeChannel (inv : Inv cap rs closes s) (is_closing : s.caller = .closingChannel) :
    Inv cap rs closes { s with caller := .awaiting } :=
  { inv with
    cache_lt := fun h => by cases h
    todo_nil := fun _ _ => inv.todo_nil (by simp [is_closing]) (by simp [is_closing])
    cache_nil := fun _ => inv.cache_nil (.inl is_closing)
    finished_closed := fun _ => rfl
    results_nil := fun _ => inv.results_nil (by simp [is_closing])
    returned := fun h => by cases h
    count := by
      show s.results.length + s.closesLeft + 1 = closes
      simpa [is_closing, CallerAt.inClose] using inv.count }

theorem Inv.receiveResult (inv : Inv cap rs closes s) (is_awaiting : s.caller = .awaiting)
    (is_finished : s.drain = .finished) :
    Inv cap rs closes { s with caller := .returned, results := s.results ++ [s.err] } := by
  have hnil := inv.results_nil (by simp [is_awaiting])
  refine { inv with
    cache_lt := fun h => by cases h
    todo_nil := fun _ _ => inv.todo_nil (by simp [is_awaiting]) (by simp [is_awaiting])
    cache_nil := fun _ => inv.cache_nil (.inr (by simp [is_awaiting, CallerAt.channelClosed]))
    finished_closed := fun _ => rfl
    results_nil := fun h => absurd rfl h
    returned := fun _ => ⟨is_finished, 0, by simp [hnil]⟩
    count := ?_ }
  show (s.results ++ [s.err]).length + s.closesLeft + 0 = closes
  have := inv.count
  simp only [is_awaiting, hnil, CallerAt.inClose, List.length_nil] at this
  simp [hnil]
  omega

theorem Inv.writeRecord (inv : Inv cap rs closes s) {r : Record} {rest : List Record}
    (f : Option Fault) (is_writing : s.drain = .writing (r :: rest)) (no_fault : s.err = none) :
    Inv cap rs closes
      { s with drain := .writing rest, err := f, writes := s.writes ++ [(r, f)] } := by
  have hnotfin : s.drain ≠ .finished := by simp [is_writing]
  have hclosings := inv.closings_nil hnotfin
  have hok : firstFault (s.writes.map Prod.snd) = none := (inv.err_of_writing hnotfin) ▸ no_fault
  have hdropped : s.dropped = [] := by
    by_contra h
    exact inv.dropped_fault h hok
  refine { inv with
    conserve := ?_
    err_eq := by simp [outcomes, hclosings, hok]
    stops := fun w hw => ?_
    dropped_fault := fun h => absurd hdropped h
    closings_nil := fun _ => hclosings
    closings_three := fun h => by cases h
    finished_closed := fun h => by cases h
    returned := fun h => absurd h (inv.not_returned hnotfin) }
  · have := inv.conserve
    simp only [is_writing, hdropped, DrainAt.batch] at this ⊢
    simpa using this
  · rw [List.dropLast_concat] at hw
    exact firstFault_eq_none.1 hok w.2 (List.mem_map_of_mem hw)

theorem Inv.dropBatch (inv : Inv cap rs closes s) {r : Record} {rest : List Record} {e : Fault}
    (is_writing : s.drain = .writing (r :: rest)) (has_fault : s.err = some e) :
    Inv cap rs closes { s with drain := .receiving, dropped := s.dropped ++ r :: rest } := by
  have hnotfin : s.drain ≠ .finished := by simp [is_writing]
  refine { inv with
    conserve := ?_
    dropped_fault := fun _ => by simp [← inv.err_of_writing hnotfin, has_fault]
    closings_nil := fun _ => inv.closings_nil hnotfin
    closings_three := fun h => by cases h
    finished_closed := fun h => by cases h
    returned := fun h => absurd h (inv.not_returned hnotfin) }
  have := inv.conserve
  simp only [is_writing, DrainAt.batch] at this ⊢
  simpa using this

theorem Inv.endBatch (inv : Inv cap rs closes s) (is_writing : s.drain = .writing []) :
    Inv cap rs closes { s with drain := .receiving } := by
  have hnotfin : s.drain ≠ .finished := by simp [is_writing]
  exact { inv with
    conserve := by simpa [is_writing, DrainAt.batch] using inv.conserve
    closings_nil := fun _ => inv.closings_nil hnotfin
    closings_three := fun h => by cases h
    finished_closed := fun h => by cases h
    returned := fun h => absurd h (inv.not_returned hnotfin) }

/-- The drain's closing operations put their outcomes after the writes', and its fault stays
the first of them all. -/
theorem Inv.finish (inv : Inv cap rs closes s) (fb fg ff : Option Fault)
    (is_receiving : s.drain = .receiving) (channel_closed : s.caller.channelClosed = true) :
    Inv cap rs closes { s with
      drain := .finished, err := ((s.err.or fb).or fg).or ff, closings := [fb, fg, ff] } := by
  have hnotfin : s.drain ≠ .finished := by simp [is_receiving]
  exact { inv with
    conserve := by simpa [is_receiving, DrainAt.batch] using inv.conserve
    err_eq := by simp [outcomes, inv.err_of_writing hnotfin, Option.or_assoc]
    closings_nil := fun h => absurd rfl h
    closings_three := fun _ => ⟨fb, fg, ff, rfl⟩
    finished_closed := fun _ => channel_closed
    returned := fun h => absurd h (inv.not_returned hnotfin) }

theorem Inv.step (inv : Inv cap rs closes s) (hcap : 0 < cap) {s' : BatchWriter}
    (st : Step cap s s') : Inv cap rs closes s' := by
  cases st with
  | write is_ready is_next =>
    refine inv.write is_ready is_next ?_
    split
    · exact .inl rfl
    · exact .inr ⟨rfl, by have := inv.cache_lt is_ready; simp at *; omega⟩
  | close is_ready all_written is_next => exact inv.close is_ready all_written is_next
  | closeAgain is_returned is_next => exact inv.closeAgain is_returned is_next
  | flushEmpty is_flushing is_empty => exact inv.flushEmpty hcap is_flushing is_empty
  | handOff is_flushing _ is_receiving =>
    exact (inv.takeBatch is_flushing is_receiving).flushEmpty hcap is_flushing rfl
  | closeChannel is_closing => exact inv.closeChannel is_closing
  | receiveResult is_awaiting is_finished => exact inv.receiveResult is_awaiting is_finished
  | writeRecord f is_writing no_fault => exact inv.writeRecord f is_writing no_fault
  | dropBatch is_writing has_fault => exact inv.dropBatch is_writing has_fault
  | endBatch is_writing => exact inv.endBatch is_writing
  | finish fb fg ff is_receiving channel_closed =>
    exact inv.finish fb fg ff is_receiving channel_closed

theorem Reachable.inv (hcap : 0 < cap) (h : Reachable cap rs closes s) : Inv cap rs closes s := by
  induction h with
  | refl => exact Inv.initial hcap
  | tail _ st ih => exact ih.step hcap st

/-! ## Every run ends, and only once the caller is done -/

end BatchWriter

/-- The weight of the caller's place, more than that of each place it moves to without a call. -/
def CallerAt.weight : CallerAt → Nat
  | .ready | .returned => 0
  | .flushing false | .awaiting => 1
  | .closingChannel => 2
  | .flushing true => 3

/-- The weight of the drain's place: a batch weighs more the more records it has left. -/
def DrainAt.weight : DrainAt → Nat
  | .receiving => 4
  | .writing b => 5 + 2 * b.length
  | .finished => 0

namespace BatchWriter

/-- What is left of a run: a call still to make outweighs any places the threads pass through
for it, a record weighs more the further it has to go, and each place weighs more than the
places it moves to. -/
def potential (s : BatchWriter) : Nat :=
  10 * s.closesLeft + 10 * s.todo.length + 6 * s.cache.length + s.caller.weight + s.drain.weight

variable {cap : Nat} {rs : List Record} {closes : Nat} {s : BatchWriter}

/-- Every step takes some of the potential away. -/
theorem potential_lt {s s' : BatchWriter} (st : Step cap s s') : potential s' < potential s := by
  cases st with
  | write is_ready is_next =>
    simp only [potential, is_ready, is_next, List.length_append, List.length_cons]
    split <;> simp [CallerAt.weight] <;> omega
  | close is_ready _ is_next => simp [potential, is_ready, is_next, CallerAt.weight]; omega
  | closeAgain _ is_next => simp [potential, is_next]
  | flushEmpty is_flushing is_empty =>
    rename_i closing
    cases closing <;> simp [potential, is_flushing, CallerAt.weight]
  | handOff is_flushing is_full is_receiving =>
    rename_i closing
    -- the batch weighs less in the drain than it did in the cache
    have hpos := List.length_pos_of_ne_nil is_full
    cases closing <;> simp [potential, is_flushing, is_receiving, CallerAt.weight,
      DrainAt.weight] <;> omega
  | closeChannel is_closing => simp [potential, is_closing, CallerAt.weight]
  | receiveResult is_awaiting is_finished =>
    simp [potential, is_awaiting, is_finished, CallerAt.weight]
  | writeRecord f is_writing _ => simp [potential, is_writing, DrainAt.weight]
  | dropBatch is_writing _ => simp [potential, is_writing, DrainAt.weight]; omega
  | endBatch is_writing => simp [potential, is_writing, DrainAt.weight]
  | finish fb fg ff is_receiving _ => simp [potential, is_receiving, DrainAt.weight]

theorem step_wellFounded (cap : Nat) : WellFounded fun s' s => Step cap s s' :=
  Subrelation.wf (fun st => potential_lt st) (measure potential).wf

theorem exists_step_of_writing {b : List Record} (h : s.drain = .writing b) :
    ∃ s', Step cap s s' := by
  cases b with
  | nil => exact ⟨_, .endBatch h⟩
  | cons r rest =>
    cases he : s.err with
    | none => exact ⟨_, .writeRecord none h he⟩
    | some e => exact ⟨_, .dropBatch h he⟩

/-- Until the caller is done, some step is possible: a flush blocked on the hand-off waits for
a drain that can move, and a close waiting for the result waits for a drain that can finish. -/
theorem Inv.progress (inv : Inv cap rs closes s) (hnd : ¬ s.CallerDone) :
    ∃ s', Step cap s s' := by
  cases hc : s.caller with
  | ready =>
    cases ht : s.todo with
    | cons r rest => exact ⟨_, .write hc ht⟩
    | nil =>
      cases hk : s.closesLeft with
      | succ k => exact ⟨_, .close hc ht hk⟩
      | zero => exact absurd ⟨ht, hk, .inl hc⟩ hnd
  | flushing closing =>
    by_cases he : s.cache = []
    · exact ⟨_, .flushEmpty hc he⟩
    · cases hd : s.drain with
      | receiving => exact ⟨_, .handOff hc he hd⟩
      | writing b => exact exists_step_of_writing hd
      | finished =>
        have := inv.finished_closed hd
        simp [hc, CallerAt.channelClosed] at this
  | closingChannel => exact ⟨_, .closeChannel hc⟩
  | awaiting =>
    cases hd : s.drain with
    | receiving =>
      exact ⟨_, .finish none none none hd (by simp [hc, CallerAt.channelClosed])⟩
    | writing b => exact exists_step_of_writing hd
    | finished => exact ⟨_, .receiveResult hc hd⟩
  | returned =>
    cases hk : s.closesLeft with
    | succ k => exact ⟨_, .closeAgain hc hk⟩
    | zero => exact absurd ⟨inv.todo_nil (by simp [hc]) (by simp [hc]), hk, .inr hc⟩ hnd

theorem Reachable.finishes (hcap : 0 < cap) (h : Reachable cap rs closes s) :
    ∃ t, Relation.ReflTransGen (Step cap) s t ∧ t.CallerDone := by
  induction s using (step_wellFounded cap).induction with
  | h s ih =>
    by_cases hd : s.CallerDone
    · exact ⟨s, .refl, hd⟩
    · obtain ⟨s', st⟩ := (h.inv hcap).progress hd
      obtain ⟨t, hrun, ht⟩ := ih s' st (h.tail st)
      exact ⟨t, .head st hrun, ht⟩

/-! ## What the caller and the stream see at the end -/

theorem Inv.returned_of_done (inv : Inv cap rs closes s) (hk : 0 < closes)
    (hd : s.CallerDone) : s.caller = .returned := by
  obtain ⟨-, hcl, hc | hc⟩ := hd
  · -- before the first close returns there are no results, so no close was made at all
    have := inv.count
    rw [inv.results_nil (by simp [hc]), hcl, hc] at this
    simp [CallerAt.inClose] at this
    omega
  · exact hc

/-- After the first close returned, the drain has handed the records over in order, one write
each, up to the first failing write. -/
theorem Inv.handed (inv : Inv cap rs closes s) (hr : s.caller = .returned) :
    Handed rs s.writes := by
  have hfin := (inv.returned hr).1
  have hcache := inv.cache_nil (.inr (by simp [hr, CallerAt.channelClosed]))
  have htodo := inv.todo_nil (by simp [hr]) (by simp [hr])
  have hrs := inv.conserve
  simp only [hfin, hcache, htodo, DrainAt.batch, List.append_nil] at hrs
  exact handed_of_log hrs inv.stops inv.dropped_fault

/-- The first close returns the first fault of the stream, and every later one none. -/
theorem Inv.results_eq (inv : Inv cap rs closes s) (hk : 0 < closes) (hd : s.CallerDone) :
    s.results = firstFault s.outcomes :: List.replicate (closes - 1) none := by
  have hr := inv.returned_of_done hk hd
  obtain ⟨-, j, hres⟩ := inv.returned hr
  have hcount := inv.count
  rw [hres, hd.2.1, hr] at hcount
  simp [CallerAt.inClose] at hcount
  rw [hres, inv.err_eq, ← hcount]
  simp

/-- With no fault, the stream receives the text a record writer collects from the records. -/
theorem Inv.text_of_no_fault (inv : Inv cap rs closes s) (hr : s.caller = .returned)
    (hok : firstFault s.outcomes = none) (path : Bytes) :
    s.text = (rs.foldl RecordWriter.write ⟨path, [], false⟩).text := by
  have hwrites : ∀ w ∈ s.writes, w.2 = none := fun w hw => by
    refine firstFault_eq_none.1 hok w.2 ?_
    simp only [outcomes, List.mem_append, List.mem_map]
    exact .inl ⟨w, hw, rfl⟩
  rw [RecordWriter.text_foldl, ← (inv.handed hr).map_fst hwrites]
  simp [text, RecordWriter.text, Function.comp_def]

/-- After the first close returned, the only step is a later close: it returns none and
changes nothing else. -/
theorem Inv.step_of_returned (inv : Inv cap rs closes s) (hr : s.caller = .returned)
    {s' : BatchWriter} (st : Step cap s s') :
    ∃ k, s.closesLeft = k + 1 ∧
      s' = { s with closesLeft := k, results := s.results ++ [none] } := by
  have hfin := (inv.returned hr).1
  cases st with
  | closeAgain _ is_next => exact ⟨_, is_next, rfl⟩
  | write is_ready => simp [hr] at is_ready
  | close is_ready => simp [hr] at is_ready
  | flushEmpty is_flushing => simp [hr] at is_flushing
  | handOff is_flushing => simp [hr] at is_flushing
  | closeChannel is_closing => simp [hr] at is_closing
  | receiveResult is_awaiting => simp [hr] at is_awaiting
  | writeRecord f is_writing => simp [hfin] at is_writing
  | dropBatch is_writing => simp [hfin] at is_writing
  | endBatch is_writing => simp [hfin] at is_writing
  | finish fb fg ff is_receiving => simp [hfin] at is_receiving

/-! ## Every interleaving -/

theorem capacity_pos (size : Int) : 0 < capacity size := by
  unfold capacity
  split <;> omega

/-- What every interleaving does of a writer with a cache of `size` records, whose caller writes
`rs` and then closes `closes` times, whatever faults its stream meets. -/
structure WriterRuns (size : Int) (rs : List Record) (closes : Nat) : Prop where
  /-- Sizes below one act as one. -/
  capacity_eq : (capacity size : Int) = max size 1
  /-- Between calls the cache holds fewer records than its capacity, and none once the first
  close has returned. -/
  cacheBelow : ∀ s, Reachable (capacity size) rs closes s →
    (s.caller = .ready → s.cache.length < capacity size) ∧ (s.caller = .returned → s.cache = [])
  /-- No run is infinite. -/
  terminates : WellFounded fun s' s => Step (capacity size) s s'
  /-- A run stops only once the caller has made all its calls: no flush and no close blocks. -/
  noDeadlock : ∀ s, Reachable (capacity size) rs closes s →
    (∀ s', ¬ Step (capacity size) s s') → s.CallerDone
  /-- Every run can go on until the caller is done. -/
  finishes : ∀ s, Reachable (capacity size) rs closes s →
    ∃ t, Relation.ReflTransGen (Step (capacity size)) s t ∧ t.CallerDone
  /-- Once the caller is done, the records were handed over in order, one write each, up to the
  first failing write; the buffer was flushed and the gzip stream and the file closed; the first
  close returned the first fault of all these, and every later close none. -/
  outcome : ∀ s, Reachable (capacity size) rs closes s → s.CallerDone → 0 < closes →
    Handed rs s.writes ∧ (∃ fb fg ff, s.closings = [fb, fg, ff]) ∧
      s.results = firstFault s.outcomes :: List.replicate (closes - 1) none
  /-- With no fault, the stream received the text a record writer collects from the records. -/
  text : ∀ s path, Reachable (capacity size) rs closes s → s.CallerDone → 0 < closes →
    firstFault s.outcomes = none →
      s.text = (rs.foldl RecordWriter.write ⟨path, [], false⟩).text
  /-- After the first close returned, a step is a later close, which returns none and changes
  nothing else. -/
  laterClose : ∀ s s', Reachable (capacity size) rs closes s → s.caller = .returned →
    Step (capacity size) s s' →
      ∃ k, s.closesLeft = k + 1 ∧
        s' = { s with closesLeft := k, results := s.results ++ [none] }

/-- Every interleaving of a batching writer, for every cache size and every pattern of faults,
hands each record to the stream once and in order, and never blocks its caller. -/
theorem writerRuns (size : Int) (rs : List Record) (closes : Nat) :
    WriterRuns size rs closes := by
  have hcap := capacity_pos size
  refine ⟨?_, fun s h => ⟨(h.inv hcap).cache_lt, fun hr => (h.inv hcap).cache_nil
      (.inr (by rw [hr]; rfl))⟩, step_wellFounded _,
    fun s h hstuck => ?_, fun s h => h.finishes hcap, fun s h hd hk => ?_,
    fun s path h hd hk hok => ?_, fun s s' h hr st => (h.inv hcap).step_of_returned hr st⟩
  · unfold capacity
    split <;> omega
  · by_contra hnd
    obtain ⟨s', st⟩ := (h.inv hcap).progress hnd
    exact hstuck s' st
  · have inv := h.inv hcap
    have hr := inv.returned_of_done hk hd
    exact ⟨inv.handed hr, inv.closings_three (inv.returned hr).1, inv.results_eq hk hd⟩
  · have inv := h.inv hcap
    exact inv.text_of_no_fault (inv.returned_of_done hk hd) hok path

end BatchWriter

end FastqFixtures.Fastq
