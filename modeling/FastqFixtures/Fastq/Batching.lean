import Mathlib.Logic.Relation
import FastqFixtures.Fastq.Record

/-!
# The batching record writer

A record writer does not write records as they come. It caches them, and each time the cache is
full it hands the batch over an unbuffered channel to a background drain, which writes batches
to a buffered gzip stream one record at a time. Closing hands over the last partial batch, closes
the channel and waits for the drain's result, sent on a channel of one slot once the drain has
flushed the buffer and closed the gzip stream and the file. After the first failing write the
drain keeps receiving batches but writes no more records, so the caller is never left blocked.

This module states that protocol as a transition system of two threads. A step is one thread's
move, or the hand-off in which both move at once, so a run is any interleaving of the two. Each
operation on the stream may fail or not: the drain's steps choose the outcome, and the runs cover
every pattern of I/O faults. The theory is in `Proofs/BatchedWriter`: every run ends with all the
caller's calls made, and the stream receives the same text as `RecordWriter` collects.

* `CallerAt`, `DrainAt`, `BatchWriter` — the two threads and what they share.
* `BatchWriter.Step` — one move; `BatchWriter.Reachable` — any run from `BatchWriter.start`.
* `firstFault`, `Handed` — the first of a list of outcomes, and what handing records in order
  to a stream that may fail means.
-/

namespace FastqFixtures.Fastq

set_option autoImplicit false

/-- The first fault of a list of outcomes, in order. -/
def firstFault (os : List (Option Fault)) : Option Fault :=
  os.foldr Option.or none

@[simp] theorem firstFault_nil : firstFault [] = none := rfl

@[simp] theorem firstFault_cons (o : Option Fault) (os : List (Option Fault)) :
    firstFault (o :: os) = o.or (firstFault os) := rfl

@[simp] theorem firstFault_append (os os' : List (Option Fault)) :
    firstFault (os ++ os') = (firstFault os).or (firstFault os') := by
  induction os with
  | nil => simp
  | cons o os ih => simp [ih, Option.or_assoc]

theorem firstFault_eq_none {os : List (Option Fault)} :
    firstFault os = none ↔ ∀ o ∈ os, o = none := by
  induction os with
  | nil => simp
  | cons o os ih => cases o <;> simp [ih]

/-- `ws` hands the records `rs` to a stream in order, one write each, and stops after the first
write that fails: the records after it are never written. -/
inductive Handed : List Record → List (Record × Option Fault) → Prop
  | done : Handed [] []
  | written {r : Record} {rs : List Record} {ws : List (Record × Option Fault)} :
      Handed rs ws → Handed (r :: rs) ((r, none) :: ws)
  | failed {r : Record} {f : Fault} (rs : List Record) : Handed (r :: rs) [(r, some f)]

/-- Where the caller is. `flushing closing` is inside `Flush`, called from `Close` when `closing`
holds and from `Write` otherwise; while the cache holds records it waits there for the drain to
take them. -/
inductive CallerAt
  /-- Between calls, before the first `Close`. -/
  | ready
  | flushing (closing : Bool)
  /-- In the first `Close`, after its flush: the channel is closed next. -/
  | closingChannel
  /-- In the first `Close`, with the channel closed, waiting for the drain's result. -/
  | awaiting
  /-- Between calls, after the first `Close` returned. -/
  | returned
  deriving DecidableEq, Repr

/-- The caller has closed the channel of batches. -/
def CallerAt.channelClosed : CallerAt → Bool
  | .awaiting | .returned => true
  | _ => false

/-- Where the drain is: waiting for a batch, writing the rest of one, or done, its result sent. -/
inductive DrainAt
  | receiving
  | writing (batch : List Record)
  | finished
  deriving DecidableEq, Repr

/-- The records of the batch the drain holds. -/
def DrainAt.batch : DrainAt → List Record
  | .writing b => b
  | _ => []

/-- A batching writer in the middle of a run: the caller's calls still to make, its cache and
the results of its closes so far, and the drain's first fault and what it did to the stream. -/
structure BatchWriter where
  /-- The records the caller still has to write. -/
  todo : List Record
  /-- The `Close` calls the caller still has to make, after its writes. -/
  closesLeft : Nat
  cache : List Record
  caller : CallerAt
  /-- What each `Close` returned, in order. -/
  results : List (Option Fault)
  drain : DrainAt
  /-- The drain's first fault so far. -/
  err : Option Fault
  /-- Each record handed to the stream, with the outcome of its write. -/
  writes : List (Record × Option Fault)
  /-- The outcomes of flushing the buffer, closing the gzip stream and closing the file. -/
  closings : List (Option Fault)
  /-- The records the drain received after its first fault, which it did not write. -/
  dropped : List Record

namespace BatchWriter

/-- A fresh writer whose caller writes `rs` and then closes `closes` times. -/
def start (rs : List Record) (closes : Nat) : BatchWriter :=
  ⟨rs, closes, [], .ready, [], .receiving, none, [], [], []⟩

/-- The cache's capacity for a requested size: sizes below one act as one. -/
def capacity (size : Int) : Nat := if size < 1 then 1 else size.toNat

/-- Every outcome of the stream's operations, in order. -/
def outcomes (s : BatchWriter) : List (Option Fault) := s.writes.map Prod.snd ++ s.closings

/-- The text handed to the stream: the records written, each in its format. -/
def text (s : BatchWriter) : Bytes := (s.writes.map fun w => w.1.format).flatten

/-- The caller has made all its calls and is between calls. -/
def CallerDone (s : BatchWriter) : Prop :=
  s.todo = [] ∧ s.closesLeft = 0 ∧ (s.caller = .ready ∨ s.caller = .returned)

/-- One move of a batching writer whose cache holds `cap` records. -/
inductive Step (cap : Nat) : BatchWriter → BatchWriter → Prop
  /-- `Write` caches a record, and starts a flush when that fills the cache. -/
  | write {s : BatchWriter} {r : Record} {rest : List Record}
      (is_ready : s.caller = .ready) (is_next : s.todo = r :: rest) :
      Step cap s { s with
        todo := rest
        cache := s.cache ++ [r]
        caller := if (s.cache ++ [r]).length = cap then .flushing false else .ready }
  /-- The first `Close` starts its flush. -/
  | close {s : BatchWriter} {k : Nat}
      (is_ready : s.caller = .ready) (all_written : s.todo = []) (is_next : s.closesLeft = k + 1) :
      Step cap s { s with closesLeft := k, caller := .flushing true }
  /-- A later `Close` returns no fault at once. -/
  | closeAgain {s : BatchWriter} {k : Nat}
      (is_returned : s.caller = .returned) (is_next : s.closesLeft = k + 1) :
      Step cap s { s with closesLeft := k, results := s.results ++ [none] }
  /-- A flush of an empty cache hands nothing over. -/
  | flushEmpty {s : BatchWriter} {closing : Bool}
      (is_flushing : s.caller = .flushing closing) (is_empty : s.cache = []) :
      Step cap s { s with caller := if closing then .closingChannel else .ready }
  /-- The drain receives the cached batch, and the caller starts a fresh cache. -/
  | handOff {s : BatchWriter} {closing : Bool}
      (is_flushing : s.caller = .flushing closing) (is_full : s.cache ≠ [])
      (is_receiving : s.drain = .receiving) :
      Step cap s { s with
        cache := []
        caller := if closing then .closingChannel else .ready
        drain := .writing s.cache }
  | closeChannel {s : BatchWriter} (is_closing : s.caller = .closingChannel) :
      Step cap s { s with caller := .awaiting }
  /-- The first `Close` returns the drain's result. -/
  | receiveResult {s : BatchWriter}
      (is_awaiting : s.caller = .awaiting) (is_finished : s.drain = .finished) :
      Step cap s { s with caller := .returned, results := s.results ++ [s.err] }
  /-- With no fault so far, the drain writes the next record of its batch; `f` is the outcome. -/
  | writeRecord {s : BatchWriter} {r : Record} {rest : List Record} (f : Option Fault)
      (is_writing : s.drain = .writing (r :: rest)) (no_fault : s.err = none) :
      Step cap s { s with
        drain := .writing rest
        err := f
        writes := s.writes ++ [(r, f)] }
  /-- After a fault, the drain drops the rest of its batch unwritten. -/
  | dropBatch {s : BatchWriter} {r : Record} {rest : List Record} {e : Fault}
      (is_writing : s.drain = .writing (r :: rest)) (has_fault : s.err = some e) :
      Step cap s { s with drain := .receiving, dropped := s.dropped ++ r :: rest }
  | endBatch {s : BatchWriter} (is_writing : s.drain = .writing []) :
      Step cap s { s with drain := .receiving }
  /-- Once the channel is closed, the drain flushes the buffer and closes the gzip stream and
  the file, with outcomes `fb`, `fg` and `ff`, and sends its first fault. The three calls touch
  the drain's stream only, while the caller waits, so they are one move. -/
  | finish {s : BatchWriter} (fb fg ff : Option Fault)
      (is_receiving : s.drain = .receiving) (channel_closed : s.caller.channelClosed = true) :
      Step cap s { s with
        drain := .finished
        err := ((s.err.or fb).or fg).or ff
        closings := [fb, fg, ff] }

/-- The states some interleaving reaches from the start of a writer with a cache of `cap`
records, whose caller writes `rs` and closes `closes` times. -/
def Reachable (cap : Nat) (rs : List Record) (closes : Nat) (s : BatchWriter) : Prop :=
  Relation.ReflTransGen (Step cap) (start rs closes) s

end BatchWriter

end FastqFixtures.Fastq
