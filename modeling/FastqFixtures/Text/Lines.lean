import FastqFixtures.Bytes

/-!
# Lines

A byte stream is cut into lines at each newline; a carriage return just before the newline
(or at the very end) is dropped, and a last piece without newline is a line when it is not
empty. A reader holds at most `limit` bytes at once, so a line of `limit` bytes or more
(counting its carriage return but not its newline) stops the cutting: the lines before it
are delivered, and the stop is reported.

* `LineStop` — how cutting ended.
* `cutLines` — the lines of a stream and how the cutting ended.
-/

namespace FastqFixtures.Text

set_option autoImplicit false

/-- How cutting a stream into lines ended. -/
inductive LineStop where
  | complete
  | tooLong
  deriving DecidableEq, Repr

/-- A line without its final carriage return. -/
def dropReturn (line : Bytes) : Bytes :=
  match line.getLast? with
  | some 13 => line.dropLast
  | _ => line

/-- Cuts `bs` into lines; `done` holds the lines already cut, reversed, `cur` the line being
read, reversed, and `n` its length. -/
def cutFrom (limit : Nat) (done : List Bytes) (cur : Bytes) (n : Nat) :
    Bytes → List Bytes × LineStop
  | [] =>
    if cur.isEmpty then (done.reverse, .complete)
    else (((dropReturn cur.reverse) :: done).reverse, .complete)
  | b :: bs =>
    if b == 10 then cutFrom limit (dropReturn cur.reverse :: done) [] 0 bs
    else if n + 1 ≥ limit then (done.reverse, .tooLong)
    else cutFrom limit done (b :: cur) (n + 1) bs

/-- The lines of a stream read with a `limit`-byte buffer, and how cutting ended. -/
def cutLines (limit : Nat) (bs : Bytes) : List Bytes × LineStop := cutFrom limit [] [] 0 bs

end FastqFixtures.Text
