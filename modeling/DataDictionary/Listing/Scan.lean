import DataDictionary.Listing

/-!
# Scans of a listing

A listing is read by many threads at once. They share the cursor, which a call moves on in one
step as it begins; what it then writes goes to a chunk of its own. A thread begins a call where its
last one has ended. Which thread acts next is up to a schedule.
-/

namespace DataDictionary.Listing

abbrev Thread : Type := Nat

structure Scan where
  /-- What the threads share. -/
  cursor : Cursor := {}
  /-- The calls in the order in which they moved the cursor, each with its thread. -/
  calls : List (Thread × Call) := []
deriving DecidableEq, Repr

namespace Scan

/-- The thread has something left to write. -/
def isBusy (scan : Scan) (thread : Thread) : Bool :=
  scan.calls.any fun (owner, call) => owner == thread && !call.isDone

/-- A thread goes on with its call, or begins one. -/
def step (rows : List Row) (scan : Scan) (thread : Thread) : Scan :=
  if scan.isBusy thread then
    { scan with calls := scan.calls.map fun (owner, call) =>
        (owner, if owner == thread then call.step rows else call) }
  else
    { cursor := scan.cursor.advance
      calls := scan.calls ++ [(thread, .start rows scan.cursor.next)] }

/-- Threads go on one after the other. -/
def resume (rows : List Row) (scan : Scan) (schedule : List Thread) : Scan :=
  schedule.foldl (step rows) scan

/-- The scan of a listing from its beginning. -/
def run (rows : List Row) (schedule : List Thread) : Scan := resume rows {} schedule

end Scan

end DataDictionary.Listing
