/-!
# Locks

A lock is held by one task at a time and is handed on in the order in which tasks asked for it. A
task that has asked and holds the lock may go on; one that is dropped gives up its place.
-/

namespace Courier

/-- Who holds a lock and who waits for it, the first to get it first. -/
structure Lock where
  holder : Option Nat
  waiting : List Nat
deriving DecidableEq, Repr

namespace Lock

def free : Lock := ⟨none, []⟩

instance : Inhabited Lock := ⟨free⟩

def isHeldBy (l : Lock) (task : Nat) : Bool :=
  l.holder == some task

/-- Asks for the lock: the task gets it at once if it is free, and waits behind the others if not. -/
def request (l : Lock) (task : Nat) : Lock :=
  match l.holder with
  | none => { l with holder := some task }
  | some _ => { l with waiting := l.waiting ++ [task] }

/-- Hands the lock to the first task that waits for it. -/
def release (l : Lock) : Lock :=
  match l.waiting with
  | [] => free
  | task :: rest => ⟨some task, rest⟩

/-- Gives up the lock or the place in the queue for it. -/
def leave (l : Lock) (task : Nat) : Lock :=
  if l.isHeldBy task then l.release else { l with waiting := l.waiting.erase task }

end Lock

end Courier
