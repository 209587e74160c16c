import FontSubset.Environment
import FontSubset.Files.Place
/-! A process from outside: what it is started with, and what it does before it ends.
Time passes only where a process waits. -/
namespace FontSubset

inductive Stream
  | stdout
  | stderr
  deriving DecidableEq, Repr

inductive Ending
  | exited (code : Nat)
  | killed (signal : Nat)
  | overtime
  deriving DecidableEq, Repr

/-- What is started: a program's name with its arguments, what it can read, and the milliseconds
after which it is stopped. -/
structure Task where
  files : Files
  environment : Environment
  words : List Bytes
  limit : Option Nat
  input : Bytes

structure Performance where
  files : Files
  output : List (Stream × Bytes)
  elapsed : Nat
  ending : Ending

namespace Performance

def written (performance : Performance) (stream : Stream) : Bytes :=
  performance.output.flatMap fun (s, bytes) => if s = stream then bytes else []

end Performance

namespace Task

def isOver (limit : Option Nat) (elapsed : Nat) : Bool := limit.any (· ≤ elapsed)

def finish (task : Task) (code : Nat) (output : List (Stream × Bytes)) : Performance :=
  ⟨task.files, output, 0, .exited code⟩

def sleep (task : Task) (milliseconds : Nat) : Performance :=
  if isOver task.limit milliseconds then ⟨task.files, [], task.limit.getD 0, .overtime⟩
  else ⟨task.files, [], milliseconds, .exited 0⟩

end Task
end FontSubset
