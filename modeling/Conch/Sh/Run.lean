import Conch.Sh.Fields
/-!
Running commands: how a command ends, and the operations on the shell and its world that the
commands share.

A command either goes on to the next one or ends in a flow: leaving loops, continuing an outer
loop, returning from a function, ending the shell (the status is the shell's last status), an
error (the status is 2 unless set otherwise), or a stall. A stall means the run stopped because a
pipe was full or empty while the program at its other end had not run yet; the run that
meets a stall is given up, and whoever ran the two ends runs them again with what they have
learned. An error in a regular builtin ends only that builtin; other errors end the shell.

Runs take place in a monad over the shell's state and the world; a flow keeps the state and
the world as they were when it was raised, so messages already written stay written.
-/

namespace Conch.Sh

/-- Why a run stopped before its end. -/
inductive Stall
  /-- A pipe had no room for a write: the program reading it has to run first. -/
  | full (stream : Nat)
  /-- A pipe was empty while its writer may still write: the writer has to run further. -/
  | dry (stream : Nat)
  /-- The run took more steps than it was given. -/
  | fuel
  deriving DecidableEq, Repr

/-- How a command ends when it does not go on to the next one. -/
inductive Flow
  /-- `break n`: leave `n` enclosing loops. -/
  | breakLoops (n : Nat)
  /-- `continue n`: leave `n - 1` loops and continue the next one. -/
  | continueLoops (n : Nat)
  /-- `return`: leave the function or sourced file. -/
  | ret
  /-- The shell ends with its last status. -/
  | exit
  /-- An error; the shell ends unless a regular builtin raised it. -/
  | fail
  /-- The run stopped at a pipe. -/
  | stall (s : Stall)
  deriving DecidableEq, Repr

/-- A background command that has been started but has not run yet: its process number, the
state of the shell when it was started, and the command. -/
structure Job where
  pid : Nat
  state : State
  body : Cmd

/-- A shell and its world. -/
structure Machine where
  sh : State
  world : World
  /-- The next number for a region of an unquoted expansion. -/
  regions : Nat
  /-- The status of the last command substitution, which a command made of assignments alone
  takes as its own. -/
  back : Nat
  /-- The background commands that have not run yet, oldest first. The shell goes on with its
  own commands until it starts a process or waits; they run then, or when the shell ends. -/
  pending : List Job := []

/-- Runs of the shell. -/
abbrev M := ExceptT Flow (StateM Machine)

namespace M

/-- The shell's state. -/
def shell : M State := return (← get).sh

/-- Replaces the shell's state. -/
def setShell (s : State) : M Unit := modify fun c => { c with sh := s }

/-- Changes the shell's state. -/
def modShell (f : State → State) : M Unit := modify fun c => { c with sh := f c.sh }

/-- The world. -/
def world : M World := return (← get).world

/-- Changes the world. -/
def modWorld (f : World → World) : M Unit := modify fun c => { c with world := f c.world }

/-- Sets the last status. -/
def setStatus (n : Nat) : M Unit := modShell fun s => { s with status := n }

/-- The last status. -/
def status : M Nat := return (← shell).status

/-- A fresh region number. -/
def freshRegion : M Nat := do
  let c ← get
  set { c with regions := c.regions + 1 }
  return c.regions

/-- Writes bytes to a descriptor. Returns false when the descriptor is not open. A full pipe
stalls the run; a pipe whose reader has gone kills the shell, as the signal for it does. -/
def emit (fd : Nat) (bytes : Bytes) : M Bool := do
  match (← shell).stream? fd with
  | none => return false
  | some id =>
    match (← world).put id bytes with
    | .done w => modWorld fun _ => w; return true
    | .full => throw (.stall (.full id))
    | .broken => setStatus 141; throw .exit

/-- Writes a message to descriptor 2, after the shell's name, the line and the builtin that
runs. -/
def complain (msg : Bytes) : M Unit := do
  let s ← shell
  let _ ← emit 2 (s.msgHead ++ msg ++ [10])

/-- Reports an error: the message, status 2 and the error flow. -/
def fail {α : Type} (msg : String) : M α := do
  complain (utf8 msg)
  setStatus 2
  throw .fail

/-- Reports an error about bytes of the script, such as a name: the message is `text: msg`. -/
def failAbout {α : Type} (text : Bytes) (msg : String) : M α := do
  complain (text ++ utf8 (": " ++ msg))
  setStatus 2
  throw .fail

/-- Reads a line from a descriptor: the bytes before the next line feed and whether a line
feed ended them; nothing when the descriptor is not open. A pipe that is empty while its writer
may still write stalls the run. -/
def readLine (fd : Nat) : M (Option (Bytes × Bool)) := do
  match (← shell).stream? fd with
  | none => return none
  | some id =>
    let (avail, more) := (← world).available id
    let line := avail.takeWhile (· != 10)
    if line.length < avail.length then
      modWorld fun w => w.consume id (line.length + 1)
      return some (line, true)
    else if more then throw (.stall (.dry id))
    else
      modWorld fun w => w.consume id line.length
      return some (line, false)

/-- Reads all a descriptor holds, once the writer of a pipe has finished; nothing when the
descriptor is not open. -/
def readAll (fd : Nat) : M Bytes := do
  match (← shell).stream? fd with
  | none => return []
  | some id =>
    let (avail, more) := (← world).available id
    if more then throw (.stall (.dry id))
    modWorld fun w => w.consume id avail.length
    return avail

/-- Runs `m` and gives back its flow instead of raising it. -/
def attempt {α : Type} (m : M α) : M (Except Flow α) := fun c =>
  match m c with
  | (r, c) => (.ok r, c)

/-- Runs `m` with the shell's state as it is, and puts the state back afterwards: the world
keeps what `m` did. Returns the state `m` ended with and its flow. -/
def isolated {α : Type} (m : M α) : M (State × Except Flow α) := do
  let saved ← shell
  let r ← attempt m
  let after ← shell
  setShell saved
  return (after, r)

/-- Raises a stall again; any other flow is left to the caller. -/
def passStall {α : Type} (r : Except Flow α) : M Unit :=
  match r with
  | .error (.stall s) => throw (.stall s)
  | _ => pure ()

/-- Raises a flow again, or gives back the value. -/
def rethrow {α : Type} (r : Except Flow α) : M α :=
  match r with
  | .error f => throw f
  | .ok a => pure a

/-- How many bytes a pipe holds before its writer waits. -/
def pipeSize : Nat := Pipe.capacity

/-- Opens a pipe with room for `room` bytes, whose reader has gone when `gone` holds. -/
def openPipe (room : Nat) (gone : Bool) : M Nat := do
  let (w, id) := (← world).attach (.pipe { Pipe.empty with room := some room, readerGone := gone })
  modWorld fun _ => w
  return id

/-- Runs `writer` with its output into a new pipe and then `reader` with its input from it;
both are given the pipe's number. The two run one after the other, so when the writer fills the
pipe, the run goes back to where it started: if the reader, run on what the writer wrote so far,
needs more, the writer is given twice the room; if the reader ends after reading `k` bytes, the
writer is given room for `k` bytes more than the pipe holds, with the reader gone, so that a
writer that writes beyond is killed. Each retry costs one unit of `tries`. -/
def piped (writer reader : Nat → M Unit) : Nat → Nat → Bool → M Unit
  | 0, _, _ => throw (.stall .fuel)
  | tries + 1, room, gone => do
    let saved ← get
    let pid ← openPipe room gone
    match ← attempt (writer pid) with
    | .error (.stall (.full id)) =>
      if id != pid then throw (.stall (.full id))
      else
        let before := ((← world).available pid).1.length
        match ← attempt (reader pid) with
        | .error (.stall (.dry id)) =>
          if id != pid then throw (.stall (.dry id))
          else
            set saved
            piped writer reader tries (2 * room) false
        | .error (.stall s) => throw (.stall s)
        | _ =>
          let left := ((← world).available pid).1.length
          set saved
          piped writer reader tries (before - left + pipeSize) true
    | .error (.stall s) => throw (.stall s)
    | _ =>
      modWorld fun w => w.closePipe pid
      reader pid

end M

end Conch.Sh
