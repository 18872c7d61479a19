import Conch.Fs.Tree
import Conch.Text.Utf8
/-!
The world programs run in: the file tree, the open streams, what the terminal has shown, and the
programs the shell started and has not waited for.

A stream is opened once and may be shared by several descriptors, so it carries its own position:
a file stream reads and writes at its offset (or always at the end when it appends), a pipe holds
the bytes written to it and not yet read, the null stream reads as empty and swallows writes, and
the terminal stream adds what is written to the screen. Streams are numbered in the order they
were opened; streams 0, 1 and 2 are the shell's own standard input, the terminal it writes to,
and its own error output. The session's lines do not come from that standard input, which holds
nothing for the programs that read it, and what goes to that error output is not shown.

A pipe holds a bounded number of bytes. The programs at its two ends run one after the other
here, so the bound is kept as the room left for the writer: a writer that would need more room
has to wait for the reader, and when the reader has already gone the writer is killed instead.
A reader that finds the pipe empty while a writer may still come has to wait too. Either wait
stops the run of the program that waits; whoever runs the two ends decides what follows.
-/

namespace Conch

/-- A pipe between two programs. -/
structure Pipe where
  /-- Bytes written and not yet read, oldest first. -/
  data : List UInt8
  /-- Chunks written after `data`, newest first. -/
  fresh : List (List UInt8)
  /-- Whether every writer has closed it: reading past the data then finds the end. -/
  closed : Bool
  /-- How many more bytes may be written before the writer waits; no bound when `none`. -/
  room : Option Nat
  /-- Whether the reader has gone, so that a writer who would wait is killed. -/
  readerGone : Bool
  deriving Repr

namespace Pipe

/-- An empty pipe with no bound, still open for writing. -/
def empty : Pipe := ⟨[], [], false, none, false⟩

/-- A pipe holding `data`, closed for writing. -/
def ofData (data : List UInt8) : Pipe := ⟨data, [], true, none, false⟩

/-- How many bytes a pipe holds before its writer waits. -/
def capacity : Nat := 65536

/-- The bytes a pipe holds, oldest first. -/
def contents (p : Pipe) : List UInt8 := p.data ++ (p.fresh.reverse.flatMap id)

/-- The pipe with its chunks joined. -/
def settle (p : Pipe) : Pipe :=
  match p.fresh with
  | [] => p
  | _ => { p with data := p.contents, fresh := [] }

end Pipe

/-- An open stream. -/
inductive Stream
  | null
  | terminal
  | pipe (p : Pipe)
  | file (path : Fs.Path) (offset : Nat) (append : Bool)
  deriving Repr

/-- A program the shell started: the path it was started from and its arguments. -/
structure Child where
  program : String
  args : List String
  deriving DecidableEq, Repr

/-- The file tree, the open streams by number, what the terminal has shown, in chunks, newest
first, and the programs the shell started and has not waited for, oldest first. -/
structure World where
  tree : Fs.Tree
  streams : Array Stream
  shown : List (List UInt8)
  unwaited : List Child := []
  deriving Repr

/-- What a write to a stream comes to. -/
inductive Written
  /-- The bytes were written. -/
  | done (w : World)
  /-- The pipe has no room for them and its reader is still there: the writer waits. -/
  | full
  /-- The pipe has no room and its reader has gone: the writer is killed. -/
  | broken
  deriving Repr

namespace World

/-- The number of the shell's own standard input. -/
def inputStream : Nat := 0

/-- The number of the terminal stream. -/
def terminalStream : Nat := 1

/-- The number of the shell's own error output. -/
def errorStream : Nat := 2

/-- The streams the shell holds open itself: its standard input, the terminal and its error
output. -/
def ownStreams : Array Stream := #[.null, .terminal, .null]

/-- A world with the given tree, nothing open but the shell's own streams, an empty screen, and
no program started. -/
def ofTree (t : Fs.Tree) : World := ⟨t, ownStreams, [], []⟩

/-- What the terminal has shown, oldest first. -/
def screen (w : World) : List UInt8 := w.shown.reverse.flatMap id

/-- The world with the screen cleared and only the shell's own streams open; the programs left
running stay so. -/
def fresh (w : World) : World := { w with streams := ownStreams, shown := [] }

/-- Leaves programs running without waiting for them. -/
def leaveRunning (w : World) (cs : List Child) : World := { w with unwaited := w.unwaited ++ cs }

/-- Opens a stream; returns the world and the stream's number. -/
def attach (w : World) (s : Stream) : World × Nat :=
  ({ w with streams := w.streams.push s }, w.streams.size)

/-- The stream of a number; the null stream for a number that is not open. -/
def stream (w : World) (id : Nat) : Stream := w.streams.getD id .null

/-- Replaces the stream of a number. -/
def setStream (w : World) (id : Nat) (s : Stream) : World :=
  { w with streams := w.streams.setIfInBounds id s }

/-- Shows bytes on the terminal. -/
def display (w : World) (bytes : List UInt8) : World :=
  match bytes with
  | [] => w
  | _ => { w with shown := bytes :: w.shown }

/-- Writes bytes to a stream. -/
def put (w : World) (id : Nat) (bytes : List UInt8) : Written :=
  match w.stream id with
  | .null => .done w
  | .terminal => .done (w.display bytes)
  | .pipe p =>
    match p.room with
    | some room =>
      if room < bytes.length then (if p.readerGone then .broken else .full)
      else
        let q : Pipe := { p with fresh := bytes :: p.fresh, room := some (room - bytes.length) }
        .done (w.setStream id (.pipe q))
    | none => .done (w.setStream id (.pipe { p with fresh := bytes :: p.fresh }))
  | .file p offset append =>
    let at_ := if append then (w.tree.data p).length else offset
    let (tree, offset') := w.tree.writeAt p at_ bytes
    .done ({ w with tree := tree }.setStream id (.file p offset' append))

/-- Writes bytes to a stream that has no bound: the null stream, the terminal, a file, or a
pipe without a bound. -/
def write (w : World) (id : Nat) (bytes : List UInt8) : World :=
  match w.put id bytes with
  | .done w => w
  | _ => w

/-- Shows a text on the terminal. -/
def print (w : World) (s : String) : World := w.display (Text.utf8 s)

/-- The bytes a stream has ready to read, and whether more may come later (an open pipe). -/
def available (w : World) (id : Nat) : List UInt8 × Bool :=
  match w.stream id with
  | .pipe p => (p.contents, !p.closed)
  | .file p offset _ => ((w.tree.data p).drop offset, false)
  | _ => ([], false)

/-- The bytes a stream has left to read. -/
def unread (w : World) (id : Nat) : List UInt8 := (w.available id).1

/-- Marks `n` bytes of a stream as read. -/
def consume (w : World) (id : Nat) (n : Nat) : World :=
  match w.stream id with
  | .pipe p =>
    let p := p.settle
    w.setStream id (.pipe { p with data := p.data.drop n })
  | .file p offset append => w.setStream id (.file p (offset + n) append)
  | _ => w

/-- Reads a line: the bytes before the next line feed, and whether a line feed ended them. -/
def readLine (w : World) (id : Nat) : World × List UInt8 × Bool :=
  let rest := w.unread id
  let line := rest.takeWhile (· != 10)
  let ended := line.length < rest.length
  (w.consume id (if ended then line.length + 1 else line.length), line, ended)

/-- Reads everything a stream has left. -/
def readAll (w : World) (id : Nat) : World × List UInt8 :=
  let rest := w.unread id
  (w.consume id rest.length, rest)

/-- Marks a pipe as closed for writing. -/
def closePipe (w : World) (id : Nat) : World :=
  match w.stream id with
  | .pipe p => w.setStream id (.pipe { p with closed := true })
  | _ => w

end World

end Conch
