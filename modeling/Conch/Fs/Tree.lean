import Conch.Fs.Path
import Conch.Fs.Fault
/-!
The file tree: every node by its resolved path.

A node is a file with its bytes and whether it may be executed, a directory, a symbolic link
with the path text it points to, or the null device. The root is always a directory. A path text
is resolved name by name from the root or from a working directory: `.` stays, `..` goes up (the
root is its own parent), a link met on the way is replaced by the names of its target, and every
name before the last must lead to a directory; so must the last when the text, or the target of a
link it ends in, ends with a slash. At most forty links are followed in one resolution, a name
longer than 255 bytes is refused, and so is a path text of 4096 bytes or more. The last name may
be missing, which opening a file for writing uses to create it.

The tree also says which accesses the account the shell runs as is refused, node by node:
reading a file, writing a file or adding names to a directory, and looking names up in a
directory. A name is looked up only in a directory that may be searched, so a refused search
anywhere on the way makes a resolution fail with `Permission denied`, and so do opening a file
for reading or writing and entering a directory when the node refuses that access. Listing a
directory is never refused once its path resolves. A node is removed with everything below it;
the system removes a directory only when it is empty.
-/

namespace Conch.Fs

/-- What a path names. -/
inductive Inode
  | file (data : List UInt8) (exec : Bool)
  | dir
  | link (target : String)
  /-- The null device: it reads as empty and swallows what is written to it. -/
  | sink
  deriving DecidableEq, Repr

/-- An access to a node that the system checks. -/
inductive Access
  /-- Reading a file. -/
  | read
  /-- Writing a file, or adding a name to a directory. -/
  | write
  /-- Looking a name up in a directory, or entering it. -/
  | search
  deriving DecidableEq, Repr

/-- The nodes of a file tree by resolved path; the root is not listed. `denied` lists the
accesses refused, by node. -/
structure Tree where
  nodes : List (Path × Inode)
  denied : List (Path × Access) := []
  deriving Repr

/-- Where a path text leads. -/
inductive Spot
  /-- An existing node; a link only when the last link is not followed. -/
  | node (p : Path) (n : Inode)
  /-- The last name is missing from an existing directory; `slash` says the path asked for a
  directory there. -/
  | absent (dir : Path) (name : String) (slash : Bool)
  /-- A node that is no directory, where the path asked for one with a trailing slash. -/
  | notDir (p : Path) (n : Inode)
  deriving Repr

/-- The size a listing shows for a node: the bytes of a file, one block for a directory. -/
def Inode.size : Inode → Nat
  | .file d _ => d.length
  | .sink => 0
  | _ => 4096

namespace Tree

/-- The tree that holds the root alone. -/
def empty : Tree := ⟨[], []⟩

/-- Whether the node at a resolved path grants an access. -/
def allows (t : Tree) (p : Path) (a : Access) : Bool := !t.denied.contains (p, a)

/-- The node at a resolved path. -/
def get? (t : Tree) (p : Path) : Option Inode :=
  match p with
  | [] => some .dir
  | _ => t.nodes.lookup p

/-- Replaces the node at `p`, or adds it after the others. -/
def put (t : Tree) (p : Path) (n : Inode) : Tree :=
  if (t.nodes.lookup p).isSome then { t with nodes := t.nodes.map fun q => if q.1 = p then (p, n) else q }
  else { t with nodes := t.nodes ++ [(p, n)] }

/-- The names in the directory at `p`. -/
def children (t : Tree) (p : Path) : List String :=
  t.nodes.filterMap fun q =>
    match q.1.getLast? with
    | some name => if q.1.dropLast = p then some name else none
    | none => none

/-- Adds the directories on the way to `p` and `p` itself that are missing. -/
def makeDirs (t : Tree) (p : Path) : Tree :=
  (List.range p.length).foldl (fun t k =>
    let q := p.take (k + 1)
    if (t.get? q).isSome then t else t.put q .dir) t

/-- Adds a node, making the directories above it. -/
def add (t : Tree) (p : Path) (n : Inode) : Tree := (t.makeDirs p.dropLast).put p n

/-- The most links one resolution follows. -/
def maxLinks : Nat := 40

/-- The length, in bytes, from which a path text is refused as too long. -/
def maxPathBytes : Nat := 4096

/-- The longest name, in bytes. -/
def maxNameBytes : Nat := 255

/-- Resolves the names `rest` from the directory `dir`, following at most `links` more links.
The last link is followed when `follow` holds or the path must end at a directory. -/
def walk (t : Tree) (follow mustDir : Bool) (links : Nat) (dir : Path) :
    List String → Except Fault Spot
  | [] => .ok (.node dir .dir)
  | name :: rest =>
    if !t.allows dir .search then .error .permissionDenied
    else if name = "." then walk t follow mustDir links dir rest
    else if name = ".." then walk t follow mustDir links dir.dropLast rest
    else if maxNameBytes < name.utf8ByteSize then .error .nameTooLong
    else
      let p := dir ++ [name]
      match t.get? p with
      | none => if rest.isEmpty then .ok (.absent dir name mustDir) else .error .noEntry
      | some .dir => walk t follow mustDir links p rest
      | some .sink =>
        if !rest.isEmpty then .error .notDirectory
        else if mustDir then .ok (.notDir p .sink) else .ok (.node p .sink)
      | some (.file d x) =>
        if !rest.isEmpty then .error .notDirectory
        else if mustDir then .ok (.notDir p (.file d x)) else .ok (.node p (.file d x))
      | some (.link target) =>
        if rest.isEmpty && !follow && !mustDir then .ok (.node p (.link target))
        else
          match links with
          | 0 => .error .linkLoop
          | k + 1 =>
            if target.isEmpty then .error .noEntry
            else
              let slash := mustDir || (rest.isEmpty && target.endsWith "/")
              walk t follow slash k (if isAbsolute target then [] else dir) (names target ++ rest)
termination_by rest => (links, rest.length)

/-- Resolves a path text from the working directory `cwd`. -/
def resolve (t : Tree) (cwd : Path) (text : String) (follow : Bool) : Except Fault Spot :=
  if text.contains (Char.ofNat 0) then .error .nulByte
  else if text.isEmpty then .error .noEntry
  else if maxPathBytes ≤ text.utf8ByteSize then .error .nameTooLong
  else walk t follow (text.endsWith "/") maxLinks (if isAbsolute text then [] else cwd) (names text)

/-- The node a path text leads to, following links. -/
def stat (t : Tree) (cwd : Path) (text : String) : Except Fault (Path × Inode) :=
  match resolve t cwd text true with
  | .ok (.node p n) => .ok (p, n)
  | .ok (.absent _ _ _) => .error .noEntry
  | .ok (.notDir _ _) => .error .notDirectory
  | .error f => .error f

/-- Whether a path text leads to a directory. -/
def isDir (t : Tree) (cwd : Path) (text : String) : Bool :=
  match stat t cwd text with
  | .ok (_, .dir) => true
  | _ => false

/-- Whether a path text leads to a file. -/
def isFile (t : Tree) (cwd : Path) (text : String) : Bool :=
  match stat t cwd text with
  | .ok (_, .file _ _) => true
  | _ => false

/-- Whether a path text leads to a file that may be executed. -/
def isExecutableFile (t : Tree) (cwd : Path) (text : String) : Bool :=
  match stat t cwd text with
  | .ok (_, .file _ x) => x
  | _ => false

/-- Opens a file for reading: its resolved path and its bytes. -/
def readFile (t : Tree) (cwd : Path) (text : String) : Except Fault (Path × List UInt8) :=
  match stat t cwd text with
  | .ok (p, .file d _) => if t.allows p .read then .ok (p, d) else .error .permissionDenied
  | .ok (p, .sink) => if t.allows p .read then .ok (p, []) else .error .permissionDenied
  | .ok _ => .error .isDirectory
  | .error f => .error f

/-- Opens a file for writing: creates it when it is missing and empties it unless `append`.
Returns the new tree and the file's resolved path. -/
def openWrite (t : Tree) (cwd : Path) (text : String) (append : Bool) :
    Except Fault (Tree × Path) :=
  match resolve t cwd text true with
  | .ok (.node p (.file _ x)) =>
    if t.allows p .write then .ok (if append then t else t.put p (.file [] x), p)
    else .error .permissionDenied
  | .ok (.node p .sink) => if t.allows p .write then .ok (t, p) else .error .permissionDenied
  | .ok (.node _ _) => .error .isDirectory
  | .ok (.absent dir name slash) =>
    if slash then .error .isDirectory
    else if t.allows dir .write then .ok (t.put (dir ++ [name]) (.file [] false), dir ++ [name])
    else .error .permissionDenied
  | .ok (.notDir _ _) => .error .isDirectory
  | .error f => .error f

/-- The names in the directory a path text leads to. -/
def listDir (t : Tree) (cwd : Path) (text : String) : Except Fault (List String) :=
  match stat t cwd text with
  | .ok (p, .dir) => .ok (t.children p)
  | .ok _ => .error .notDirectory
  | .error f => .error f

/-- The directory a path text leads to, as a new working directory. -/
def changeDir (t : Tree) (cwd : Path) (text : String) : Except Fault Path :=
  match stat t cwd text with
  | .ok (p, .dir) => if t.allows p .search then .ok p else .error .permissionDenied
  | .ok _ => .error .notDirectory
  | .error f => .error f

/-- The bytes of the file at a resolved path; nothing for any other node. -/
def data (t : Tree) (p : Path) : List UInt8 :=
  match t.get? p with
  | some (.file d _) => d
  | _ => []

/-- Writes bytes into the file at `p` from `offset`, filling a gap with zero bytes. Returns the
tree and the offset after the bytes. -/
def writeAt (t : Tree) (p : Path) (offset : Nat) (bytes : List UInt8) : Tree × Nat :=
  match t.get? p with
  | some (.file d x) =>
    let d' := d.take offset ++ List.replicate (offset - d.length) 0 ++ bytes ++
      d.drop (offset + bytes.length)
    (t.put p (.file d' x), offset + bytes.length)
  | _ => (t, offset)

/-- Whether a resolved path leads to a directory. -/
def isDirAt (t : Tree) (p : Path) : Bool :=
  match t.get? p with
  | some .dir => true
  | _ => false

/-- Removes the node at `p` and everything below it, with the accesses they refused. -/
def erase (t : Tree) (p : Path) : Tree :=
  ⟨t.nodes.filter fun q => !p.isPrefixOf q.1, t.denied.filter fun q => !p.isPrefixOf q.1⟩

/-- Removes the empty directory a path text leads to, its last link not followed. The name `.`
is refused, and so is a directory that holds names or whose parent may not be written. -/
def removeDir (t : Tree) (cwd : Path) (text : String) : Except Fault Tree :=
  if (names text).getLast? = some "." then .error .invalidArgument
  else
    match resolve t cwd text false with
    | .ok (.node [] _) => .error .permissionDenied
    | .ok (.node p .dir) =>
      if !(t.children p).isEmpty then .error .directoryNotEmpty
      else if t.allows p.dropLast .write then .ok (t.erase p)
      else .error .permissionDenied
    | .ok (.node _ _) | .ok (.notDir _ _) => .error .notDirectory
    | .ok (.absent _ _ _) => .error .noEntry
    | .error f => .error f

/-- The nodes strictly below `p`, with their paths relative to it. -/
def below (t : Tree) (p : Path) : List (Path × Inode) :=
  t.nodes.filterMap fun q =>
    if p.isPrefixOf q.1 && p.length < q.1.length then some (q.1.drop p.length, q.2) else none

end Tree

end Conch.Fs
