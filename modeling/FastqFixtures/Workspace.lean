import FastqFixtures.Fault

/-!
# The working directory

The files a run reads and writes, as a value: every entry under the working directory by its
path, and the bytes the disk still takes. An entry is a regular file with its bytes, a
directory, or a link to a device on which every write runs out of space and every read gives
zero bytes without end. Only a copy from that device fills the disk; the files the program
writes otherwise are taken to fit.

Paths are resolved the way the kernel resolves them relative to the working directory: empty
and `.` components are skipped, an empty path names nothing, every component before the last
must be a directory, and a trailing slash asks for a directory. A path holding a zero byte, or
of 4096 bytes or more, is refused before any entry is looked at, and a name of more than 255
bytes is refused when it is looked up.

* `Node`, `Workspace` — the entries and the tree.
* `Workspace.find` — what a path names.
* `create`, `openRead`, `stat`, `remove` — the file operations, with the errors the kernel
  gives for them.
* `listing` — the sorted names of all entries, directories marked `/`, device links `@`.
-/

namespace FastqFixtures

set_option autoImplicit false

/-- What stands at a path. -/
inductive Node where
  | file (content : Bytes)
  | dir
  /-- A link to a device that is always full and reads as endless zero bytes. -/
  | fullDevice
  deriving DecidableEq, Repr

/-- The entries below the working directory, each with its path components, and the bytes
the disk still takes. Every entry's parent directories are entries too. -/
structure Workspace where
  entries : List (List Bytes × Node)
  room : Nat
  deriving Repr

/-- The empty working directory, on a full disk. -/
def Workspace.empty : Workspace := ⟨[], 0⟩

/-- The components of a path: the pieces between slashes, without empty and `.` pieces. -/
def components (path : Bytes) : List Bytes :=
  (Bytes.splitOn 47 path).filter fun c => !c.isEmpty && c != [46]

/-- Whether a path ends in a slash, which asks for a directory. -/
def wantsDir (path : Bytes) : Bool := path.getLast? == some 47

/-- The most bytes a path may have. -/
def pathMax : Nat := 4095

/-- The most bytes the name of one entry may have. -/
def nameMax : Nat := 255

/-- Why a path is refused before any entry is looked at: a zero byte cannot be passed, and a
path longer than `pathMax` is not taken. -/
def refusal? (path : Bytes) : Option Errno :=
  if path.contains 0 then some .invalid
  else if path.length > pathMax then some .nameTooLong
  else none

/-- The segments before the last named segment of a path, when that one is a plain name (not
`.` or `..`) followed by a slash. -/
def slashedName? (path : Bytes) : Option (List Bytes) :=
  let segs := ((Bytes.splitOn 47 path).reverse.dropWhile List.isEmpty).reverse
  match segs.getLast? with
  | some name => if wantsDir path && name != [46] && name != [46, 46] then some segs.dropLast else none
  | none => none

/-- What a path names. -/
inductive Found where
  /-- The working directory itself. -/
  | top
  | entry (e : Node)
  /-- Nothing, in an existing directory. -/
  | missing
  deriving DecidableEq, Repr

/-- Whether a position is the working directory or a directory in it. -/
def Found.isDir : Found → Bool
  | .top | .entry .dir => true
  | _ => false

namespace Workspace

/-- The entry at the given components. -/
def lookup (w : Workspace) (cs : List Bytes) : Option Node :=
  (w.entries.find? (·.1 == cs)).map (·.2)

/-- The position reached from `cs`, where `here` stands, by one step into the entry `seg`. -/
def stepInto (w : Workspace) (cs : List Bytes) (seg : Bytes) : List Bytes × Found :=
  match w.lookup (cs ++ [seg]) with
  | some n => (cs ++ [seg], .entry n)
  | none => (cs ++ [seg], .missing)

/-- Walks the segments of a path from the position `cs`, where `here` stands. An empty or `.`
segment stays, `..` goes up, any other segment goes into the entry of that name, which must
not be longer than `nameMax`; each step needs a directory to start from. Only trailing slashes
may follow a missing entry. -/
def walk (w : Workspace) : List Bytes → Found → List Bytes → Except Errno (List Bytes × Found)
  | cs, here, [] => .ok (cs, here)
  | cs, here, seg :: rest =>
    if here == .missing then
      if (seg :: rest).all List.isEmpty then .ok (cs, here) else .error .noEntry
    else if !here.isDir then .error .notDir
    else if seg.isEmpty || seg == [46] then w.walk cs here rest
    else if seg == [46, 46] then
      let up := cs.dropLast
      w.walk up (if up.isEmpty then .top else .entry .dir) rest
    else if seg.length > nameMax then .error .nameTooLong
    else
      let (next, there) := w.stepInto cs seg
      w.walk next there rest

/-- What `path` names, with its components, or the error of resolving it. -/
def find (w : Workspace) (path : Bytes) : Except Errno (List Bytes × Found) :=
  match refusal? path with
  | some e => .error e
  | none => if path.isEmpty then .error .noEntry else w.walk [] .top (Bytes.splitOn 47 path)

/-- Whether the last named segment of a path is `.` or `..`: such a path cannot be removed. -/
def endsInDot (path : Bytes) : Bool :=
  match ((Bytes.splitOn 47 path).filter fun s => !s.isEmpty).getLast? with
  | some seg => seg == [46] || seg == [46, 46]
  | none => true

/-- The tree with the entry at `cs` set to `e`, added at the end if it is new. -/
def put (w : Workspace) (cs : List Bytes) (e : Node) : Workspace :=
  if w.entries.any (·.1 == cs) then
    ⟨w.entries.map fun p => if p.1 == cs then (cs, e) else p, w.room⟩
  else ⟨w.entries ++ [(cs, e)], w.room⟩

/-- The tree without the entry at `cs`. -/
def drop (w : Workspace) (cs : List Bytes) : Workspace := ⟨w.entries.filter (·.1 != cs), w.room⟩

/-- Creates or truncates the regular file at `path`; a device link stays as it is. A plain name
followed by a slash is refused as a directory once the directories before it are found,
without looking the name up. -/
def create (w : Workspace) (path : Bytes) : Except Fault Workspace :=
  let fail (e : Errno) : Except Fault Workspace := .error (.file .openFile path e)
  match refusal? path, slashedName? path with
  | some e, _ => fail e
  | none, some parents =>
    match w.walk [] .top parents with
    | .error e => fail e
    | .ok (_, here) =>
      fail (if here == .missing then .noEntry else if here.isDir then .isDir else .notDir)
  | none, none =>
    match w.find path with
    | .error e => fail e
    | .ok (_, .top) | .ok (_, .entry .dir) => fail .isDir
    | .ok (_, .entry .fullDevice) => .ok w
    | .ok (cs, .entry (.file _)) | .ok (cs, .missing) => .ok (w.put cs (.file []))

/-- What opening a path for reading gives. -/
inductive Readable where
  | contents (bytes : Bytes)
  /-- A directory: opening works, reading fails. -/
  | directory
  /-- Zero bytes without end. -/
  | zeros
  deriving DecidableEq, Repr

/-- Opens `path` for reading. -/
def openRead (w : Workspace) (path : Bytes) : Except Fault Readable :=
  match w.find path with
  | .error e => .error (.file .openFile path e)
  | .ok (_, .top) | .ok (_, .entry .dir) => .ok .directory
  | .ok (_, .entry .fullDevice) => .ok .zeros
  | .ok (_, .entry (.file c)) => .ok (.contents c)
  | .ok (_, .missing) => .error (.file .openFile path .noEntry)

/-- What a path names after following links, or why it cannot be looked at. -/
def stat (w : Workspace) (path : Bytes) : Except Fault Readable :=
  match w.find path with
  | .error e => .error (.file .stat path e)
  | .ok (_, .missing) => .error (.file .stat path .noEntry)
  | .ok (_, .top) | .ok (_, .entry .dir) => .ok .directory
  | .ok (_, .entry .fullDevice) => .ok .zeros
  | .ok (_, .entry (.file c)) => .ok (.contents c)

/-- Whether some entry lies below the directory at `cs`. -/
def hasChildren (w : Workspace) (cs : List Bytes) : Bool :=
  w.entries.any fun p => p.1.length > cs.length && p.1.take cs.length == cs

/-- Removes the file, device link or empty directory at `path`. A path whose last segment is
`.` or `..` names no entry that can be removed. -/
def remove (w : Workspace) (path : Bytes) : Except Fault Workspace :=
  let fail (e : Errno) : Except Fault Workspace := .error (.file .remove path e)
  match w.find path with
  | .error e => fail e
  | .ok (_, .missing) => fail .noEntry
  | .ok (_, .top) => fail .invalid
  | .ok (cs, .entry .dir) =>
    if endsInDot path then fail .invalid
    else if w.hasChildren cs then fail .notEmpty
    else .ok (w.drop cs)
  | .ok (cs, .entry _) => .ok (w.drop cs)

/-- Replaces what the writable file at `path` holds; the device refuses any write. -/
def store (w : Workspace) (path : Bytes) (content : Bytes) : Except Fault Workspace :=
  match w.find path with
  | .ok (_, .entry .fullDevice) => .error (.file .write path .noSpace)
  | .ok (cs, .entry (.file _)) | .ok (cs, .missing) => .ok (w.put cs (.file content))
  | _ => .ok w

/-- Appends bytes to the writable file at `path`; the device refuses anything but nothing. -/
def append (w : Workspace) (path : Bytes) (more : Bytes) : Except Fault Workspace :=
  match w.find path with
  | .ok (_, .entry .fullDevice) =>
    if more.isEmpty then .ok w else .error (.file .write path .noSpace)
  | .ok (cs, .entry (.file c)) => .ok (w.put cs (.file (c ++ more)))
  | .ok (cs, .missing) => .ok (w.put cs (.file more))
  | _ => .ok w

/-- Adds the directories on the way to `cs` (from `done`) that are not there yet. -/
def makeDirs (w : Workspace) (done : List Bytes) : List Bytes → Workspace
  | [] => w
  | c :: rest =>
    let here := done ++ [c]
    let w := if (w.lookup here).isSome then w else w.put here .dir
    w.makeDirs here rest

/-- Makes the directory `path` and its parents. -/
def makeDir (w : Workspace) (path : Bytes) : Workspace := w.makeDirs [] (components path)

/-- Writes the file `path`, making its parent directories. -/
def writeFile (w : Workspace) (path : Bytes) (content : Bytes) : Workspace :=
  let cs := components path
  (w.makeDirs [] cs.dropLast).put cs (.file content)

/-- Places a link to the full device at `path`, making its parent directories. -/
def linkFullDevice (w : Workspace) (path : Bytes) : Workspace :=
  let cs := components path
  (w.makeDirs [] cs.dropLast).put cs .fullDevice

/-- The name of an entry in a listing. -/
def listedName (p : List Bytes × Node) : Bytes :=
  Bytes.join [47] p.1 ++
    match p.2 with
    | .dir => [47]
    | .fullDevice => [64]
    | .file _ => []

/-- The names of all entries, sorted bytewise. -/
def listing (w : Workspace) : List Bytes := Bytes.sort (w.entries.map listedName)

/-- The regular files, with their paths, sorted by path. -/
def regularFiles (w : Workspace) : List (Bytes × Bytes) :=
  let files := w.entries.filterMap fun p =>
    match p.2 with
    | .file c => some (Bytes.join [47] p.1, c)
    | _ => none
  files.mergeSort fun a b => Bytes.lexLe a.1 b.1

end Workspace

end FastqFixtures
