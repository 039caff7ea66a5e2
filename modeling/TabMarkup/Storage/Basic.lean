import TabMarkup.Table
import TabMarkup.Storage.Path
import TabMarkup.Text.Blank
import TabMarkup.Text.Utf8

/-!
Storage: the files and directories at the places around a working directory, and numbered
buffers in memory. A path is followed one step at a time; every step but the last must lead
to a directory. Names and paths have greatest lengths, counted in bytes.
-/
namespace TabMarkup

namespace Storage

inductive Fault where
  | notFound
  | notDirectory
  | isDirectory
  | alreadyThere
  | nameTooLong
  | zeroInName
  deriving DecidableEq, Repr

def Fault.text : Fault → String
  | notFound => "No such file or directory (os error 2)"
  | notDirectory => "Not a directory (os error 20)"
  | isDirectory => "Is a directory (os error 21)"
  | alreadyThere => "File exists (os error 17)"
  | nameTooLong => "File name too long (os error 36)"
  | zeroInName => "file name contained an unexpected NUL byte"

inductive Node where
  | directory
  | file (bytes : List UInt8)

end Storage

structure Storage where
  nodes : Table Path.Place Storage.Node := {}
  buffers : Table Nat (List UInt8) := {}

namespace Storage

/-- The working directory, those above it and the root are always there. -/
def isGiven : Path.Place → Bool
  | [] => true
  | step :: _ => step = Path.up || step = Path.root

def nodeAt? (s : Storage) (place : Path.Place) : Option Node :=
  if isGiven place then some .directory else s.nodes.get? place

def put (s : Storage) (place : Path.Place) (node : Node) : Storage :=
  { s with nodes := s.nodes.insert place node }

def longestName : Nat := 255
def longestPath : Nat := 4095

/-- What is at a place, unless its name is too long for any. -/
def look (s : Storage) (place : Path.Place) : Except Fault (Option Node) :=
  if longestName < Text.byteLength (place.headD []) then .error .nameTooLong
  else .ok (s.nodeAt? place)

/-- A step to a directory. -/
def enter (s : Storage) (place : Path.Place) (step : Path.Step) : Except Fault Path.Place := do
  let next := Path.follow place step
  match ← s.look next with
  | none => .error .notFound
  | some (.file _) => .error .notDirectory
  | some .directory => .ok next

/-- Where a path leads, and whether its last step is a name; dots lead to directories only. -/
structure Target where
  place : Path.Place
  named : Bool

def refusePath (path : String) : Except Fault Unit :=
  if path.toList.contains '\x00' then .error .zeroInName
  else if path = "" then .error .notFound
  else if longestPath < path.utf8ByteSize then .error .nameTooLong
  else .ok ()

/-- Follows a path up to its last step, which need not lead to anything. -/
def target (s : Storage) (path : String) : Except Fault Target := do
  refusePath path
  let steps := Path.steps path
  let directory ← steps.dropLast.foldlM s.enter (Path.start path)
  return match steps.getLast? with
  | none => ⟨directory, false⟩
  | some last => ⟨Path.follow directory last, Path.isName last⟩

/-- Opens what is at a path for reading. A directory can be opened, and not read. -/
def openPath (s : Storage) (path : String) : Except Fault Node := do
  match ← s.look (← s.target path).place with
  | none => .error .notFound
  | some .directory => .ok .directory
  | some (.file bytes) => if Path.endsInSlash path then .error .notDirectory else .ok (.file bytes)

def readBytes (s : Storage) (path : String) : Except Fault (List UInt8) := do
  match ← s.openPath path with
  | .directory => .error .isDirectory
  | .file bytes => .ok bytes

/-- Puts bytes into a file, whose old content is lost. A slash at the end asks for a directory,
whatever is there. -/
def writeBytes (s : Storage) (path : String) (bytes : List UInt8) : Except Fault Storage := do
  let t ← s.target path
  if !t.named || Path.endsInSlash path then .error .isDirectory
  else match ← s.look t.place with
    | some .directory => .error .isDirectory
    | _ => .ok (s.put t.place (.file bytes))

/-- Makes a directory where there is nothing yet. -/
def makeDirectory (s : Storage) (path : String) : Except Fault Storage := do
  let t ← s.target path
  match ← s.look t.place with
  | some _ => .error .alreadyThere
  | none => .ok (s.put t.place .directory)

/-- Makes whatever directories are missing along steps. -/
def makeWay (s : Storage) (place : Path.Place) : List Path.Step → Storage
  | [] => s
  | step :: rest =>
    let next := Path.follow place step
    let s := if (s.nodeAt? next).isSome then s else s.put next .directory
    makeWay s next rest

/-- Storage with one file, and the directories on the way to it. -/
def ofFile (path : String) (bytes : List UInt8) : Except Fault Storage :=
  (makeWay {} (Path.start path) (Path.steps path).dropLast).writeBytes path bytes

def buffer (s : Storage) (n : Nat) : List UInt8 := (s.buffers.get? n).getD []
def setBuffer (s : Storage) (n : Nat) (bytes : List UInt8) : Storage :=
  { s with buffers := s.buffers.insert n bytes }

end Storage
end TabMarkup
