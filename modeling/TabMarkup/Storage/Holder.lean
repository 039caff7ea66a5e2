import TabMarkup.Error
import TabMarkup.Storage.Basic
import TabMarkup.Text.Words

/-!
Holders: where documents are read from and written to. A holder is opened against the
storage, so that copies of it share what was written.
-/
namespace TabMarkup

/-- What an opened source yields. -/
inductive Stream where
  | text (text : String)
  | bytes (bytes : List UInt8)
  | broken (reason : String)

namespace Stream

def unreadable {α : Type} (reason : String) : Except Error α :=
  fail (.storage (.readError reason))

/-- The whole text of a stream. -/
def read : Stream → Except Error String
  | text t => .ok t
  | bytes bs => match Text.Utf8.decode? bs with
    | some t => .ok t
    | none => unreadable "stream did not contain valid UTF-8"
  | broken reason => unreadable reason

end Stream

/-- An opened destination: the storage once it is open, and what writing to it does. The
storage after writing comes with the reason if the writing failed. -/
structure Sink where
  opened : Storage
  write : List UInt8 → Storage → Option String × Storage

structure Holder where
  name : Option String
  writable : Bool
  /-- Whether it may be read without forcing. -/
  acceptable : Bool
  reader : Storage → Except Error Stream
  /-- No sink if the holder cannot provide one. -/
  writer : Storage → Except Error (Option Sink)

namespace Holder

/-- A file, acceptable by its extension in any letter case. -/
def file (path extension : String) : Holder where
  name := Path.fileName? path
  writable := true
  acceptable := match Path.extension? path with
    | some e => Text.sameLetters e.toList extension.toList
    | none => false
  reader s := match s.openPath path with
    | .ok .directory => .ok (.broken Storage.Fault.isDirectory.text)
    | .ok (.file bytes) => .ok (.bytes bytes)
    | .error .notFound => fail (.storage (.fileNotFound path))
    | .error e => fail (.storage (.readError (path ++ ": " ++ e.text)))
  writer s := match s.writeBytes path [] with
    | .error e => fail (.storage (.writeError (path ++ ": " ++ e.text)))
    | .ok opened => .ok (some ⟨opened, fun bytes s =>
        match s.writeBytes path bytes with
        | .ok s => (none, s)
        | .error e => (some e.text, s)⟩)

/-- A source in memory, with a buffer for what is written. Opening clears the buffer. -/
def memory (name source : String) (writable acceptable : Bool) (buffer : Nat) : Holder where
  name := some name
  writable := writable
  acceptable := acceptable
  reader _ := .ok (.text source)
  writer s :=
    if writable then
      .ok (some ⟨s.setBuffer buffer [], fun bytes s =>
        (none, s.setBuffer buffer (s.buffer buffer ++ bytes))⟩)
    else .ok none

end Holder

namespace Storage

def readText (s : Storage) (path : String) : Except Error String :=
  match (s.readBytes path).toOption.bind Text.Utf8.decode? with
  | some text => .ok text
  | none => fail (.storage (.readError ("Cannot read file: " ++ path)))

def writeText (s : Storage) (path text : String) : Except Error Storage :=
  match s.writeBytes path (Text.Utf8.encode text) with
  | .ok s => .ok s
  | .error _ => fail (.storage (.writeError ("Cannot write to file: " ++ path)))

end Storage
end TabMarkup
