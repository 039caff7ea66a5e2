import TabMarkup.Reading.Parse
import TabMarkup.Storage.Holder

/-!
Readers: a holder, a configuration, and the source once it was loaded. A source is loaded
once and can be read any number of times.
-/
namespace TabMarkup

structure Reader where
  holder : Holder
  config : Config
  source : Option String := none

namespace Reader

/-- A reader configured by the active service. -/
def new (c : Context) (holder : Holder) : Except Error Reader := do
  return { holder, config := ← c.config }

def initialized (r : Reader) : Bool := r.source.isSome
def displayName (r : Reader) : String := r.holder.name.getD "unnamed database"

/-- The text of the source, if the holder is acceptable or reading is forced. -/
def load (r : Reader) (s : Storage) (force : Bool) : Journaled String := do
  failIf r.initialized (.reader .alreadyInitialized)
  failIf (!r.holder.acceptable && !force) (.reader (.sourceRejected r.displayName))
  Journaled.noteIf (!r.holder.acceptable) (.warning ("Forcing initialization of " ++ r.displayName))
  Journaled.noteIf (!r.holder.acceptable)
    (.warning "The source is not accepted by default, parsing may misbehave")
  let text ← (← r.holder.reader s).read
  r.config.checkSize text.utf8ByteSize
  return text

/-- Loads the source. -/
def init (r : Reader) (s : Storage) (force : Bool) : Journaled Unit × Reader :=
  let loaded := r.load s force
  match loaded.result with
  | .ok text => (⟨.ok (), loaded.entries⟩, { r with source := some text })
  | .error e => (⟨.error e, loaded.entries⟩, r)

/-- Reads the document, after loading the source if that was not done. -/
def read (r : Reader) (c : Context) (s : Storage) : Journaled Document × Reader :=
  match r.source with
  | some text => (c.readText r.config r.displayName text, r)
  | none =>
    let (loaded, r) := r.init s false
    (do
      loaded
      c.readText r.config r.displayName (r.source.getD ""), r)

/-- Writes a document. Answers whether the holder is writable. -/
def write (d : Document) (holder : Holder) (s : Storage) : Except Error Bool × Storage :=
  if !holder.writable then (.ok false, s)
  else match holder.writer s with
    | .error e => (.error e, s)
    | .ok none => (fail (.reader (.notWritable (holder.name.getD ""))), s)
    | .ok (some sink) =>
      match sink.write (Text.Utf8.encode d.render) sink.opened with
      | (none, s) => (.ok true, s)
      | (some reason, s) => (fail (.storage (.writeError reason)), s)

/-- Writes a document to where this reader reads from. -/
def writeBack (r : Reader) (d : Document) (s : Storage) : Except Error Bool × Storage :=
  write d r.holder s

end Reader

/-- Reads a file in a context of its own. -/
def parseFile (path : String) (s : Storage) : Journaled Document := do
  let c := Context.standard
  let r ← Reader.new c (.file path (← c.config).acceptedExtension)
  (r.read c s).1

end TabMarkup
