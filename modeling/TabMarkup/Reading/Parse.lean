import TabMarkup.Reading.Scan

/-!
Reading a text into a document. Whatever goes wrong in the scan is the cause of one
fault, that the document is invalid.
-/
namespace TabMarkup.Context

/-- The error for a document that is called by a name. -/
def invalid (name : String) (cause : Error) : Error :=
  ((Error.ofFault (.markup .invalidDocument)).withContext name).withCause cause

def readText (c : Context) (config : Config) (name text : String) : Journaled Document := do
  let id ← c.reading
  ((Scan.scan ⟨c, id, config⟩ text).noteError fun e =>
    .failure ("Unable to parse database: " ++ e.message)).mapError (invalid name)

/-- Reads a text with the configuration of the active service. -/
def parse (c : Context) (text : String) : Journaled Document := do
  let config ← c.config
  config.checkSize text.utf8ByteSize
  c.readText config "memory" text

end TabMarkup.Context
