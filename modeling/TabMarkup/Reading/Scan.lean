import TabMarkup.Context
import TabMarkup.Markup.Declaration
import TabMarkup.Markup.Head
import TabMarkup.Markup.Line
import TabMarkup.Reading.Levels

/-!
Scanning a document line by line. An opening tag waits at its level until its closing
tag; a tag that is complete is refined and becomes the last child of the open tag one
level above, or the last entry of the body. A fault is located at its line unless it
was found at the end.
-/
namespace TabMarkup.Scan

/-- What a scan is given: the context, its reading service and the configuration. -/
structure Setting where
  context : Context
  id : ServiceId
  config : Config

namespace Setting

def service (s : Setting) : Service := s.context.pool.service s.id
def call (s : Setting) (c : Call) : Journaled Unit := .note (.call s.id c)

def tag (s : Setting) (name : String) : Journaled Tag := do
  s.call (.tag name)
  s.service.tag name

def tagCallback (s : Setting) (t : Tag) : Journaled Tag := do
  s.call (.tagCallback t.name)
  s.service.tagCallback t

def property (s : Setting) (name : String) (value : Option String) : Journaled Property := do
  s.call (.property name value)
  s.service.property name value

def propertyCallback (s : Setting) (p : Property) : Journaled Property := do
  s.call (.propertyCallback p.name)
  s.service.propertyCallback p

def document (s : Setting) (body : Body) (doctype : Doctype) (version : Version) :
    Journaled Document := do
  s.call .document
  let d := s.service.document body doctype version
  s.call .documentCallback
  s.service.documentCallback d

def refineTag (s : Setting) (t : Tag) : Except Error Tag := s.context.refiner.tags.refine t
def refineProperty (s : Setting) (p : Property) : Except Error Property :=
  s.context.refiner.properties.refine p
def refineDocument (s : Setting) (d : Document) : Except Error Document :=
  s.context.refiner.documents.refine d

def knows (s : Setting) (d : Doctype) : Bool := s.context.doctypes.knows s.context.available d

end Setting

structure State where
  meter : Meter := {}
  levels : Levels := {}
  body : Body := .empty
  doctype : Option Doctype := none
  version : Option Version := none

/-! ### Declarations -/

/-- An unknown stylesheet is an error where doctypes are strict, and else a warning. -/
def checkKnown (g : Setting) (stylesheet : String) (d : Doctype) : Journaled Unit :=
  if g.knows d then pure ()
  else if g.config.strictDoctypes then .fail (.markup (.unresolvedDoctype stylesheet))
  else .note (.warning
    ("No doctype provider for stylesheet " ++ stylesheet ++ ", accepting it anyway"))

def declareDoctype (g : Setting) (s : State) (stylesheet : String) : Journaled State := do
  failIf s.doctype.isSome (.markup (.duplicateDeclaration "DOCTYPE"))
  g.call (.doctype stylesheet)
  let doctype := g.service.doctype stylesheet
  checkKnown g stylesheet doctype
  return { s with doctype := some doctype }

def declareVersion (g : Setting) (s : State) (number : String) : Journaled State := do
  failIf s.version.isSome (.markup (.duplicateDeclaration "SKD"))
  g.call (.version number)
  return { s with version := some (g.service.version number) }

def declare (g : Setting) (s : State) : Declaration → Journaled State
  | .doctype stylesheet => declareDoctype g s stylesheet
  | .version number => declareVersion g s number

/-- Versions that may be declared without the exclamation mark, and those of them for
which that is deprecated. -/
def legacyVersions : List String := ["0.1", "0.2", "0.2.1"]
def deprecatedVersions : List String := ["0.2", "0.2.1"]

/-- The version in a legacy declaration, where such declarations are allowed. -/
def legacyVersion (c : Config) (markup : List Char) : Except Error String := do
  let unsupported := Fault.markup (.unsupportedLegacyDeclaration (String.ofList markup))
  failIf (!c.legacyDeclarations) unsupported
  match ← Declaration.parse (Declaration.modernize markup) with
  | .doctype _ => fail unsupported
  | .version number =>
    failIf (!legacyVersions.contains number) unsupported
    return number

def legacy (g : Setting) (s : State) (markup : List Char) : Journaled State := do
  let number ← legacyVersion g.config markup
  Journaled.noteIf (deprecatedVersions.contains number) (.warning ("Legacy declaration " ++
    String.ofList markup ++ " is deprecated, use <!SKD version=\"" ++ number ++ "\">"))
  declareVersion g s number

/-! ### Tags -/

def addProperty (g : Setting) (name : String) (t : Tag) (pair : String × String) :
    Journaled Tag := do
  g.config.checkString pair.2
  let p ← g.property pair.1 (some pair.2)
  let p ← g.propertyCallback p
  let p ← g.refineProperty p
  let added ← t.addProperty p
  Journaled.noteIf (!added.1)
    (.warning ("Dropping duplicate property " ++ pair.1 ++ " on tag " ++ name))
  return added.2

def buildTag (g : Setting) (head : Head) : Journaled Tag := do
  let t ← g.tag head.name
  let pairs ← parseProperties head.properties
  g.config.checkProperties pairs.length
  Journaled.foldl (addProperty g head.name) t pairs

/-- Makes a complete tag part of its parent, or of the body. -/
def attach (g : Setting) (s : State) (t : Tag) : Nat → Journaled State
  | 0 => return { s with body := s.body.push t }
  | n + 1 => do
    let parent ← s.levels.parentAt n
    let levels := s.levels.erase n
    let parent ← parent.addChild t
    let parent ← g.tagCallback parent
    let parent ← g.refineTag parent
    return { s with levels := levels.put n (.opened parent) }

def opening (g : Setting) (s : State) (indent : Nat) (markup : List Char) : Journaled State := do
  s.levels.requireParent indent
  s.levels.refuseOpenFrom indent
  let levels := s.levels.below indent
  let t ← buildTag g (← Head.parse false markup)
  let t ← g.tagCallback t
  return { s with levels := levels.put indent (.opened t) }

/-- A void tag is complete at once, and leaves its own level as it is. -/
def void (g : Setting) (s : State) (indent : Nat) (markup : List Char) : Journaled State := do
  s.levels.requireParent indent
  let t ← buildTag g (← Head.parse true markup)
  let t ← t.setVoid true
  let t ← g.tagCallback t.close
  let t ← g.refineTag t
  attach g s t indent

def closing (g : Setting) (s : State) (indent : Nat) (markup : List Char) : Journaled State := do
  let name ← Head.closingName markup
  let t ← s.levels.tagToClose indent name
  let t ← g.refineTag t.close
  attach g { s with levels := (s.levels.upTo indent).put indent (.closed name) } t indent

def content (g : Setting) (s : State) (text : List Char) : Nat → Journaled State
  | 0 => .fail (.markup .contentWithoutParent)
  | n + 1 => do
    let line := String.ofList text
    s.levels.refuseOpenFrom (n + 1)
    let t ← s.levels.parentAt n
    g.config.checkString (Tag.joinLine t.content line)
    let t ← t.appendContent line
    return { s with levels := s.levels.put n (.opened t) }

/-- A blank line outside of every tag is remembered where blank lines are preserved. -/
def blank (g : Setting) (s : State) : State :=
  if g.config.blankLines = .preserve ∧ s.levels.firstOpenFrom 0 = none then
    { s with body := s.body.pushBlank }
  else s

/-! ### Lines -/

def byKind (g : Setting) (s : State) (indent : Nat) : Line.Kind → Journaled State
  | .declaration markup => do declare g s (← Declaration.parse markup)
  | .legacy markup => legacy g s markup
  | .void markup => void g s indent markup
  | .closing markup => closing g s indent markup
  | .opening markup => opening g s indent markup
  | .blank => pure (blank g s)
  | .content text => content g s text indent

/-- A line and its end are counted before anything else is made of it. -/
def measure (g : Setting) (s : State) (size indent : Nat) : Except Error State := do
  let (fits, meter) := s.meter.addSize size g.config
  fits
  let (fits, meter) := meter.enterLevel indent g.config
  fits
  return { s with meter }

def step (g : Setting) (s : State) (numbered : List Char × Nat) : Journaled State :=
  let (raw, number) := numbered
  let line := Line.classify number raw
  Journaled.mapError (·.locate number line.column) do
    let s ← measure g s (Text.byteLength raw + 1) line.indent
    byKind g s line.indent line.kind

/-- Both declarations, the doctype being missed first. -/
def declared (s : State) : Except Error (Doctype × Version) :=
  match s.doctype, s.version with
  | none, _ => fail (.markup (.missingDeclaration "DOCTYPE"))
  | some _, none => fail (.markup (.missingDeclaration "SKD"))
  | some doctype, some version => .ok (doctype, version)

def finish (g : Setting) (s : State) : Journaled Document := do
  s.levels.refuseOpenFrom 0
  let (doctype, version) ← declared s
  let d ← g.document s.body doctype version
  g.refineDocument d

/-- Scans the lines of a text from a clean state. -/
def scan (g : Setting) (text : String) : Journaled Document := do
  g.call .body
  let lines := (Text.lines text.toList).zipIdx 1
  let s ← Journaled.foldl (step g) { body := g.service.body } lines
  finish g s

end TabMarkup.Scan
