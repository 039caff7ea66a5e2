import TabMarkup.Service.Basic
import TabMarkup.Storage.Holder

/-! Stand-ins for holders and services, which fail or interfere where they are told to. -/
namespace TabMarkup.Rehearsal

/-- Where a holder fails. -/
inductive Mishap where
  | reader
  | read
  | writer
  | noWriter
  | write
  | flush
  deriving DecidableEq, Repr

def Mishap.ofName? : String → Option Mishap
  | "reader" => some .reader
  | "read" => some .read
  | "writer" => some .writer
  | "none" => some .noWriter
  | "write" => some .write
  | "flush" => some .flush
  | _ => none

/-- A holder that yields a given stream and appends to a buffer. Where writing fails, there
must be something to write; a flush that fails comes after everything was kept. -/
def holder (name : Option String) (source : Stream) (writable acceptable : Bool)
    (mishap : Option Mishap) (buffer : Nat) : Holder where
  name := name
  writable := writable
  acceptable := acceptable
  reader _ :=
    if mishap = some .reader then fail (.storage (.readError "no reader"))
    else if mishap = some .read then .ok (.broken "source is broken")
    else .ok source
  writer s :=
    if mishap = some .writer then fail (.storage (.writeError "no writer"))
    else if mishap = some .noWriter then .ok none
    else .ok (some ⟨s, fun bytes s =>
      if mishap = some .write && !bytes.isEmpty then (some "sink is full", s)
      else (if mishap = some .flush then some "sink cannot flush" else none,
        s.setBuffer buffer (s.buffer buffer ++ bytes))⟩)

/-- What a service does out of the ordinary, by its calls; names say for which nodes. -/
structure Hooks where
  refuseTag : Option String := none
  tagStart : String := ""
  refuseCallback : Option String := none
  closeCallback : Option String := none
  voidCallback : Option String := none
  dropValue : Option String := none
  refuseProperty : Option String := none
  /-- The body starts with a blank line. -/
  seedBody : Bool := false
  doctypeStart : String := ""
  version : Option String := none
  /-- Refuses documents of a version. -/
  refuseDocument : Option String := none

def refuse (hook : String) (target : Option String) (name : String) : Except Error Unit :=
  if target = some name then fail (.node (.unsupported (hook ++ " " ++ name))) else .ok ()

def service (kind : String) (usable : Bool) (config : Config) (h : Hooks) : Service where
  kind := kind
  usable := usable
  config := config
  tag name := do
    refuse "refuse_tag" h.refuseTag name
    Tag.new (h.tagStart ++ name)
  tagCallback t := do
    refuse "refuse_callback" h.refuseCallback t.name
    let t := if h.closeCallback = some t.name then t.close else t
    if h.voidCallback = some t.name then t.setVoid true else return t
  property name value := Property.new name (if h.dropValue = some name then none else value)
  propertyCallback p := do
    refuse "refuse_property" h.refuseProperty p.name
    return p
  body := if h.seedBody then Body.empty.pushBlank else .empty
  doctype stylesheet := ⟨h.doctypeStart ++ stylesheet⟩
  version number := ⟨h.version.getD number⟩
  documentCallback d := do
    refuse "refuse_database" h.refuseDocument d.version.number
    return d

end TabMarkup.Rehearsal
