/-!
What can go wrong, by cause, and the chain of causes that an error carries. The wording
stands in the `text` functions alone.
-/
namespace TabMarkup

/-- Faults in the markup of a document. -/
inductive MarkupFault where
  | invalidDocument
  | unrecognizedDeclaration (name : String)
  | invalidDeclaration (name : String)
  | duplicateDeclaration (name : String)
  | unsupportedLegacyDeclaration (markup : String)
  | unresolvedDoctype (stylesheet : String)
  | missingDeclaration (name : String)
  | malformedTag (markup : String)
  | invalidProperties (line : String)
  | emptyPropertyKey
  | spacesInClosingTag (markup : String)
  | closedWithoutOpening (name : String)
  | noParent
  | parentClosed
  | unclosedTag (name : String)
  | contentWithoutParent
  deriving DecidableEq, Repr

/-- Operations that a node refuses. -/
inductive NodeFault where
  | voidTag (name : String)
  | tagClosed (name : String)
  | notEmpty (name : String)
  | listChildMismatch (expected found : String)
  | unsupported (what : String)
  | emptyName (node : String)
  | bodyRejected (doctype : String)
  deriving DecidableEq, Repr

inductive ServiceFault where
  | noUsableService (kind : String)
  | rollbackUnusable (kind : String)
  | missingService (key : String)
  | unknownExtension (extension : String)
  deriving DecidableEq, Repr

inductive ReaderFault where
  | alreadyInitialized
  | sourceRejected (name : String)
  | notWritable (name : String)
  deriving DecidableEq, Repr

inductive LimitFault where
  | depth
  | size
  | stringLength
  | properties
  deriving DecidableEq, Repr

inductive StorageFault where
  | fileNotFound (path : String)
  | readError (text : String)
  | writeError (text : String)
  deriving DecidableEq, Repr

inductive Fault where
  | markup (fault : MarkupFault)
  | node (fault : NodeFault)
  | service (fault : ServiceFault)
  | reader (fault : ReaderFault)
  | limit (fault : LimitFault)
  | storage (fault : StorageFault)
  deriving DecidableEq, Repr

def MarkupFault.text : MarkupFault → String
  | invalidDocument => "Unable to parse database: syntax error"
  | unrecognizedDeclaration name => "Unrecognized declaration '" ++ name ++ "'"
  | invalidDeclaration name => "Invalid " ++ name ++ " declaration"
  | duplicateDeclaration name => "Duplicate " ++ name ++ " declaration"
  | unsupportedLegacyDeclaration markup => "Unsupported legacy declaration '" ++ markup ++ "'"
  | unresolvedDoctype stylesheet => "No doctype provider for stylesheet '" ++ stylesheet ++ "'"
  | missingDeclaration name => "Missing " ++ name ++ " declaration"
  | malformedTag markup => "Malformed tag '" ++ markup ++ "'"
  | invalidProperties line => "Invalid property specification '" ++ line ++ "'"
  | emptyPropertyKey => "Empty property key"
  | spacesInClosingTag markup => "Spaces not allowed in closing tag '" ++ markup ++ "'"
  | closedWithoutOpening name => "Tag '" ++ name ++ "' closed without being opened"
  | noParent => "No parent tag found: invalid indentation"
  | parentClosed => "Parent tag already closed"
  | unclosedTag name => "Tag '" ++ name ++ "' was never closed"
  | contentWithoutParent => "Content found outside of any tag"

def NodeFault.text : NodeFault → String
  | voidTag name => "Tag '" ++ name ++ "' is void"
  | tagClosed name => "Tag '" ++ name ++ "' is already closed"
  | notEmpty name => "Tag '" ++ name ++ "' already has content or children"
  | listChildMismatch expected found =>
    "List child must be named '" ++ expected ++ "', found '" ++ found ++ "'"
  | unsupported what => "Unsupported operation: " ++ what
  | emptyName node => "Empty " ++ node ++ " name"
  | bodyRejected doctype => "Structure rejected by doctype '" ++ doctype ++ "'"

def ServiceFault.text : ServiceFault → String
  | noUsableService kind => "Unable to set default service '" ++ kind ++ "': service is not usable"
  | rollbackUnusable kind =>
    "Unable to set service '" ++ kind ++ "' without freezing: rollback target is not usable"
  | missingService key => "No service registered for capability '" ++ key ++ "'"
  | unknownExtension extension => "Unknown extension '" ++ extension ++ "'"

def ReaderFault.text : ReaderFault → String
  | alreadyInitialized => "Parser already initialized"
  | sourceRejected name => "Invalid database holder: '" ++ name ++ "' cannot be accepted by default"
  | notWritable name => "Database holder '" ++ name ++ "' is writable but provides no writer"

def LimitFault.text : LimitFault → String
  | depth => "Maximum indentation depth exceeded"
  | size => "Maximum input size exceeded"
  | stringLength => "Maximum string length exceeded"
  | properties => "Maximum number of properties exceeded"

def StorageFault.text : StorageFault → String
  | fileNotFound path => "File not found: " ++ path
  | readError text => "Read error: " ++ text
  | writeError text => "Write error: " ++ text

def Fault.text : Fault → String
  | markup f => f.text
  | node f => f.text
  | service f => f.text
  | reader f => f.text
  | limit f => f.text
  | storage f => f.text

/-- A place in a document; lines and columns count from one. -/
structure Location where
  line : Nat
  column : Nat
  deriving DecidableEq, Repr

/-- A fault with what is known about where and when it arose. -/
structure Report where
  fault : Fault
  location : Option Location := none
  context : Option String := none
  deriving DecidableEq, Repr

/-- A report, the reports that caused it from the nearest to the root, and perhaps, behind
all of them, the words of something that is not a fault of this library. -/
structure Error extends Report where
  causes : List Report := []
  foreign : Option String := none
  deriving DecidableEq, Repr

def Report.text (r : Report) : String :=
  let place := match r.location with
    | some l => "at line " ++ toString l.line ++ ", column " ++ toString l.column ++ ": "
    | none => "Error: "
  let context := match r.context with
    | some c => "\nContext: " ++ c
    | none => ""
  place ++ r.fault.text ++ context

namespace Error

def ofFault (f : Fault) : Error := { fault := f }

instance : Inhabited Error := ⟨ofFault (.markup .invalidDocument)⟩

def withLocation (e : Error) (line column : Nat) : Error := { e with location := some ⟨line, column⟩ }

/-- Gives the error a location unless it has one. -/
def locate (e : Error) (line column : Nat) : Error :=
  if e.location.isSome then e else e.withLocation line column

def withContext (e : Error) (context : String) : Error := { e with context := some context }
def withCause (e cause : Error) : Error :=
  { e with causes := cause.toReport :: cause.causes, foreign := cause.foreign }
def withForeignCause (e : Error) (text : String) : Error :=
  { e with causes := [], foreign := some text }

/-- The innermost report. -/
def root (e : Error) : Report := e.causes.getLast?.getD e.toReport

def message (e : Error) : String :=
  let causes := e.causes.map Report.text ++ e.foreign.toList
  causes.foldl (fun text cause => text ++ "\nCaused by: " ++ cause) e.toReport.text

end Error

/-- Failing with a fault that nothing else is known about. -/
def fail {α : Type} (f : Fault) : Except Error α := .error (.ofFault f)

def failIf (b : Bool) (f : Fault) : Except Error Unit := if b then fail f else .ok ()

@[simp] theorem ok_bind {α β : Type} (a : α) (f : α → Except Error β) :
    (Except.ok a >>= f) = f a := rfl

@[simp] theorem error_bind {α β : Type} (e : Error) (f : α → Except Error β) :
    (Except.error e >>= f) = .error e := rfl

@[simp] theorem pure_eq_ok {α : Type} (a : α) : (pure a : Except Error α) = .ok a := rfl

theorem bind_eq_ok {α β : Type} {x : Except Error α} {f : α → Except Error β} {b : β} :
    (x >>= f) = .ok b ↔ ∃ a, x = .ok a ∧ f a = .ok b := by
  cases x with
  | ok a => simp
  | error e => simp

theorem map_eq_ok {α β : Type} {x : Except Error α} {f : α → β} {b : β} :
    x.map f = .ok b ↔ ∃ a, x = .ok a ∧ f a = b := by
  cases x with
  | ok a => simp [Except.map]
  | error e => simp [Except.map]

theorem exists_map_eq_ok {α β : Type} {x : Except Error α} {f : α → β} {P : β → Prop} :
    (∃ b, x.map f = .ok b ∧ P b) ↔ ∃ a, x = .ok a ∧ P (f a) := by
  simp only [map_eq_ok]
  constructor
  · rintro ⟨_, ⟨a, ok, rfl⟩, h⟩
    exact ⟨a, ok, h⟩
  · rintro ⟨a, ok, h⟩
    exact ⟨f a, ⟨a, ok, rfl⟩, h⟩

theorem mapError_eq_ok {α : Type} {x : Except Error α} {f : Error → Error} {a : α} :
    x.mapError f = .ok a ↔ x = .ok a := by
  cases x with
  | ok b => exact Iff.rfl
  | error e =>
    change Except.error (f e) = .ok a ↔ _
    simp

theorem toOption_eq_some {α : Type} {x : Except Error α} {a : α} :
    x.toOption = some a ↔ x = .ok a := by
  cases x <;> simp [Except.toOption]

theorem failIf_eq_ok {b : Bool} {f : Fault} {u : Unit} : failIf b f = .ok u ↔ b = false := by
  cases b <;> simp [failIf, fail]

end TabMarkup
