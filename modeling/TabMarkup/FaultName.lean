import TabMarkup.Error

/-!
Names of faults: a category and a kind, with the texts that a fault of that kind holds.
A fault is found again from its kind and its texts.
-/
namespace TabMarkup

def MarkupFault.parts : MarkupFault → String × List String
  | invalidDocument => ("InvalidDatabaseSyntax", [])
  | unrecognizedDeclaration name => ("UnrecognizedDeclaration", [name])
  | invalidDeclaration name => ("InvalidDeclaration", [name])
  | duplicateDeclaration name => ("DuplicateDeclaration", [name])
  | unsupportedLegacyDeclaration markup => ("UnsupportedLegacyDeclaration", [markup])
  | unresolvedDoctype stylesheet => ("UnresolvedDoctype", [stylesheet])
  | missingDeclaration name => ("MissingDeclaration", [name])
  | malformedTag markup => ("MalformedTag", [markup])
  | invalidProperties line => ("InvalidProperties", [line])
  | emptyPropertyKey => ("EmptyPropertyKey", [])
  | spacesInClosingTag markup => ("SpacesInClosingTag", [markup])
  | closedWithoutOpening name => ("ClosedWithoutOpening", [name])
  | noParent => ("NoParent", [])
  | parentClosed => ("ParentClosed", [])
  | unclosedTag name => ("UnclosedTag", [name])
  | contentWithoutParent => ("ContentWithoutParent", [])

def NodeFault.parts : NodeFault → String × List String
  | voidTag name => ("VoidTag", [name])
  | tagClosed name => ("TagClosed", [name])
  | notEmpty name => ("NotEmpty", [name])
  | listChildMismatch expected found => ("ListChildMismatch", [expected, found])
  | unsupported what => ("Unsupported", [what])
  | emptyName node => ("EmptyName", [node])
  | bodyRejected doctype => ("StructureRejected", [doctype])

def ServiceFault.parts : ServiceFault → String × List String
  | noUsableService kind => ("NoUsableService", [kind])
  | rollbackUnusable kind => ("RollbackUnusable", [kind])
  | missingService key => ("MissingService", [key])
  | unknownExtension extension => ("UnknownExtension", [extension])

def ReaderFault.parts : ReaderFault → String × List String
  | alreadyInitialized => ("AlreadyInitialized", [])
  | sourceRejected name => ("SourceRejected", [name])
  | notWritable name => ("NotWritable", [name])

def LimitFault.parts : LimitFault → String × List String
  | depth => ("MaxDepthExceeded", [])
  | size => ("MaxSizeExceeded", [])
  | stringLength => ("MaxStringLengthExceeded", [])
  | properties => ("MaxPropertiesExceeded", [])

def StorageFault.parts : StorageFault → String × List String
  | fileNotFound path => ("FileNotFound", [path])
  | readError text => ("ReadError", [text])
  | writeError text => ("WriteError", [text])

namespace Fault

/-- The kind of a fault and the texts it holds. -/
def parts : Fault → String × List String
  | markup f => f.parts
  | node f => f.parts
  | service f => f.parts
  | reader f => f.parts
  | limit f => f.parts
  | storage f => f.parts

def category : Fault → String
  | markup _ => "Syntax"
  | node _ => "Semantic"
  | service _ => "Service"
  | reader _ => "State"
  | limit _ => "Security"
  | storage _ => "IO"

def name (f : Fault) : String := f.category ++ "." ++ f.parts.1

/-- The fault of a kind, with its texts. -/
def ofParts? (kind : String) (texts : List String) : Option Fault :=
  match kind, texts with
  | "InvalidDatabaseSyntax", [] => some (markup .invalidDocument)
  | "UnrecognizedDeclaration", [s] => some (markup (.unrecognizedDeclaration s))
  | "InvalidDeclaration", [s] => some (markup (.invalidDeclaration s))
  | "DuplicateDeclaration", [s] => some (markup (.duplicateDeclaration s))
  | "UnsupportedLegacyDeclaration", [s] => some (markup (.unsupportedLegacyDeclaration s))
  | "UnresolvedDoctype", [s] => some (markup (.unresolvedDoctype s))
  | "MissingDeclaration", [s] => some (markup (.missingDeclaration s))
  | "MalformedTag", [s] => some (markup (.malformedTag s))
  | "InvalidProperties", [s] => some (markup (.invalidProperties s))
  | "EmptyPropertyKey", [] => some (markup .emptyPropertyKey)
  | "SpacesInClosingTag", [s] => some (markup (.spacesInClosingTag s))
  | "ClosedWithoutOpening", [s] => some (markup (.closedWithoutOpening s))
  | "NoParent", [] => some (markup .noParent)
  | "ParentClosed", [] => some (markup .parentClosed)
  | "UnclosedTag", [s] => some (markup (.unclosedTag s))
  | "ContentWithoutParent", [] => some (markup .contentWithoutParent)
  | "VoidTag", [s] => some (node (.voidTag s))
  | "TagClosed", [s] => some (node (.tagClosed s))
  | "NotEmpty", [s] => some (node (.notEmpty s))
  | "ListChildMismatch", [s, t] => some (node (.listChildMismatch s t))
  | "Unsupported", [s] => some (node (.unsupported s))
  | "EmptyName", [s] => some (node (.emptyName s))
  | "StructureRejected", [s] => some (node (.bodyRejected s))
  | "NoUsableService", [s] => some (service (.noUsableService s))
  | "RollbackUnusable", [s] => some (service (.rollbackUnusable s))
  | "MissingService", [s] => some (service (.missingService s))
  | "UnknownExtension", [s] => some (service (.unknownExtension s))
  | "AlreadyInitialized", [] => some (reader .alreadyInitialized)
  | "SourceRejected", [s] => some (reader (.sourceRejected s))
  | "NotWritable", [s] => some (reader (.notWritable s))
  | "MaxDepthExceeded", [] => some (limit .depth)
  | "MaxSizeExceeded", [] => some (limit .size)
  | "MaxStringLengthExceeded", [] => some (limit .stringLength)
  | "MaxPropertiesExceeded", [] => some (limit .properties)
  | "FileNotFound", [s] => some (storage (.fileNotFound s))
  | "ReadError", [s] => some (storage (.readError s))
  | "WriteError", [s] => some (storage (.writeError s))
  | _, _ => none

theorem ofParts?_parts (f : Fault) : ofParts? f.parts.1 f.parts.2 = some f := by
  rcases f with f | f | f | f | f | f <;> cases f <;> rfl

end Fault
end TabMarkup
