import TabMarkup.Text.Blank
import TabMarkup.Error

/-!
What a reader allows, and the meter it keeps while it reads. Sizes and lengths are in
bytes of UTF-8; the meter's count of bytes stops at the greatest 64-bit number.
-/
namespace TabMarkup

/-- Whether blank lines between top-level tags are remembered. -/
inductive BlankLines where
  | skip
  | preserve
  deriving DecidableEq, Repr

structure Config where
  maxDepth : Nat := 32
  maxSize : Nat := 1024 * 1024
  maxStringLength : Nat := 100 * 1024
  maxProperties : Nat := 1000
  blankLines : BlankLines := .skip
  /-- Version declarations without the exclamation mark. -/
  legacyDeclarations : Bool := true
  /-- Stylesheets that no provider resolves are an error and not a warning. -/
  strictDoctypes : Bool := false
  acceptedExtension : String := "skd"
  deriving DecidableEq, Repr

namespace Config

def preservingBlankLines (c : Config) : Config := { c with blankLines := .preserve }

def checkSize (c : Config) (size : Nat) : Except Error Unit :=
  failIf (c.maxSize < size) (.limit .size)

def checkStringLength (c : Config) (length : Nat) : Except Error Unit :=
  failIf (c.maxStringLength < length) (.limit .stringLength)

def checkString (c : Config) (text : String) : Except Error Unit :=
  c.checkStringLength text.utf8ByteSize

def checkProperties (c : Config) (count : Nat) : Except Error Unit :=
  failIf (c.maxProperties < count) (.limit .properties)

end Config

/-- The greatest size that a meter shows. -/
def Meter.top : Nat := UInt64.size - 1

structure Meter where
  depth : Nat := 0
  size : Nat := 0
  deriving DecidableEq, Repr

namespace Meter

/-- Sizes add up, also past the limit. -/
def add (m : Meter) (size : Nat) : Meter := { m with size := min (m.size + size) top }

/-- A size that goes past the limit is counted all the same. -/
def addSize (m : Meter) (size : Nat) (c : Config) : Except Error Unit × Meter :=
  let m := m.add size
  (c.checkSize m.size, m)

/-- A depth past the limit is not entered. -/
def enterLevel (m : Meter) (depth : Nat) (c : Config) : Except Error Unit × Meter :=
  if depth ≤ c.maxDepth then (.ok (), { m with depth := depth })
  else (fail (.limit .depth), m)

end Meter
end TabMarkup
