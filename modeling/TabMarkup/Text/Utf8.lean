/-!
Reading bytes as UTF-8, one byte at a time. A sequence that breaks off, or a byte
that starts none, is one fault; the byte that broke a sequence is looked at again as
the start of the next.
-/
namespace TabMarkup.Text.Utf8

/-- Inside a sequence: its bits so far, how many bytes it still owes, and the range of the next. -/
structure Pending where
  bits : Nat
  owed : Nat
  low : Nat
  high : Nat

/-- A character, or `none` for a fault. -/
abbrev Unit := Option Char

structure State where
  units : Array Unit := #[]
  pending : Option Pending := none

/-- A byte where a sequence may start. The second bytes of `E0`, `ED`, `F0` and `F4` are
narrowed so that no code is overlong, a surrogate or above `10FFFF`. -/
def begin (s : State) (b : Nat) : State :=
  if b < 0x80 then ⟨s.units.push (some (Char.ofNat b)), none⟩
  else if b < 0xC2 then ⟨s.units.push none, none⟩
  else if b < 0xE0 then ⟨s.units, some ⟨b - 0xC0, 1, 0x80, 0xBF⟩⟩
  else if b < 0xF0 then
    let low := if b = 0xE0 then 0xA0 else 0x80
    let high := if b = 0xED then 0x9F else 0xBF
    ⟨s.units, some ⟨b - 0xE0, 2, low, high⟩⟩
  else if b < 0xF5 then
    let low := if b = 0xF0 then 0x90 else 0x80
    let high := if b = 0xF4 then 0x8F else 0xBF
    ⟨s.units, some ⟨b - 0xF0, 3, low, high⟩⟩
  else ⟨s.units.push none, none⟩

def step (s : State) (byte : UInt8) : State :=
  let b := byte.toNat
  match s.pending with
  | none => begin s b
  | some p =>
    if p.low ≤ b && b ≤ p.high then
      let bits := p.bits * 64 + (b - 0x80)
      if p.owed ≤ 1 then ⟨s.units.push (some (Char.ofNat bits)), none⟩
      else ⟨s.units, some ⟨bits, p.owed - 1, 0x80, 0xBF⟩⟩
    else begin ⟨s.units.push none, none⟩ b

def units (bytes : List UInt8) : List Unit :=
  let s := bytes.foldl step {}
  (if s.pending.isSome then s.units.push none else s.units).toList

/-- The text, if no byte is at fault. -/
def decode? (bytes : List UInt8) : Option String :=
  ((units bytes).mapM id).map String.ofList

/-- The text with U+FFFD for every fault. -/
def decodeLossy (bytes : List UInt8) : String :=
  String.ofList ((units bytes).map (·.getD '\uFFFD'))

def encode (text : String) : List UInt8 := text.toUTF8.toList

end TabMarkup.Text.Utf8
