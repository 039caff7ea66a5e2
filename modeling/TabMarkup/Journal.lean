import TabMarkup.Error

/-!
The journal: warnings, failures and calls to services, in the order in which they were
made. A journaled computation keeps its entries when it fails, and nothing reads them
back: its result depends on the results of its parts alone.
-/
namespace TabMarkup

/-- Services are told apart by number, not by what they do. -/
abbrev ServiceId := Nat

/-- A call to a service. -/
inductive Call where
  | begin
  | finish
  /-- Taking over from a predecessor of some kind, or from none. -/
  | takeOver (predecessor : Option String)
  | tag (name : String)
  | tagCallback (name : String)
  | property (name : String) (value : Option String)
  | propertyCallback (name : String)
  | body
  | doctype (stylesheet : String)
  | version (number : String)
  | document
  | documentCallback
  deriving DecidableEq, Repr

def Call.text : Call → String
  | begin => "initialize"
  | finish => "finalize"
  | takeOver p =>
    let kind := p.getD "none"
    "grab_info(" ++ kind ++ "," ++ kind ++ ")"
  | tag name => "tag(" ++ name ++ ")"
  | tagCallback name => "tag_callback(" ++ name ++ ")"
  | property name value => "property(" ++ name ++ "," ++ value.getD "none" ++ ")"
  | propertyCallback name => "property_callback(" ++ name ++ ")"
  | body => "structure"
  | doctype stylesheet => "doctype(" ++ stylesheet ++ ")"
  | version number => "version(" ++ number ++ ")"
  | document => "database"
  | documentCallback => "database_callback"

inductive Entry where
  | warning (text : String)
  | failure (text : String)
  | call (service : ServiceId) (call : Call)
  deriving DecidableEq, Repr

structure Journaled (α : Type) where
  result : Except Error α
  entries : Array Entry := #[]

namespace Journaled
variable {α β σ : Type}

def note (e : Entry) : Journaled Unit := ⟨.ok (), #[e]⟩
def noteIf (b : Bool) (e : Entry) : Journaled Unit := ⟨.ok (), if b then #[e] else #[]⟩
def fail (f : Fault) : Journaled α := ⟨TabMarkup.fail f, #[]⟩

def bind (x : Journaled α) (f : α → Journaled β) : Journaled β :=
  match x.result with
  | .ok a =>
    let y := f a
    ⟨y.result, x.entries ++ y.entries⟩
  | .error e => ⟨.error e, x.entries⟩

instance : Monad Journaled where
  pure a := ⟨.ok a, #[]⟩
  bind := bind

instance : MonadLift (Except Error) Journaled where
  monadLift r := ⟨r, #[]⟩

def mapError (f : Error → Error) (x : Journaled α) : Journaled α :=
  match x.result with
  | .ok a => ⟨.ok a, x.entries⟩
  | .error e => ⟨.error (f e), x.entries⟩

/-- Makes an entry for an error. -/
def noteError (f : Error → Entry) (x : Journaled α) : Journaled α :=
  match x.result with
  | .ok _ => x
  | .error e => ⟨x.result, x.entries.push (f e)⟩

/-- Runs through a list, up to the first failure, after what was journaled before. -/
def foldlAfter (entries : Array Entry) (f : σ → α → Journaled σ) (s : σ) : List α → Journaled σ
  | [] => ⟨.ok s, entries⟩
  | a :: as =>
    let step := f s a
    match step.result with
    | .ok s => foldlAfter (entries ++ step.entries) f s as
    | .error e => ⟨.error e, entries ++ step.entries⟩

def foldl (f : σ → α → Journaled σ) (s : σ) (as : List α) : Journaled σ := foldlAfter #[] f s as

@[simp] theorem result_pure (a : α) : (pure a : Journaled α).result = .ok a := rfl

@[simp] theorem result_lift (r : Except Error α) :
    (monadLift r : Journaled α).result = r := rfl

@[simp] theorem result_note (e : Entry) : (note e).result = .ok () := rfl

@[simp] theorem result_noteIf (b : Bool) (e : Entry) : (noteIf b e).result = .ok () := rfl

@[simp] theorem result_fail (f : Fault) : (fail f : Journaled α).result = TabMarkup.fail f := rfl

@[simp] theorem result_bind (x : Journaled α) (f : α → Journaled β) :
    (x >>= f).result = x.result >>= fun a => (f a).result := by
  change (bind x f).result = _
  unfold bind
  cases x.result <;> rfl

@[simp] theorem result_noteError (f : Error → Entry) (x : Journaled α) :
    (x.noteError f).result = x.result := by
  unfold noteError
  split <;> rfl

@[simp] theorem result_mapError (f : Error → Error) (x : Journaled α) :
    (x.mapError f).result = x.result.mapError f := by
  unfold mapError
  cases x.result <;> rfl

theorem result_foldlAfter (entries : Array Entry) (f : σ → α → Journaled σ) (s : σ) (as : List α) :
    (foldlAfter entries f s as).result = as.foldlM (fun s a => (f s a).result) s := by
  induction as generalizing s entries with
  | nil => rfl
  | cons a as ih =>
    simp only [foldlAfter, List.foldlM_cons]
    cases (f s a).result with
    | ok t => exact ih _ t
    | error e => rfl

@[simp] theorem result_foldl (f : σ → α → Journaled σ) (s : σ) (as : List α) :
    (foldl f s as).result = as.foldlM (fun s a => (f s a).result) s := result_foldlAfter #[] f s as

end Journaled
end TabMarkup
