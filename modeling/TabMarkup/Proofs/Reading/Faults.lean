import TabMarkup.Proofs.Reading.Contexts

/-!
Errors as they are raised. Whatever goes wrong while a line is read, or at the end of a text, is one
fault without a cause and without a place yet; only the measuring of a line speaks of sizes.
-/
namespace TabMarkup

namespace Error

/-- An error as it was raised, with no place and no cause, and not because of a size. -/
structure Fresh (e : Error) : Prop where
  location : e.location = none
  causes : e.causes = []
  other : e.fault ≠ .limit .size

@[simp] theorem fresh_ofFault {f : Fault} : (ofFault f).Fresh ↔ f ≠ .limit .size :=
  ⟨fun h => h.other, fun other => ⟨rfl, rfl, other⟩⟩

@[simp] theorem fresh_withContext {e : Error} {context : String} :
    (e.withContext context).Fresh ↔ e.Fresh :=
  ⟨fun h => ⟨h.location, h.causes, h.other⟩, fun h => ⟨h.location, h.causes, h.other⟩⟩

end Error

/-- A computation fails with errors of some kind only. -/
def Fails {α : Type} (P : Error → Prop) (x : Except Error α) : Prop := ∀ e, x = .error e → P e

section
variable {α β : Type} {P : Error → Prop}

@[simp] theorem fails_ok (a : α) : Fails P (.ok a) := fun _ h => by cases h

@[simp] theorem fails_error {e : Error} : Fails P (.error e : Except Error α) ↔ P e :=
  ⟨fun h => h e rfl, fun h _ same => by cases same; exact h⟩

@[simp] theorem fails_fail {f : Fault} : Fails P (fail f : Except Error α) ↔ P (.ofFault f) :=
  fails_error

@[simp] theorem fails_failIf {b : Bool} {f : Fault} :
    Fails P (failIf b f) ↔ (b = true → P (.ofFault f)) := by
  cases b <;> simp [failIf]

@[simp] theorem fails_bind {x : Except Error α} {f : α → Except Error β} :
    Fails P (x >>= f) ↔ Fails P x ∧ ∀ a, x = .ok a → Fails P (f a) := by
  cases x <;> simp

@[simp] theorem fails_map {x : Except Error α} {f : α → β} : Fails P (x.map f) ↔ Fails P x := by
  cases x <;> simp [Except.map]

theorem fails_foldlM {f : β → α → Except Error β} (each : ∀ b a, Fails P (f b a))
    (as : List α) (b : β) : Fails P (as.foldlM f b) := by
  induction as generalizing b with
  | nil => simp
  | cons a as ih =>
    rw [List.foldlM_cons, fails_bind]
    exact ⟨each b a, fun b' _ => ih b'⟩

end

/-! ### Markup -/

@[simp] theorem Declaration.fresh_invalid (name : String) : (invalid name).Fresh := by
  simp [invalid]

@[simp] theorem Token.fresh_invalid (line : List Char) : (invalid line).Fresh := by
  simp [invalid]

@[simp] theorem Token.fresh_tokenize (line : List Char) : Fails Error.Fresh (tokenize line) := by
  simp only [tokenize]
  split <;> simp

@[simp] theorem Token.fresh_key (line : List Char) (t : Token) :
    Fails Error.Fresh (key line t) := by
  unfold key
  split
  · simp
  · split <;> simp

@[simp] theorem Token.fresh_pairUp (line : List Char) (done : List (String × String)) (ts : List Token) :
    Fails Error.Fresh (pairUp line done ts) := by
  induction done, ts using pairUp.induct line with
  | case1 done k v rest e failed =>
    have fresh := fresh_key line k
    rw [failed, fails_error] at fresh
    simp [pairUp, failed, fresh]
  | case2 done k v rest name named ih => simpa [pairUp, named] using ih
  | case3 done ts other =>
    rw [pairUp]
    · simp
    · exact other

@[simp] theorem fresh_parseProperties (line : List Char) :
    Fails Error.Fresh (parseProperties line) := by
  have tokens := Token.fresh_tokenize line
  unfold parseProperties
  split
  · rename_i e failed
    rw [failed, fails_error] at tokens
    simpa using tokens
  · split <;> simp

namespace Declaration

@[simp] theorem fresh_parseDoctype (inner : List Char) :
    Fails Error.Fresh (parseDoctype inner) := by
  simp only [parseDoctype]
  split
  · simp
  · split <;> simp

@[simp] theorem fresh_parseVersion (rest : List Char) : Fails Error.Fresh (parseVersion rest) := by
  have tokens := Token.fresh_tokenize rest
  unfold parseVersion
  split
  · rename_i e failed
    rw [failed, fails_error] at tokens
    simpa using tokens
  · split <;> simp

@[simp] theorem fresh_parse (markup : List Char) : Fails Error.Fresh (parse markup) := by
  unfold parse
  split
  · simp
  · simp only
    split
    · simp
    · split <;> simp

end Declaration

namespace Head

@[simp] theorem fresh_parse (void : Bool) (markup : List Char) :
    Fails Error.Fresh (parse void markup) := by
  unfold parse
  split
  · simp [malformed]
  · simp only
    split <;> simp [malformed]

@[simp] theorem fresh_closingName (markup : List Char) :
    Fails Error.Fresh (closingName markup) := by
  unfold closingName
  split
  · simp
  · split
    · simp [malformed]
    · split <;> simp [malformed]

end Head

/-! ### Levels and tags -/

namespace Levels

@[simp] theorem fresh_refuseOpenFrom (ls : Levels) (n : Nat) :
    Fails Error.Fresh (ls.refuseOpenFrom n) := by
  unfold refuseOpenFrom
  split <;> simp

@[simp] theorem fresh_parentAt (ls : Levels) (n : Nat) : Fails Error.Fresh (ls.parentAt n) := by
  unfold parentAt
  split <;> simp

@[simp] theorem fresh_requireParent (ls : Levels) (n : Nat) :
    Fails Error.Fresh (ls.requireParent n) := by
  cases n <;> simp [requireParent]

@[simp] theorem fresh_tagToClose (ls : Levels) (n : Nat) (name : String) :
    Fails Error.Fresh (ls.tagToClose n name) := by
  unfold tagToClose
  split
  · simp
  · simp only [fails_bind, fresh_refuseOpenFrom, true_and]
    intro _ _
    split <;> simp

end Levels

namespace Tag
variable (t : Tag)

@[simp] theorem fresh_new (name : String) : Fails Error.Fresh (new name) := by
  unfold new
  split <;> simp

@[simp] theorem fresh_refuseFrozenBody : Fails Error.Fresh t.refuseFrozenBody := by
  unfold refuseFrozenBody
  split <;> simp [refuseClosed]

@[simp] theorem fresh_setVoid (void : Bool) : Fails Error.Fresh (t.setVoid void) := by
  simp [setVoid, refuseClosed]

@[simp] theorem fresh_addChild (child : Tag) : Fails Error.Fresh (t.addChild child) := by
  simp only [addChild, fails_bind, fresh_refuseFrozenBody, true_and]
  intro _ _
  split
  · split <;> simp
  · simp

@[simp] theorem fresh_appendContent (line : String) : Fails Error.Fresh (t.appendContent line) := by
  simp only [appendContent, fails_bind, fresh_refuseFrozenBody, true_and]
  intro _ _
  split <;> simp [unsupported]

@[simp] theorem fresh_addProperty (p : Property) : Fails Error.Fresh (t.addProperty p) := by
  simp only [addProperty, fails_bind]
  constructor
  · unfold refuseShapedProperties
    split <;> simp [unsupported]
  · intro _ _
    split <;> simp

end Tag

@[simp] theorem Config.fresh_checkString (c : Config) (text : String) :
    Fails Error.Fresh (c.checkString text) := by
  simp [checkString, checkStringLength]

@[simp] theorem Config.fresh_checkProperties (c : Config) (count : Nat) :
    Fails Error.Fresh (c.checkProperties count) := by
  simp [checkProperties]

/-! ### Lines -/

namespace Scan
variable {g : Setting}

@[simp] theorem fresh_legacyVersion (c : Config) (markup : List Char) :
    Fails Error.Fresh (legacyVersion c markup) := by
  simp only [legacyVersion, fails_bind, fails_failIf, Declaration.fresh_parse, true_and]
  refine ⟨by simp, fun _ _ d _ => ?_⟩
  cases d <;> simp

theorem fresh_checkKnown (g : Setting) (stylesheet : String) (d : Doctype) :
    Fails Error.Fresh (checkKnown g stylesheet d).result := by
  unfold checkKnown
  split
  · simp
  · split <;> simp

theorem fresh_declareVersion (g : Setting) (s : State) (number : String) :
    Fails Error.Fresh (declareVersion g s number).result := by
  simp [declareVersion, Setting.call]

theorem fresh_declare (g : Setting) (s : State) (d : Declaration) :
    Fails Error.Fresh (declare g s d).result := by
  cases d with
  | doctype stylesheet => simp [declare, declareDoctype, Setting.call, fresh_checkKnown]
  | version number => exact fresh_declareVersion g s number

theorem fresh_legacy (g : Setting) (s : State) (markup : List Char) :
    Fails Error.Fresh (legacy g s markup).result := by
  simp [legacy, fresh_declareVersion]

theorem fresh_refineTag (reshaping : g.Reshaping) (t : Tag) :
    Fails Error.Fresh (g.refineTag t) := by
  obtain ⟨shape, reshaped⟩ := reshaping.tags t
  simp [reshaped]

theorem fresh_addProperty (hg : g.Stock) (name : String) (t : Tag) (pair : String × String) :
    Fails Error.Fresh (addProperty g name t pair).result := by
  simp only [addProperty, Setting.property, Setting.propertyCallback, Setting.call,
    Journaled.result_bind, Journaled.result_lift, Journaled.result_note, Journaled.result_noteIf,
    Journaled.result_pure, hg.propertyCallback, hg.property, ok_bind, fails_bind,
    Config.fresh_checkString, true_and]
  intro _ _
  constructor
  · unfold Property.new
    split <;> simp
  · intro p new
    have valued : p.value.isSome := by
      unfold Property.new at new
      split at new
      · cases new
      · cases new
        rfl
    simp [hg.valued p valued]

theorem fresh_buildTag (hg : g.Stock) (head : Head) :
    Fails Error.Fresh (buildTag g head).result := by
  have made : g.service.tag head.name = Tag.new head.name := by rw [hg.service]; rfl
  have added (t : Tag) (pairs : List (String × String)) := fails_foldlM (P := Error.Fresh)
    (f := fun t p => (addProperty g head.name t p).result)
    (fun t p => fresh_addProperty hg head.name t p) pairs t
  simp [buildTag, Setting.tag, Setting.call, made, added]

theorem fresh_attach (hg : g.Stock) (reshaping : g.Reshaping) (s : State) (t : Tag) (n : Nat) :
    Fails Error.Fresh (attach g s t n).result := by
  cases n with
  | zero => simp [attach]
  | succ n =>
    simp [attach, Setting.tagCallback, Setting.call, hg.tagCallback, fresh_refineTag reshaping]

theorem fresh_opening (hg : g.Stock) (s : State) (indent : Nat) (markup : List Char) :
    Fails Error.Fresh (opening g s indent markup).result := by
  simp [opening, Setting.tagCallback, Setting.call, hg.tagCallback, fresh_buildTag hg]

theorem fresh_void (hg : g.Stock) (reshaping : g.Reshaping) (s : State) (indent : Nat)
    (markup : List Char) : Fails Error.Fresh (void g s indent markup).result := by
  simp [void, Setting.tagCallback, Setting.call, hg.tagCallback, fresh_buildTag hg,
    fresh_refineTag reshaping, fresh_attach hg reshaping]

theorem fresh_closing (hg : g.Stock) (reshaping : g.Reshaping) (s : State) (indent : Nat)
    (markup : List Char) : Fails Error.Fresh (closing g s indent markup).result := by
  simp [closing, fresh_refineTag reshaping, fresh_attach hg reshaping]

theorem fresh_content (g : Setting) (s : State) (text : List Char) (indent : Nat) :
    Fails Error.Fresh (content g s text indent).result := by
  cases indent with
  | zero => simp [content]
  | succ n => simp [content]

theorem fresh_byKind (hg : g.Stock) (reshaping : g.Reshaping) (s : State) (indent : Nat)
    (kind : Line.Kind) : Fails Error.Fresh (byKind g s indent kind).result := by
  cases kind with
  | declaration markup => simp [byKind, fresh_declare]
  | legacy markup => exact fresh_legacy g s markup
  | void markup => exact fresh_void hg reshaping s indent markup
  | closing markup => exact fresh_closing hg reshaping s indent markup
  | opening markup => exact fresh_opening hg s indent markup
  | blank => simp [byKind]
  | content text => exact fresh_content g s text indent

theorem fresh_finish (hg : g.Stock) (reshaping : g.Reshaping) (s : State) :
    Fails Error.Fresh (finish g s).result := by
  have both : Fails Error.Fresh (declared s) := by
    unfold declared
    split <;> simp
  have refined (d : Document) : Fails Error.Fresh (g.refineDocument d) := by
    obtain ⟨singleton, same⟩ := reshaping.documents d
    simp [same]
  simp [finish, Setting.document, Setting.call, hg.documentCallback, both, refined]

end Scan
end TabMarkup
