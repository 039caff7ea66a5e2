import Mathlib.Data.List.Forall2
import TabMarkup.Proofs.Reading.Simulation

/-!
Two scans alongside each other. One leads the other: as long as the first succeeds, so does the second,
and their states stay alike. What the two have to have in common is said of the ways in which they make
tags, let them grow and complete them; that the states stay alike is then shown once, for lines of every
kind.
-/
namespace TabMarkup

/-- If the first succeeds, so does the second, with a related result. -/
def Leads {α β : Type} (R : α → β → Prop) (x : Except Error α) (y : Except Error β) : Prop :=
  ∀ a, x = .ok a → ∃ b, y = .ok b ∧ R a b

section
variable {α β γ δ : Type} {R : α → β → Prop} {S : γ → δ → Prop}

@[simp] theorem leads_ok {a : α} {b : β} : Leads R (.ok a) (.ok b) ↔ R a b := by
  simp [Leads]

@[simp] theorem leads_error {e : Error} {y : Except Error β} : Leads R (.error e) y :=
  fun _ h => by cases h

@[simp] theorem leads_fail {f : Fault} {y : Except Error β} : Leads R (fail f) y := leads_error

theorem leads_self {R : α → α → Prop} (refl : ∀ a, R a a) (x : Except Error α) : Leads R x x :=
  fun a h => ⟨a, h, refl a⟩

theorem leads_failIf {b c : Bool} {f f' : Fault} {R : Unit → Unit → Prop} (refl : R () ())
    (fewer : c = true → b = true) : Leads R (failIf b f) (failIf c f') := by
  intro _ passed
  rw [failIf_eq_ok] at passed
  have passed' : c = false := by
    cases c
    · rfl
    · simp [fewer rfl] at passed
  exact ⟨(), failIf_eq_ok.2 passed', refl⟩

theorem Leads.bind {x : Except Error α} {y : Except Error β} {f : α → Except Error γ}
    {f' : β → Except Error δ} (first : Leads R x y) (next : ∀ a b, R a b → Leads S (f a) (f' b)) :
    Leads S (x >>= f) (y >>= f') := by
  intro c done
  obtain ⟨a, hx, hf⟩ := bind_eq_ok.1 done
  obtain ⟨b, hy, related⟩ := first a hx
  obtain ⟨d, hf', related'⟩ := next a b related c hf
  exact ⟨d, bind_eq_ok.2 ⟨b, hy, hf'⟩, related'⟩

theorem Leads.mapError {x : Except Error α} {y : Except Error β} {f f' : Error → Error}
    (h : Leads R x y) : Leads R (x.mapError f) (y.mapError f') := by
  intro a done
  obtain ⟨b, hy, related⟩ := h a (mapError_eq_ok.1 done)
  exact ⟨b, mapError_eq_ok.2 hy, related⟩

theorem Leads.related {x : Except Error α} {y : Except Error β} {a : α} {b : β} (h : Leads R x y)
    (hx : x = .ok a) (hy : y = .ok b) : R a b := by
  obtain ⟨_, same, related⟩ := h a hx
  cases hy.symm.trans same
  exact related

/-- What leads each other succeeds together. -/
theorem Leads.exists_iff {R' : β → α → Prop} {x : Except Error α} {y : Except Error β}
    (there : Leads R x y) (back : Leads R' y x) : (∃ a, x = .ok a) ↔ ∃ b, y = .ok b := by
  constructor
  · rintro ⟨a, h⟩
    obtain ⟨b, h', -⟩ := there a h
    exact ⟨b, h'⟩
  · rintro ⟨b, h⟩
    obtain ⟨a, h', -⟩ := back b h
    exact ⟨a, h'⟩

theorem Leads.foldlM {ε : Type} {f : α → ε → Except Error α} {f' : β → ε → Except Error β}
    (step : ∀ a b, R a b → ∀ e, Leads R (f a e) (f' b e)) {a : α} {b : β} (start : R a b)
    (es : List ε) : Leads R (es.foldlM f a) (es.foldlM f' b) := by
  induction es generalizing a b with
  | nil => exact leads_ok.2 start
  | cons e es ih =>
    rw [List.foldlM_cons, List.foldlM_cons]
    exact (step a b start e).bind fun a' b' related => ih related

end

/-! ### Configurations -/

/-- What the first configuration allows, the second allows too. Blank lines are no matter of this. -/
structure Config.Within (c d : Config) : Prop where
  maxDepth : c.maxDepth ≤ d.maxDepth
  maxSize : c.maxSize ≤ d.maxSize
  maxStringLength : c.maxStringLength ≤ d.maxStringLength
  maxProperties : c.maxProperties ≤ d.maxProperties
  legacyDeclarations : c.legacyDeclarations = true → d.legacyDeclarations = true
  strictDoctypes : d.strictDoctypes = true → c.strictDoctypes = true

namespace Config.Within
variable {c d : Config}

theorem self (c : Config) : c.Within c :=
  ⟨Nat.le_refl _, Nat.le_refl _, Nat.le_refl _, Nat.le_refl _, id, id⟩

theorem checkSize (h : c.Within d) (size : Nat) : Leads Eq (c.checkSize size) (d.checkSize size) :=
  leads_failIf rfl fun large =>
    decide_eq_true (Nat.lt_of_le_of_lt h.maxSize (of_decide_eq_true large))

theorem checkString (h : c.Within d) (text : String) :
    Leads Eq (c.checkString text) (d.checkString text) :=
  leads_failIf rfl fun long =>
    decide_eq_true (Nat.lt_of_le_of_lt h.maxStringLength (of_decide_eq_true long))

theorem checkProperties (h : c.Within d) (count : Nat) :
    Leads Eq (c.checkProperties count) (d.checkProperties count) :=
  leads_failIf rfl fun many =>
    decide_eq_true (Nat.lt_of_le_of_lt h.maxProperties (of_decide_eq_true many))

theorem legacyVersion (h : c.Within d) (markup : List Char) :
    Leads Eq (Scan.legacyVersion c markup) (Scan.legacyVersion d markup) := by
  refine Leads.bind (leads_failIf rfl fun refused => ?_) fun _ _ _ => leads_self (fun _ => rfl) _
  cases allowed : c.legacyDeclarations with
  | false => rfl
  | true => simp [h.legacyDeclarations allowed] at refused

end Config.Within

/-! ### Levels -/

/-- Levels that hold related tags, or that were closed under the same name. -/
inductive Level.Alike (R : Tag → Tag → Prop) : Level → Level → Prop
  | opened {t u : Tag} (related : R t u) : Alike R (.opened t) (.opened u)
  | closed (name : String) : Alike R (.closed name) (.closed name)

namespace Levels

def Alike (R : Tag → Tag → Prop) (ls ms : Levels) : Prop :=
  List.Forall₂ (fun l m => l.1 = m.1 ∧ l.2.Alike R m.2) ls.slots ms.slots

namespace Alike
variable {R : Tag → Tag → Prop} {ls ms : Levels}

/-- Levels that are kept for their indentation are kept in both. -/
theorem filter (h : ls.Alike R ms) (p : Nat → Bool) :
    (⟨ls.slots.filter (p ·.1)⟩ : Levels).Alike R ⟨ms.slots.filter (p ·.1)⟩ :=
  List.rel_filter (fun l m same => by simp only [same.1]) h

theorem erase (h : ls.Alike R ms) (n : Nat) : (ls.erase n).Alike R (ms.erase n) :=
  h.filter fun i => i ≠ n

theorem below (h : ls.Alike R ms) (n : Nat) : (ls.below n).Alike R (ms.below n) :=
  h.filter fun i => i < n

theorem upTo (h : ls.Alike R ms) (n : Nat) : (ls.upTo n).Alike R (ms.upTo n) :=
  h.filter fun i => i ≤ n

theorem put (h : ls.Alike R ms) (n : Nat) {l m : Level} (same : l.Alike R m) :
    (ls.put n l).Alike R (ms.put n m) :=
  List.rel_append (h.below n) (.cons ⟨rfl, same⟩ (h.filter fun i => n < i))

/-- A level is there in both or in none. -/
theorem get? (h : ls.Alike R ms) (n : Nat) :
    Option.Rel (Level.Alike R) (ls.get? n) (ms.get? n) := by
  unfold Levels.get?
  have slots : List.Forall₂ _ ls.slots ms.slots := h
  generalize ls.slots = xs, ms.slots = ys at slots ⊢
  induction slots with
  | nil => exact .none
  | @cons l m xs ys same _ ih =>
    rw [List.find?_cons, List.find?_cons, ← same.1]
    split
    · exact .some same.2
    · exact ih

theorem firstOpenFrom (named : ∀ t u, R t u → t.name = u.name) (h : ls.Alike R ms) (n : Nat) :
    ls.firstOpenFrom n = ms.firstOpenFrom n := by
  unfold Levels.firstOpenFrom
  have slots : List.Forall₂ _ ls.slots ms.slots := h
  generalize ls.slots = xs, ms.slots = ys at slots ⊢
  induction slots with
  | nil => rfl
  | @cons l m xs ys same _ ih =>
    obtain ⟨i, l⟩ := l
    obtain ⟨j, m⟩ := m
    obtain ⟨rfl, same⟩ := same
    have opened : l.openName? = m.openName? := by
      cases same with
      | opened related => exact congrArg some (named _ _ related)
      | closed name => rfl
    simp only [List.findSome?_cons, opened, ih]

theorem refuseOpenFrom (named : ∀ t u, R t u → t.name = u.name) (h : ls.Alike R ms) (n : Nat) :
    ls.refuseOpenFrom n = ms.refuseOpenFrom n := by
  rw [Levels.refuseOpenFrom, Levels.refuseOpenFrom, h.firstOpenFrom named]

theorem parentAt (h : ls.Alike R ms) (n : Nat) : Leads R (ls.parentAt n) (ms.parentAt n) := by
  have same := h.get? n
  unfold Levels.parentAt
  generalize ls.get? n = x, ms.get? n = y at same ⊢
  cases same with
  | none => simp
  | some same =>
    cases same with
    | opened related => exact leads_ok.2 related
    | closed name => simp

theorem requireParent (h : ls.Alike R ms) (n : Nat) :
    Leads Eq (ls.requireParent n) (ms.requireParent n) := by
  cases n with
  | zero => exact leads_ok.2 rfl
  | succ n =>
    intro _ required
    obtain ⟨t, found, -⟩ := map_eq_ok.1 required
    obtain ⟨u, found', -⟩ := h.parentAt n t found
    exact ⟨(), map_eq_ok.2 ⟨u, found', rfl⟩, rfl⟩

theorem openName (named : ∀ t u, R t u → t.name = u.name) (h : ls.Alike R ms) (n : Nat) :
    (ls.get? n).bind Level.openName? = (ms.get? n).bind Level.openName? := by
  have same := h.get? n
  generalize ls.get? n = x, ms.get? n = y at same ⊢
  cases same with
  | none => rfl
  | some same =>
    cases same with
    | opened related => exact congrArg some (named _ _ related)
    | closed name => rfl

theorem tagToClose (named : ∀ t u, R t u → t.name = u.name) (h : ls.Alike R ms) (n : Nat)
    (name : String) : Leads R (ls.tagToClose n name) (ms.tagToClose n name) := by
  unfold Levels.tagToClose
  rw [h.openName named, h.refuseOpenFrom named]
  split
  · simp
  · refine (leads_self (fun _ => rfl) _).bind fun _ _ _ => ?_
    have same := (h.upTo n).get? n
    generalize (ls.upTo n).get? n = x, (ms.upTo n).get? n = y at same ⊢
    cases same with
    | none => simp
    | some same =>
      cases same with
      | opened related => exact leads_ok.2 related
      | closed name => simp

end Alike
end Levels

/-! ### Settings -/

namespace Scan

namespace Setting

/-- A tag that was just opened. -/
def openTag (g : Setting) (head : Head) : Except Error Tag :=
  (buildTag g head).result >>= g.service.tagCallback

/-- A void tag as it comes to its parent. -/
def voidTag (g : Setting) (head : Head) : Except Error Tag := do
  let t ← (buildTag g head).result
  let t ← t.setVoid true
  let t ← g.service.tagCallback t.close
  g.refineTag t

/-- An open tag with one more child. -/
def grow (g : Setting) (parent child : Tag) : Except Error Tag := do
  let parent ← parent.addChild child
  let parent ← g.service.tagCallback parent
  g.refineTag parent

/-- The document of a body. -/
def assemble (g : Setting) (body : Body) (doctype : Doctype) (version : Version) :
    Except Error Document :=
  g.service.documentCallback (g.service.document body doctype version) >>= g.refineDocument

end Setting

/-- In what respects two scans are alike. -/
structure Likeness where
  opened : Tag → Tag → Prop
  complete : Tag → Tag → Prop
  body : Body → Body → Prop
  document : Document → Document → Prop

/-- What the first setting makes of like things, the second makes too, and it is alike. -/
structure Setting.Alongside (L : Likeness) (g h : Setting) : Prop where
  doctype : h.service.doctype = g.service.doctype
  version : h.service.version = g.service.version
  knows : h.knows = g.knows
  config : g.config.Within h.config
  face : ∀ t u, L.opened t u → t.name = u.name ∧ t.content = u.content
  openTag : ∀ markup head, Head.parse false markup = .ok head →
    Leads L.opened (g.openTag head) (h.openTag head)
  voidTag : ∀ markup head, Head.parse true markup = .ok head →
    Leads L.complete (g.voidTag head) (h.voidTag head)
  grow : ∀ t u a b, L.opened t u → L.complete a b → Leads L.opened (g.grow t a) (h.grow u b)
  line : ∀ t u, L.opened t u → ∀ line, Leads L.opened (t.appendContent line) (u.appendContent line)
  close : ∀ t u, L.opened t u → Leads L.complete (g.refineTag t.close) (h.refineTag u.close)
  push : ∀ b c t u, L.body b c → L.complete t u → L.body (b.push t) (c.push u)
  skip : ∀ b c, L.body b c →
    L.body (if g.config.blankLines = .preserve then b.pushBlank else b)
      (if h.config.blankLines = .preserve then c.pushBlank else c)
  assemble : ∀ b c doctype version, L.body b c →
    Leads L.document (g.assemble b doctype version) (h.assemble c doctype version)

/-- States that are alike, as far as their meters are in some relation. -/
structure State.Alike (L : Likeness) (M : Meter → Meter → Prop) (s t : State) : Prop where
  levels : s.levels.Alike L.opened t.levels
  body : L.body s.body t.body
  doctype : s.doctype = t.doctype
  version : s.version = t.version
  meter : M s.meter t.meter

section
variable {L : Likeness} {M : Meter → Meter → Prop} {g h : Setting} {s t : State}

namespace Setting.Alongside

theorem named (along : g.Alongside L h) (t u : Tag) (related : L.opened t u) : t.name = u.name :=
  (along.face t u related).1

theorem checkKnown (along : g.Alongside L h) (stylesheet : String) (d : Doctype) :
    Leads Eq (checkKnown g stylesheet d).result (checkKnown h stylesheet d).result := by
  intro _ passed
  rw [checkKnown_eq_ok] at passed
  refine ⟨(), checkKnown_eq_ok.2 fun strict => ?_, rfl⟩
  rw [along.knows]
  exact passed (along.config.strictDoctypes strict)

theorem declareVersion (along : g.Alongside L h) (like : s.Alike L M t) (number : String) :
    Leads (State.Alike L M) (declareVersion g s number).result (declareVersion h t number).result := by
  simp only [Scan.declareVersion, Setting.call, Journaled.result_bind, Journaled.result_lift,
    Journaled.result_note, Journaled.result_pure, ok_bind, like.version, along.version]
  refine (leads_self (fun _ => rfl) _).bind fun _ _ _ => leads_ok.2 ?_
  exact ⟨like.levels, like.body, like.doctype, rfl, like.meter⟩

theorem declare (along : g.Alongside L h) (like : s.Alike L M t) (d : Declaration) :
    Leads (State.Alike L M) (declare g s d).result (declare h t d).result := by
  cases d with
  | version number => exact along.declareVersion like number
  | doctype stylesheet =>
    simp only [Scan.declare, Scan.declareDoctype, Setting.call, Journaled.result_bind,
      Journaled.result_lift, Journaled.result_note, Journaled.result_pure, ok_bind, like.doctype,
      along.doctype]
    refine (leads_self (fun _ => rfl) _).bind fun _ _ _ => ?_
    refine (along.checkKnown stylesheet _).bind fun _ _ _ => leads_ok.2 ?_
    exact ⟨like.levels, like.body, rfl, like.version, like.meter⟩

theorem legacy (along : g.Alongside L h) (like : s.Alike L M t) (markup : List Char) :
    Leads (State.Alike L M) (legacy g s markup).result (legacy h t markup).result := by
  simp only [Scan.legacy, Journaled.result_bind, Journaled.result_lift, Journaled.result_noteIf, ok_bind]
  refine (along.config.legacyVersion markup).bind fun number _ same => ?_
  subst same
  exact along.declareVersion like number

theorem attach (along : g.Alongside L h) (like : s.Alike L M t) {a b : Tag} (complete : L.complete a b)
    (indent : Nat) :
    Leads (State.Alike L M) (attach g s a indent).result (attach h t b indent).result := by
  cases indent with
  | zero =>
    refine leads_ok.2 ⟨like.levels, ?_, like.doctype, like.version, like.meter⟩
    exact along.push _ _ _ _ like.body complete
  | succ n =>
    simp only [Scan.attach, Setting.tagCallback, Setting.call, Journaled.result_bind,
      Journaled.result_lift, Journaled.result_note, Journaled.result_pure, ok_bind]
    refine (like.levels.parentAt n).bind fun p q parents => ?_
    simp only [← bind_assoc]
    refine Leads.bind (R := L.opened) ?_ fun p q parents => leads_ok.2 ?_
    · simpa [Setting.grow] using along.grow p q a b parents complete
    · exact ⟨(like.levels.erase n).put n (.opened parents), like.body, like.doctype, like.version,
        like.meter⟩

theorem opening (along : g.Alongside L h) (like : s.Alike L M t) (indent : Nat) (markup : List Char) :
    Leads (State.Alike L M) (opening g s indent markup).result (opening h t indent markup).result := by
  simp only [Scan.opening, Setting.tagCallback, Setting.call, Journaled.result_bind,
    Journaled.result_lift, Journaled.result_note, Journaled.result_pure, ok_bind,
    like.levels.refuseOpenFrom along.named]
  refine (like.levels.requireParent indent).bind fun _ _ _ => ?_
  refine (leads_self (fun _ => rfl) _).bind fun _ _ _ => ?_
  cases parsed : Head.parse false markup with
  | error e => simp
  | ok head =>
    simp only [ok_bind, ← bind_assoc]
    refine (along.openTag markup head parsed).bind fun a b opened => leads_ok.2 ?_
    exact ⟨(like.levels.below indent).put indent (.opened opened), like.body, like.doctype, like.version,
      like.meter⟩

theorem void (along : g.Alongside L h) (like : s.Alike L M t) (indent : Nat) (markup : List Char) :
    Leads (State.Alike L M) (void g s indent markup).result (void h t indent markup).result := by
  simp only [Scan.void, Setting.tagCallback, Setting.call, Journaled.result_bind,
    Journaled.result_lift, Journaled.result_note, ok_bind]
  refine (like.levels.requireParent indent).bind fun _ _ _ => ?_
  cases parsed : Head.parse true markup with
  | error e => simp
  | ok head =>
    have made := along.voidTag markup head parsed
    simp only [Setting.voidTag] at made
    simp only [ok_bind]
    simpa only [bind_assoc] using made.bind fun a b complete => along.attach like complete indent

theorem closing (along : g.Alongside L h) (like : s.Alike L M t) (indent : Nat) (markup : List Char) :
    Leads (State.Alike L M) (closing g s indent markup).result (closing h t indent markup).result := by
  simp only [Scan.closing, Journaled.result_bind, Journaled.result_lift]
  refine (leads_self (fun _ => rfl) _).bind fun name _ same => ?_
  subst same
  refine (like.levels.tagToClose along.named indent name).bind fun a b opened => ?_
  refine (along.close a b opened).bind fun a b complete => ?_
  have like : State.Alike L M
      { s with levels := (s.levels.upTo indent).put indent (.closed name) }
      { t with levels := (t.levels.upTo indent).put indent (.closed name) } :=
    ⟨(like.levels.upTo indent).put indent (.closed name), like.body, like.doctype, like.version,
      like.meter⟩
  exact along.attach like complete indent

theorem content (along : g.Alongside L h) (like : s.Alike L M t) (text : List Char) (indent : Nat) :
    Leads (State.Alike L M) (content g s text indent).result (content h t text indent).result := by
  cases indent with
  | zero => simp [Scan.content]
  | succ n =>
    simp only [Scan.content, Journaled.result_bind, Journaled.result_lift, Journaled.result_pure,
      like.levels.refuseOpenFrom along.named]
    refine (leads_self (fun _ => rfl) _).bind fun _ _ _ => ?_
    refine (like.levels.parentAt n).bind fun a b opened => ?_
    rw [(along.face a b opened).2]
    refine (along.config.checkString _).bind fun _ _ _ => ?_
    refine (along.line a b opened _).bind fun a b opened => leads_ok.2 ?_
    exact ⟨like.levels.put n (.opened opened), like.body, like.doctype, like.version, like.meter⟩

theorem blank (along : g.Alongside L h) (like : s.Alike L M t) :
    (blank g s).Alike L M (blank h t) := by
  have outside := like.levels.firstOpenFrom along.named 0
  have body := along.skip s.body t.body like.body
  unfold Scan.blank
  rw [outside]
  by_cases open? : t.levels.firstOpenFrom 0 = none
  · simp only [open?, and_true]
    by_cases first : g.config.blankLines = .preserve <;>
      by_cases second : h.config.blankLines = .preserve <;>
        simp only [first, second, if_true, if_false] at body ⊢ <;>
          exact ⟨like.levels, body, like.doctype, like.version, like.meter⟩
  · simp only [open?, and_false, if_false]
    exact like

/-- Whatever a line says, it leaves the states alike. -/
theorem byKind (along : g.Alongside L h) (like : s.Alike L M t) (indent : Nat) (kind : Line.Kind) :
    Leads (State.Alike L M) (byKind g s indent kind).result (byKind h t indent kind).result := by
  cases kind with
  | declaration markup =>
    simp only [Scan.byKind, Journaled.result_bind, Journaled.result_lift]
    refine (leads_self (fun _ => rfl) _).bind fun d _ same => ?_
    subst same
    exact along.declare like d
  | legacy markup => exact along.legacy like markup
  | void markup => exact along.void like indent markup
  | closing markup => exact along.closing like indent markup
  | opening markup => exact along.opening like indent markup
  | blank => exact leads_ok.2 (along.blank like)
  | content text => exact along.content like text indent

/-- What both declare they declare alike, and so they end alike. -/
theorem finish (along : g.Alongside L h) (like : s.Alike L M t) :
    Leads L.document (finish g s).result (finish h t).result := by
  have declared : Scan.declared s = Scan.declared t := by
    rw [Scan.declared, Scan.declared, like.doctype, like.version]
  simp only [Scan.finish, Setting.document, Setting.call, Journaled.result_bind, Journaled.result_lift,
    Journaled.result_note, ok_bind, like.levels.refuseOpenFrom along.named, declared]
  refine (leads_self (fun _ => rfl) _).bind fun _ _ _ => ?_
  refine (leads_self (fun _ => rfl) _).bind fun both _ same => ?_
  subst same
  exact along.assemble s.body t.body both.1 both.2 like.body

/-! ### The same lines -/

theorem measure (along : g.Alongside L h) (like : s.Alike L Eq t) (size indent : Nat) :
    Leads (State.Alike L Eq) (measure g s size indent) (measure h t size indent) := by
  intro s' measured
  obtain ⟨small, shallow, rfl⟩ := measure_eq_ok.1 measured
  rw [like.meter] at small
  refine ⟨_, measure_eq_ok.2 ⟨Nat.le_trans small along.config.maxSize,
    Nat.le_trans shallow along.config.maxDepth, rfl⟩, ?_⟩
  exact ⟨like.levels, like.body, like.doctype, like.version, by rw [like.meter]⟩

theorem step (along : g.Alongside L h) (like : s.Alike L Eq t) (numbered : List Char × Nat) :
    Leads (State.Alike L Eq) (step g s numbered).result (step h t numbered).result := by
  obtain ⟨raw, number⟩ := numbered
  simp only [Scan.step, Journaled.result_mapError, Journaled.result_bind, Journaled.result_lift]
  exact ((along.measure like _ _).bind fun s t like => along.byKind like _ _).mapError

/-- What is read from a text under the first setting is read alike under the second. -/
theorem scan (along : g.Alongside L h) (start : L.body g.service.body h.service.body) (text : String) :
    Leads L.document (scan g text).result (scan h text).result := by
  simp only [Scan.scan, Setting.call, Journaled.result_bind, Journaled.result_note,
    Journaled.result_foldl, ok_bind]
  have like : State.Alike L Eq { body := g.service.body } { body := h.service.body } :=
    ⟨.nil, start, rfl, rfl, rfl⟩
  exact (Leads.foldlM (fun s t like l => along.step like l) like _).bind fun s t like =>
    along.finish like

end Setting.Alongside
end
end Scan
end TabMarkup
