import TabMarkup.Proofs.Reading.Contexts

/-!
The grammar of documents. A plain stack of names decides which sequences of marks are accepted,
and a scan succeeds on exactly those of its texts that are within the limits.
-/
namespace TabMarkup

/-- The names of the open tags, the innermost first, and how often each declaration was seen. -/
structure Stack where
  names : List String := []
  doctypes : Nat := 0
  versions : Nat := 0
  deriving DecidableEq, Repr

namespace Stack

def opening (s : Stack) (k : Nat) (name : String) : Option Stack :=
  if k = s.names.length then some { s with names := name :: s.names } else none

def closing (s : Stack) (k : Nat) (name : String) : Option Stack :=
  match s.names with
  | top :: rest => if k = rest.length ∧ name = top then some { s with names := rest } else none
  | [] => none

def step (s : Stack) : Nat × Mark → Option Stack
  | (_, .declaration (.doctype _)) => some { s with doctypes := s.doctypes + 1 }
  | (_, .declaration (.version _)) => some { s with versions := s.versions + 1 }
  | (k, .opening name _) => s.opening k name
  | (k, .void _ _) => if k ≤ s.names.length then some s else none
  | (k, .closing name) => s.closing k name
  | (_, .blank) => some s
  | (k, .content _) => if k = s.names.length ∧ 1 ≤ k then some s else none

def run (s : Stack) (ms : List (Nat × Mark)) : Option Stack := ms.foldlM step s

def finished (s : Stack) : Bool := s.names.isEmpty && s.doctypes == 1 && s.versions == 1

def accepts (ms : List (Nat × Mark)) : Bool := (run {} ms).any finished

theorem finished_iff {s : Stack} :
    s.finished = true ↔ s.names = [] ∧ s.doctypes = 1 ∧ s.versions = 1 := by
  simp only [finished, Bool.and_eq_true, List.isEmpty_iff, beq_iff_eq, and_assoc]

@[simp] theorem run_nil (s : Stack) : s.run [] = some s := rfl

@[simp] theorem run_cons (s : Stack) (m : Nat × Mark) (ms : List (Nat × Mark)) :
    s.run (m :: ms) = (s.step m).bind (·.run ms) := by
  simp [run, List.foldlM_cons]

/-- The names change at one end only, by a tag that is opened or closed at that level. -/
theorem step_cases {s t : Stack} {m : Nat × Mark} (h : s.step m = some t) :
    (t.names = s.names ∧ s.doctypes ≤ t.doctypes ∧ s.versions ≤ t.versions) ∨
      (∃ name pairs, m = (s.names.length, .opening name pairs) ∧
        t = { s with names := name :: s.names }) ∨
      ∃ name, m = (t.names.length, .closing name) ∧ s = { t with names := name :: t.names } := by
  obtain ⟨k, mark⟩ := m
  cases mark with
  | declaration d => cases d <;> (cases h; exact .inl (by simp))
  | opening name pairs =>
    simp only [step, opening] at h
    split at h
    · rename_i level
      cases h
      exact .inr (.inl ⟨name, pairs, by rw [level], rfl⟩)
    · cases h
  | closing name =>
    obtain ⟨names, doctypes, versions⟩ := s
    simp only [step, closing] at h
    split at h
    · rename_i top rest
      split at h
      · rename_i fit
        cases h
        exact .inr (.inr ⟨name, by rw [fit.1], by rw [fit.2]⟩)
      · cases h
    · cases h
  | void name pairs =>
    simp only [step] at h
    split at h
    · cases h; exact .inl (by simp)
    · cases h
  | blank => cases h; exact .inl (by simp)
  | content line =>
    simp only [step] at h
    split at h
    · cases h; exact .inl (by simp)
    · cases h

theorem step_le {s s' : Stack} {m : Nat × Mark} (h : s.step m = some s') :
    s.doctypes ≤ s'.doctypes ∧ s.versions ≤ s'.versions := by
  rcases step_cases h with ⟨-, more⟩ | ⟨name, pairs, -, rfl⟩ | ⟨name, -, rfl⟩
  · exact more
  · exact ⟨Nat.le_refl _, Nat.le_refl _⟩
  · exact ⟨Nat.le_refl _, Nat.le_refl _⟩

theorem run_le {s s' : Stack} {ms : List (Nat × Mark)} (h : s.run ms = some s') :
    s.doctypes ≤ s'.doctypes ∧ s.versions ≤ s'.versions := by
  induction ms generalizing s with
  | nil => cases h; simp
  | cons m ms ih =>
    rw [run_cons, Option.bind_eq_some_iff] at h
    obtain ⟨t, first, rest⟩ := h
    have one := step_le first
    have more := ih rest
    omega

end Stack

/-! ### Limits -/

namespace Mark

/-- How a mark changes the content at an indentation: an opening tag one level above starts it
anew. -/
def addContent (k : Nat) (content : Option String) : Nat × Mark → Option String
  | (j, .opening _ _) => if j + 1 = k then none else content
  | (j, .content line) => if j = k then some (Tag.joinLine content line) else content
  | _ => content

def contentAt (k : Nat) (ms : List (Nat × Mark)) : Option String := ms.foldl (addContent k) none

theorem contentAt_concat (k : Nat) (ms : List (Nat × Mark)) (m : Nat × Mark) :
    contentAt k (ms ++ [m]) = addContent k (contentAt k ms) m := by
  simp [contentAt]

end Mark

/-- The limits on a mark behind others: on its properties, or on the content with its line. -/
def Config.Allows (c : Config) (done : List (Nat × Mark)) : Nat × Mark → Prop
  | (_, .opening _ pairs) | (_, .void _ pairs) => c.Fits pairs
  | (k, .content line) =>
    (Tag.joinLine (Mark.contentAt k done) line).utf8ByteSize ≤ c.maxStringLength
  | _ => True

def Config.AllowsAll (c : Config) (done : List (Nat × Mark)) : List (Nat × Mark) → Prop
  | [] => True
  | m :: ms => c.Allows done m ∧ c.AllowsAll (done ++ [m]) ms

instance (c : Config) (done : List (Nat × Mark)) (m : Nat × Mark) : Decidable (c.Allows done m) :=
  match m with
  | (_, .opening _ pairs) | (_, .void _ pairs) => inferInstanceAs (Decidable (c.Fits pairs))
  | (_, .content _) => inferInstanceAs (Decidable (_ ≤ _))
  | (_, .declaration _) | (_, .closing _) | (_, .blank) => isTrue trivial

instance (c : Config) (done ms : List (Nat × Mark)) : Decidable (c.AllowsAll done ms) :=
  go done ms
where
  go (done : List (Nat × Mark)) : (ms : List (Nat × Mark)) → Decidable (c.AllowsAll done ms)
    | [] => isTrue trivial
    | m :: ms => @instDecidableAnd _ _ _ (go (done ++ [m]) ms)

/-! ### The stack and the nest -/

namespace Nest

def spine (n : Nest) : List (String × Option String) := n.frames.map fun f => (f.name, f.content)

theorem spine_concat {n : Nest} {fs : List Frame} {f : Frame} (hfs : n.frames = fs ++ [f]) :
    n.spine = spine { n with frames := fs } ++ [(f.name, f.content)] := by
  simp [spine, hfs]

@[simp] theorem spine_attach (n : Nest) (t : Tag) (k : Nat) : (n.attach t k).spine = n.spine := by
  cases k with
  | zero => rfl
  | succ k =>
    apply List.ext_getElem?
    intro i
    simp only [spine, attach, List.getElem?_map, List.getElem?_modify]
    by_cases hi : k = i
    · subst hi
      cases n.frames[k]? <;> simp [Frame.addChild]
    · cases n.frames[i]? <;> simp [hi]

/-- The stack of a nest whose content was read from marks. -/
structure Follows (done : List (Nat × Mark)) (n : Nest) (s : Stack) : Prop where
  names : s.names = (n.spine.map Prod.fst).reverse
  contents : ∀ i p, n.spine[i]? = some p → p.2 = Mark.contentAt (i + 1) done
  doctypes : s.doctypes = n.doctype.toList.length
  versions : s.versions = n.version.toList.length

variable {g : Scan.Setting} {done : List (Nat × Mark)} {n n' : Nest} {s s' : Stack} {m : Nat × Mark}

theorem Follows.start : Follows [] {} {} := ⟨rfl, by simp [spine], rfl, rfl⟩

theorem Follows.length_names (h : Follows done n s) : s.names.length = n.frames.length := by
  simp [h.names, spine]

theorem Follows.keep (h : Follows done n s) (same : ∀ k content, Mark.addContent k content m = content)
    (spine : n'.spine = n.spine) (doctype : n'.doctype = n.doctype) (version : n'.version = n.version) :
    Follows (done ++ [m]) n' s where
  names := by rw [spine, h.names]
  contents i p hp := by rw [Mark.contentAt_concat, same, h.contents i p (spine ▸ hp)]
  doctypes := by rw [doctype, h.doctypes]
  versions := by rw [version, h.versions]

theorem Follows.opening {k : Nat} {name : String} {pairs : List (String × String)}
    (h : Follows done n s) (hk : k = n.frames.length) :
    Follows (done ++ [(k, .opening name pairs)])
      { n with frames := n.frames ++ [.ofHead name pairs] } { s with names := name :: s.names } where
  names := by simp [spine, h.names, Frame.ofHead]
  contents i p hp := by
    rw [Mark.contentAt_concat]
    rw [spine_concat rfl] at hp
    rcases getElem?_concat.1 hp with old | ⟨rfl, rfl⟩
    · have low := (List.getElem?_eq_some_iff.1 old).1
      have other : ¬ k = i := by
        simp only [spine, List.length_map] at low
        omega
      simpa [Mark.addContent, other] using h.contents i p old
    · simp [Mark.addContent, hk, spine, Frame.ofHead]
  doctypes := h.doctypes
  versions := h.versions

theorem Follows.closing {k : Nat} {name : String} {fs : List Frame} {f : Frame} {t : Tag}
    (h : Follows done n s) (hfs : n.frames = fs ++ [f]) :
    Follows (done ++ [(k, .closing name)]) (({ n with frames := fs } : Nest).attach t fs.length)
      { s with names := s.names.tail } where
  names := by
    rw [spine_attach, h.names, spine_concat hfs]
    simp
  contents i p hp := by
    rw [spine_attach] at hp
    rw [Mark.contentAt_concat]
    exact h.contents i p (by rw [spine_concat hfs]; exact getElem?_concat.2 (.inl hp))
  doctypes := by rw [(declarations_attach _ _ _).1, h.doctypes]
  versions := by rw [(declarations_attach _ _ _).2, h.versions]

theorem Follows.top {fs : List Frame} {f : Frame} (h : Follows done n s) (hfs : n.frames = fs ++ [f]) :
    f.content = Mark.contentAt (fs.length + 1) done :=
  h.contents fs.length (f.name, f.content) (by simp [spine, hfs])

theorem Follows.names_concat {fs : List Frame} {f : Frame} (h : Follows done n s)
    (hfs : n.frames = fs ++ [f]) : s.names = f.name :: (fs.map (·.name)).reverse := by
  simp [h.names, spine, hfs, Function.comp_def]

theorem Follows.content {line : String} {fs : List Frame} {f : Frame}
    (h : Follows done n s) (hfs : n.frames = fs ++ [f]) :
    Follows (done ++ [(fs.length + 1, .content line)])
      { n with frames := fs ++ [f.addLine line] } s where
  names := by simp [h.names, spine, hfs, Frame.addLine]
  contents i p hp := by
    rw [Mark.contentAt_concat]
    rw [spine_concat rfl] at hp
    rcases getElem?_concat.1 hp with old | ⟨rfl, rfl⟩
    · have low := (List.getElem?_eq_some_iff.1 old).1
      have other : ¬ fs.length = i := by
        simp only [spine, List.length_map] at low
        omega
      have same := h.contents i p (by rw [spine_concat hfs]; exact getElem?_concat.2 (.inl old))
      simpa [Mark.addContent, other] using same
    · have top := h.top hfs
      simp [Mark.addContent, ← top, spine, Frame.addLine]
  doctypes := h.doctypes
  versions := h.versions

/-- A mark that the nest follows is within the limits, and the stack follows it too. -/
theorem Follows.step (h : Follows done n s) (hn : n.step g m = some n') :
    g.config.Allows done m ∧ ∃ s', s.step m = some s' ∧ Follows (done ++ [m]) n' s' := by
  obtain ⟨k, mark⟩ := m
  cases mark with
  | declaration d =>
    refine ⟨trivial, ?_⟩
    cases d with
    | doctype stylesheet =>
      obtain ⟨none, -, rfl⟩ := declareDoctype_eq_some.1 hn
      refine ⟨_, rfl, h.names, ?_, ?_, h.versions⟩
      · exact fun i p hp => by rw [Mark.contentAt_concat]; exact h.contents i p hp
      · simp [h.doctypes, none]
    | version number =>
      obtain ⟨none, rfl⟩ := declareVersion_eq_some.1 hn
      refine ⟨_, rfl, h.names, ?_, h.doctypes, ?_⟩
      · exact fun i p hp => by rw [Mark.contentAt_concat]; exact h.contents i p hp
      · simp [h.versions, none]
  | opening name pairs =>
    obtain ⟨hk, fits, rfl⟩ := opening_eq_some.1 hn
    refine ⟨fits, _, ?_, h.opening hk⟩
    simp [Stack.step, Stack.opening, h.length_names, hk]
  | void name pairs =>
    obtain ⟨hk, fits, t, -, rfl⟩ := void_eq_some.1 hn
    refine ⟨fits, s, by simp [Stack.step, h.length_names, hk], h.keep (fun _ _ => rfl) (by simp) ?_ ?_⟩
    · exact (declarations_attach n t k).1
    · exact (declarations_attach n t k).2
  | closing name =>
    obtain ⟨fs, f, t, hfs, rfl, rfl, -, rfl⟩ := closing_eq_some.1 hn
    refine ⟨trivial, _, ?_, h.closing hfs⟩
    have names := h.names_concat hfs
    simp [Stack.step, Stack.closing, names]
  | blank =>
    refine ⟨trivial, s, rfl, ?_⟩
    cases hn
    unfold Nest.blank
    split <;> exact h.keep (fun _ _ => rfl) rfl rfl rfl
  | content line =>
    obtain ⟨fs, f, hfs, rfl, short, rfl⟩ := content_eq_some.1 hn
    refine ⟨?_, s, ?_, h.content hfs⟩
    · rw [h.top hfs] at short
      exact short
    · simp [Stack.step, h.length_names, hfs]

theorem eq_none_of_length {α : Type} {o : Option α} (h : o.toList.length + 1 ≤ 1) : o = none := by
  cases o with
  | none => rfl
  | some a => simp at h

theorem Follows.closing_back {k : Nat} {name : String} (h : Follows done n s) (hg : g.Reshaping)
    (hs : s.closing k name = some s') : ∃ n', n.closing g k name = some n' := by
  unfold Stack.closing at hs
  split at hs
  · rename_i top rest names
    split at hs
    · rename_i fit
      rcases List.eq_nil_or_concat n.frames with none | ⟨fs, f, hfs⟩
      · simp [h.names, spine, none] at names
      · rw [List.concat_eq_append] at hfs
        obtain ⟨rfl, rfl⟩ := List.cons.inj (names.symm.trans (h.names_concat hfs))
        obtain ⟨shape, ht⟩ := hg.tags f.closed
        exact ⟨_, closing_eq_some.2 ⟨fs, f, _, hfs, by simpa using fit.1, fit.2.symm, ht, rfl⟩⟩
    · cases hs
  · cases hs

theorem Follows.content_back {k : Nat} {line : String} (h : Follows done n s)
    (within : g.config.Allows done (k, .content line)) (inner : k = n.frames.length) (outer : 1 ≤ k) :
    ∃ n', n.content g.config k line = some n' := by
  rcases List.eq_nil_or_concat n.frames with none | ⟨fs, f, hfs⟩
  · simp only [none, List.length_nil] at inner
    omega
  · rw [List.concat_eq_append] at hfs
    have hk : k = fs.length + 1 := by simpa [hfs] using inner
    refine ⟨_, content_eq_some.2 ⟨fs, f, hfs, hk, ?_, rfl⟩⟩
    rw [h.top hfs, ← hk]
    exact within

/-- A mark within the limits that the stack follows is followed by the nest, as long as there is
no second declaration. -/
theorem Follows.step_back (h : Follows done n s) (hg : g.Reshaping)
    (lenient : g.config.strictDoctypes = false) (within : g.config.Allows done m)
    (hs : s.step m = some s') (once : s'.doctypes ≤ 1 ∧ s'.versions ≤ 1) :
    ∃ n', n.step g m = some n' := by
  obtain ⟨k, mark⟩ := m
  cases mark with
  | declaration d =>
    cases d with
    | doctype stylesheet =>
      cases hs
      have none : n.doctype = none := eq_none_of_length (h.doctypes ▸ once.1)
      exact ⟨_, declareDoctype_eq_some.2 ⟨none, by simp [lenient], rfl⟩⟩
    | version number =>
      cases hs
      have none : n.version = none := eq_none_of_length (h.versions ▸ once.2)
      exact ⟨_, declareVersion_eq_some.2 ⟨none, rfl⟩⟩
  | opening name pairs =>
    simp only [Stack.step, Stack.opening] at hs
    split at hs
    · rename_i hk
      exact ⟨_, opening_eq_some.2 ⟨by rw [hk, h.length_names], within, rfl⟩⟩
    · cases hs
  | void name pairs =>
    simp only [Stack.step] at hs
    split at hs
    · rename_i hk
      obtain ⟨shape, ht⟩ := hg.tags (.ofVoid name pairs)
      exact ⟨_, void_eq_some.2 ⟨by rwa [h.length_names] at hk, within, _, ht, rfl⟩⟩
    · cases hs
  | closing name => exact h.closing_back hg hs
  | blank => exact ⟨_, rfl⟩
  | content line =>
    simp only [Stack.step] at hs
    split at hs
    · rename_i fit
      exact h.content_back within (by rw [fit.1, h.length_names]) fit.2
    · cases hs

theorem Follows.run {ms : List (Nat × Mark)} (h : Follows done n s) (hn : n.run g ms = some n') :
    g.config.AllowsAll done ms ∧ ∃ s', s.run ms = some s' ∧ Follows (done ++ ms) n' s' := by
  induction ms generalizing done n s with
  | nil =>
    cases hn
    exact ⟨trivial, s, rfl, by simpa using h⟩
  | cons m ms ih =>
    rw [run_cons, Option.bind_eq_some_iff] at hn
    obtain ⟨n₁, first, rest⟩ := hn
    obtain ⟨allowed, s₁, hs, h₁⟩ := h.step first
    obtain ⟨allowed', s', hs', h'⟩ := ih h₁ rest
    exact ⟨⟨allowed, allowed'⟩, s', by simp [hs, hs'], by simpa using h'⟩

theorem Follows.run_back {ms : List (Nat × Mark)} (h : Follows done n s) (hg : g.Reshaping)
    (lenient : g.config.strictDoctypes = false) (within : g.config.AllowsAll done ms)
    (hs : s.run ms = some s') (once : s'.doctypes ≤ 1 ∧ s'.versions ≤ 1) :
    ∃ n', n.run g ms = some n' := by
  induction ms generalizing done n s with
  | nil => exact ⟨n, rfl⟩
  | cons m ms ih =>
    rw [Stack.run_cons, Option.bind_eq_some_iff] at hs
    obtain ⟨s₁, first, rest⟩ := hs
    have less := Stack.run_le rest
    obtain ⟨n₁, hn⟩ := h.step_back hg lenient within.1 first ⟨by omega, by omega⟩
    obtain ⟨-, s₁', hs₁, h₁⟩ := h.step hn
    obtain rfl : s₁ = s₁' := Option.some.inj (first.symm.trans hs₁)
    obtain ⟨n', hn'⟩ := ih h₁ within.2 rest
    exact ⟨n', by simp [hn, hn']⟩

theorem Follows.finished (h : Follows done n s) :
    s.finished = true ↔ ∃ d, n.document? = some d := by
  simp only [Stack.finished_iff, h.doctypes, h.versions, h.names, document?_eq_some]
  constructor
  · rintro ⟨closed, doctype, version⟩
    cases hd : n.doctype with
    | none => simp [hd] at doctype
    | some d =>
      cases hv : n.version with
      | none => simp [hv] at version
      | some v => exact ⟨{ entries := n.body, doctype := d, version := v },
          by simpa [spine] using closed, rfl, rfl, rfl, rfl⟩
  · rintro ⟨d, closed, doctype, version, -, -⟩
    simp [spine, closed, doctype, version]

end Nest

/-! ### Acceptance -/

theorem Scan.accepts_of_scan {g : Scan.Setting} (hg : g.Stock) {text : String} {d : Document}
    (h : (scan g text).result = .ok d) :
    g.config.Admits (Text.lines text.toList) ∧
      ∃ marks, Mark.readText g.config text = .ok marks ∧ g.config.AllowsAll [] marks ∧
        Stack.accepts marks = true := by
  obtain ⟨admitted, marks, n, d₀, read, run, hd, -⟩ := (scan_eq_ok hg).1 h
  obtain ⟨allowed, s, hs, h⟩ := Nest.Follows.start.run run
  exact ⟨admitted, marks, read, allowed, by simp [Stack.accepts, hs, h.finished.2 ⟨d₀, hd⟩]⟩

theorem Scan.scan_iff_accepts {g : Scan.Setting} (hg : g.Stock) (reshaping : g.Reshaping)
    (lenient : g.config.strictDoctypes = false) {text : String} :
    (∃ d, (scan g text).result = .ok d) ↔
      g.config.Admits (Text.lines text.toList) ∧
        ∃ marks, Mark.readText g.config text = .ok marks ∧ g.config.AllowsAll [] marks ∧
          Stack.accepts marks = true := by
  constructor
  · rintro ⟨d, h⟩
    exact accepts_of_scan hg h
  · rintro ⟨admitted, marks, read, allowed, accepted⟩
    obtain ⟨s, hs, done⟩ := (Option.any_eq_true _ _).1 accepted
    obtain ⟨-, doctypes, versions⟩ := Stack.finished_iff.1 done
    obtain ⟨n, run⟩ := Nest.Follows.start.run_back reshaping lenient allowed hs ⟨by omega, by omega⟩
    obtain ⟨-, s', hs', h⟩ := Nest.Follows.start.run run
    obtain rfl : s = s' := Option.some.inj (hs.symm.trans hs')
    obtain ⟨d₀, hd⟩ := h.finished.1 done
    obtain ⟨singleton, refined⟩ := reshaping.documents d₀
    exact ⟨_, (scan_eq_ok hg).2 ⟨admitted, marks, n, d₀, read, run, hd, refined⟩⟩

/-- In the empty and in the standard context a text is read if and only if its lines are valid,
it is within the limits, and the plain stack accepts its marks. -/
theorem Context.readText_iff_accepts {context : Context} (known : context = empty ∨ context = standard)
    {c : Config} (strict : c.strictDoctypes = false) (name text : String) :
    (∃ d, (context.readText c name text).result = .ok d) ↔
      ∃ marks, Mark.readText c text = .ok marks ∧
        (c.Admits (Text.lines text.toList) ∧ c.AllowsAll [] marks) ∧ Stack.accepts marks = true := by
  have reordered (scanned : Prop) (h : scanned ↔ c.Admits (Text.lines text.toList) ∧
      ∃ marks, Mark.readText c text = .ok marks ∧ c.AllowsAll [] marks ∧ Stack.accepts marks = true) :
      scanned ↔ ∃ marks, Mark.readText c text = .ok marks ∧
        (c.Admits (Text.lines text.toList) ∧ c.AllowsAll [] marks) ∧ Stack.accepts marks = true := by
    rw [h]
    constructor
    · rintro ⟨admitted, marks, read, allowed, accepted⟩
      exact ⟨marks, read, ⟨admitted, allowed⟩, accepted⟩
    · rintro ⟨marks, read, ⟨admitted, allowed⟩, accepted⟩
      exact ⟨admitted, marks, read, allowed, accepted⟩
  rcases known with rfl | rfl
  · simp only [readText_empty]
    exact reordered _ (Scan.scan_iff_accepts (Scan.Setting.stock_plain c)
      (Scan.Setting.reshaping_plain c) strict)
  · simp only [readText_standard]
    exact reordered _ (Scan.scan_iff_accepts (Scan.Setting.stock_refining c)
      (Scan.Setting.reshaping_refining c) strict)

theorem Context.readText_notes :
    ({} : Config).strictDoctypes = false ∧ ∃ d, (standard.readText {} "notes"
      "<!DOCTYPE skd notes>\n<SKD version=\"0.2\">\n<a>\n\tone\n\t<b />\n</a>\n").result = .ok d := by
  refine ⟨rfl, (readText_iff_accepts (.inr rfl) rfl _ _).2
    ⟨[(0, .declaration (.doctype "notes")), (0, .declaration (.version "0.2")), (0, .opening "a" []),
      (1, .content "one"), (1, .void "b" []), (0, .closing "a")], rfl, ⟨?_, ?_⟩, rfl⟩⟩
  · decide
  · decide

end TabMarkup
