import TabMarkup.Proofs.Reading.Building

/-!
The scan follows the nest. A state holds the levels that its nest fills, so the checks of the
scan are those of the nest, and a scan succeeds on the texts whose marks the nest can follow.
-/
namespace TabMarkup

namespace Nest

/-- The state of a scan at a nest. What was closed above the innermost tag is left there. -/
def state (n : Nest) (left : Option String) (meter : Meter) : Scan.State where
  meter := meter
  levels := .ofFrames n.frames left
  body := n.body
  doctype := n.doctype
  version := n.version

end Nest

def Mark.leaves (left : Option String) : Mark → Option String
  | .opening _ _ => none
  | .closing name => some name
  | _ => left

namespace Scan

variable {g : Setting} {n : Nest} {left : Option String} {m : Meter} {k : Nat}

/-! ### Declarations -/

theorem checkKnown_eq_ok {stylesheet : String} {d : Doctype} {u : Unit} :
    (checkKnown g stylesheet d).result = .ok u ↔
      (g.config.strictDoctypes = true → g.knows d = true) := by
  unfold checkKnown
  by_cases known : g.knows d = true
  · simp [known]
  · by_cases strict : g.config.strictDoctypes = true
    · simp [known, strict, fail]
    · simp [known, strict]

theorem declareVersion_eq_ok (hg : g.Stock) {number : String} {s : State} :
    (declareVersion g (n.state left m) number).result = .ok s ↔
      ∃ n', n.declareVersion ⟨number⟩ = some n' ∧ s = n'.state left m := by
  have made : g.service.version number = ⟨number⟩ := by rw [hg.service]; rfl
  simp only [declareVersion, Setting.call, Journaled.result_bind, Journaled.result_note,
    Journaled.result_lift, Journaled.result_pure, made, ok_bind, bind_eq_ok, failIf_eq_ok,
    Nest.declareVersion_eq_some, Nest.state, Option.isSome_eq_false_iff, Option.isNone_iff_eq_none]
  constructor
  · rintro ⟨_, none, ⟨⟩⟩
    exact ⟨_, ⟨none, rfl⟩, rfl⟩
  · rintro ⟨n', ⟨none, rfl⟩, rfl⟩
    exact ⟨(), none, rfl⟩

theorem declare_eq_ok (hg : g.Stock) {d : Declaration} {s : State} :
    (declare g (n.state left m) d).result = .ok s ↔
      ∃ n', n.declare g d = some n' ∧ s = n'.state left m := by
  cases d with
  | version number => exact declareVersion_eq_ok hg
  | doctype stylesheet =>
    have made : g.service.doctype stylesheet = ⟨stylesheet⟩ := by rw [hg.service]; rfl
    simp only [declare, declareDoctype, Setting.call, Journaled.result_bind, Journaled.result_note,
      Journaled.result_lift, Journaled.result_pure, made, ok_bind, bind_eq_ok, failIf_eq_ok,
      checkKnown_eq_ok, Nest.declare, Nest.declareDoctype_eq_some, Nest.state,
      Option.isSome_eq_false_iff, Option.isNone_iff_eq_none]
    constructor
    · rintro ⟨_, none, _, known, ⟨⟩⟩
      exact ⟨_, ⟨none, known, rfl⟩, rfl⟩
    · rintro ⟨n', ⟨none, known, rfl⟩, rfl⟩
      exact ⟨(), none, (), known, rfl⟩

theorem legacy_eq_ok (hg : g.Stock) {markup : List Char} {s : State} :
    (legacy g (n.state left m) markup).result = .ok s ↔
      ∃ number n', legacyVersion g.config markup = .ok number ∧
        n.declareVersion ⟨number⟩ = some n' ∧ s = n'.state left m := by
  simp only [legacy, Journaled.result_bind, Journaled.result_lift, Journaled.result_noteIf, ok_bind,
    bind_eq_ok, declareVersion_eq_ok hg, exists_and_left]

/-! ### Tags -/

theorem addChild_opened (f : Frame) (t : Tag) : f.opened.addChild t = .ok (f.addChild t).opened := rfl

theorem modify_eq_set {fs : List Frame} (hk : k < fs.length) (t : Tag) :
    fs.modify k (·.addChild t) = fs.set k (fs[k].addChild t) := by
  apply List.ext_getElem?
  intro i
  rw [List.getElem?_modify, List.getElem?_set]
  by_cases hi : k = i
  · subst hi
    simp [hk]
  · simp [hi]

theorem attach_eq_ok (hg : g.Stock) {t : Tag} {s : State} :
    (attach g (n.state left m) t k).result = .ok s ↔
      k ≤ n.frames.length ∧ s = (n.attach t k).state left m := by
  cases k with
  | zero => simp [attach, Nest.attach, Nest.state, eq_comm]
  | succ k =>
    have kept (f : Frame) : g.refineTag f.opened = .ok f.opened := hg.opened f.opened rfl
    by_cases hk : k < n.frames.length
    · have parent : (n.state left m).levels.parentAt k = .ok n.frames[k].opened :=
        Levels.parentAt_eq_ok.2 ⟨_, List.getElem?_eq_getElem hk, rfl⟩
      have back : (Levels.ofFrames n.frames left).put k (.opened (n.frames[k].addChild t).opened) = _ :=
        Levels.put_opened hk _
      simp only [attach, Setting.tagCallback, Setting.call, Journaled.result_bind,
        Journaled.result_note, Journaled.result_lift, Journaled.result_pure, parent,
        addChild_opened, hg.tagCallback, kept, ok_bind, Levels.put_erase]
      have inside : k + 1 ≤ n.frames.length := hk
      simp [Nest.state, back, Nest.attach, modify_eq_set hk, inside, eq_comm]
    · have orphan : ¬ ∃ p, (n.state left m).levels.parentAt k = .ok p := by
        rintro ⟨p, hp⟩
        obtain ⟨f, hf, -⟩ := Levels.parentAt_eq_ok.1 hp
        exact hk (List.getElem?_eq_some_iff.1 hf).1
      constructor
      · intro h
        rw [attach, Journaled.result_bind, bind_eq_ok] at h
        obtain ⟨p, hp, -⟩ := h
        exact absurd ⟨p, hp⟩ orphan
      · exact fun h => absurd h.1 hk

theorem opening_eq_ok (hg : g.Stock) {markup : List Char} {s : State} :
    (opening g (n.state left m) k markup).result = .ok s ↔
      ∃ name pairs n', Mark.readHead false markup = .ok (name, pairs) ∧
        n.opening g.config k name pairs = some n' ∧ s = n'.state none m := by
  simp only [opening, Setting.tagCallback, Setting.call, Journaled.result_bind,
    Journaled.result_note, Journaled.result_lift, Journaled.result_pure, hg.tagCallback, ok_bind,
    bind_eq_ok, Mark.readHead_eq_ok, Nest.state, Levels.requireParent_eq_ok,
    Levels.refuseOpenFrom_eq_ok, Nest.opening_eq_some]
  constructor
  · rintro ⟨_, low, _, high, head, parsed, t, built, ⟨⟩⟩
    obtain ⟨pairs, read, fits, rfl⟩ := (buildTag_eq_ok hg parsed).1 built
    obtain rfl : k = n.frames.length := Nat.le_antisymm low high
    exact ⟨_, _, _, ⟨head, parsed, rfl, read⟩, ⟨rfl, fits, rfl⟩, by rw [Levels.put_below_opened]⟩
  · rintro ⟨name, pairs, n', ⟨head, parsed, rfl, read⟩, ⟨rfl, fits, rfl⟩, rfl⟩
    refine ⟨(), Nat.le_refl _, (), Nat.le_refl _, head, parsed, _,
      (buildTag_eq_ok hg parsed).2 ⟨pairs, read, fits, rfl⟩, ?_⟩
    rw [Levels.put_below_opened]

theorem void_eq_ok (hg : g.Stock) {markup : List Char} {s : State} :
    (void g (n.state left m) k markup).result = .ok s ↔
      ∃ name pairs n', Mark.readHead true markup = .ok (name, pairs) ∧
        n.void g k name pairs = some n' ∧ s = n'.state left m := by
  have emptied (name : String) (pairs : List (String × String)) :
      (Frame.ofHead name pairs).opened.setVoid true =
        .ok { (Frame.ofHead name pairs).opened with void := true } := rfl
  have ended (name : String) (pairs : List (String × String)) :
      Tag.close { (Frame.ofHead name pairs).opened with void := true } = .ofVoid name pairs := rfl
  simp only [void, Setting.tagCallback, Setting.call, Journaled.result_bind,
    Journaled.result_note, Journaled.result_lift, hg.tagCallback, ok_bind, bind_eq_ok,
    Mark.readHead_eq_ok, Nest.void_eq_some]
  constructor
  · rintro ⟨_, low, head, parsed, t, built, u, voided, r, refined, attached⟩
    obtain ⟨pairs, read, fits, rfl⟩ := (buildTag_eq_ok hg parsed).1 built
    rw [emptied] at voided
    cases voided
    rw [ended] at refined
    obtain ⟨inside, rfl⟩ := (attach_eq_ok hg).1 attached
    exact ⟨_, _, _, ⟨head, parsed, rfl, read⟩, ⟨inside, fits, r, refined, rfl⟩, rfl⟩
  · rintro ⟨name, pairs, n', ⟨head, parsed, rfl, read⟩, ⟨inside, fits, r, refined, rfl⟩, rfl⟩
    exact ⟨(), Levels.requireParent_eq_ok.2 inside, head, parsed, _,
      (buildTag_eq_ok hg parsed).2 ⟨pairs, read, fits, rfl⟩, _, emptied _ _, r,
      by rw [ended]; exact refined, (attach_eq_ok hg).2 ⟨inside, rfl⟩⟩

theorem state_put_closed {fs : List Frame} {f : Frame} (hfs : n.frames = fs ++ [f]) (name : String) :
    { n.state left m with
      levels := ((n.state left m).levels.upTo fs.length).put fs.length (.closed name) } =
      ({ n with frames := fs } : Nest).state (some name) m := by
  simp [Nest.state, hfs, Levels.upTo_ofFrames, Levels.put_closed]

theorem closing_eq_ok (hg : g.Stock) {markup : List Char} {s : State} :
    (closing g (n.state left m) k markup).result = .ok s ↔
      ∃ name n', Head.closingName markup = .ok name ∧ n.closing g k name = some n' ∧
        s = n'.state (some name) m := by
  simp only [closing, Journaled.result_bind, Journaled.result_lift, bind_eq_ok]
  refine exists_congr fun name => ?_
  rw [exists_and_left]
  refine and_congr_right fun _ => ?_
  simp only [Nest.closing_eq_some]
  constructor
  · rintro ⟨t, found, r, refined, attached⟩
    obtain ⟨fs, f, hfs, rfl, rfl, rfl⟩ := Levels.tagToClose_eq_ok.1 found
    rw [state_put_closed hfs] at attached
    obtain ⟨-, rfl⟩ := (attach_eq_ok hg).1 attached
    exact ⟨_, ⟨fs, f, r, hfs, rfl, rfl, refined, rfl⟩, rfl⟩
  · rintro ⟨n', ⟨fs, f, r, hfs, rfl, rfl, refined, rfl⟩, rfl⟩
    refine ⟨_, Levels.tagToClose_eq_ok.2 ⟨fs, f, hfs, rfl, rfl, rfl⟩, r, refined, ?_⟩
    rw [state_put_closed hfs]
    exact (attach_eq_ok hg).2 ⟨Nat.le_refl _, rfl⟩

theorem appendContent_opened (f : Frame) (line : String) :
    f.opened.appendContent line = .ok (f.addLine line).opened := rfl

theorem content_eq_ok {text : List Char} {s : State} :
    (content g (n.state left m) text k).result = .ok s ↔
      ∃ n', n.content g.config k (String.ofList text) = some n' ∧ s = n'.state left m := by
  simp only [Nest.content_eq_some]
  cases k with
  | zero => simp [content, fail]
  | succ k =>
    simp only [content, Journaled.result_bind, Journaled.result_lift, Journaled.result_pure,
      bind_eq_ok, Nest.state, Levels.refuseOpenFrom_eq_ok, Levels.parentAt_eq_ok,
      Config.checkString, Config.checkStringLength, failIf_eq_ok, decide_eq_false_iff_not, Nat.not_lt]
    constructor
    · rintro ⟨_, low, t, ⟨f, hf, rfl⟩, _, short, u, added, ⟨⟩⟩
      rw [appendContent_opened] at added
      cases added
      obtain ⟨hk, rfl⟩ := List.getElem?_eq_some_iff.1 hf
      rcases List.eq_nil_or_concat n.frames with none | ⟨fs, f, hfs⟩
      · simp [none] at hk
      · rw [List.concat_eq_append] at hfs
        obtain rfl : k = fs.length := by simp [hfs] at hk low; omega
        simp only [hfs, List.getElem_concat_length] at short ⊢
        refine ⟨_, ⟨fs, f, rfl, rfl, short, rfl⟩, ?_⟩
        rw [Levels.put_opened (by simp)]
        simp
    · rintro ⟨n', ⟨fs, f, hfs, hk, short, rfl⟩, rfl⟩
      obtain rfl : k = fs.length := by omega
      refine ⟨(), by simp [hfs], f.opened, ⟨f, by simp [hfs], rfl⟩, (), short, _,
        appendContent_opened f _, ?_⟩
      rw [Levels.put_opened (by simp [hfs])]
      simp [hfs]

/-! ### Lines -/

theorem blank_state : blank g (n.state left m) = (n.blank g.config).state left m := by
  have open? : (Levels.ofFrames n.frames left).firstOpenFrom 0 = none ↔ n.frames = [] := by
    cases hn : n.frames <;> simp
  unfold blank Nest.blank
  by_cases h : g.config.blankLines = .preserve ∧ n.frames = []
  · have h' : g.config.blankLines = .preserve ∧ (n.state left m).levels.firstOpenFrom 0 = none :=
      ⟨h.1, open?.2 h.2⟩
    rw [if_pos h, if_pos h']
    rfl
  · have h' : ¬ (g.config.blankLines = .preserve ∧ (n.state left m).levels.firstOpenFrom 0 = none) :=
      fun e => h ⟨e.1, open?.1 e.2⟩
    rw [if_neg h, if_neg h']

/-- Whatever a line says, the scan does with its state what the nest does. -/
theorem byKind_eq_ok (hg : g.Stock) {kind : Line.Kind} {s : State} :
    (byKind g (n.state left m) k kind).result = .ok s ↔
      ∃ mark n', Mark.read g.config kind = .ok mark ∧ n.step g (k, mark) = some n' ∧
        s = n'.state (mark.leaves left) m := by
  simp only [exists_and_left]
  cases kind with
  | declaration markup =>
    simp only [byKind, Journaled.result_bind, Journaled.result_lift, bind_eq_ok, declare_eq_ok hg,
      Mark.read, exists_map_eq_ok]
    rfl
  | legacy markup =>
    simp only [byKind, legacy_eq_ok hg, Mark.read, exists_map_eq_ok, exists_and_left]
    rfl
  | void markup =>
    simp only [byKind, void_eq_ok hg, Mark.read, exists_map_eq_ok, exists_and_left, Prod.exists]
    rfl
  | closing markup =>
    simp only [byKind, closing_eq_ok hg, Mark.read, exists_map_eq_ok, exists_and_left]
    rfl
  | opening markup =>
    simp only [byKind, opening_eq_ok hg, Mark.read, exists_map_eq_ok, exists_and_left, Prod.exists]
    rfl
  | blank => simp [byKind, Mark.read, Nest.step, blank_state, Mark.leaves, eq_comm]
  | content text =>
    simp only [byKind, content_eq_ok, Mark.read, Except.ok.injEq, exists_eq_left']
    rfl

theorem measure_eq_ok {s s' : State} {size indent : Nat} :
    measure g s size indent = .ok s' ↔
      min (s.meter.size + size) Meter.top ≤ g.config.maxSize ∧ indent ≤ g.config.maxDepth ∧
        s' = { s with meter := ⟨indent, min (s.meter.size + size) Meter.top⟩ } := by
  simp only [measure, Meter.addSize, Meter.enterLevel, Meter.add, bind_eq_ok, Config.checkSize,
    failIf_eq_ok]
  constructor
  · rintro ⟨_, small, _, entered, ⟨⟩⟩
    split at entered
    · rename_i shallow
      exact ⟨Nat.le_of_not_lt (of_decide_eq_false small), shallow, by rw [if_pos shallow]⟩
    · cases entered
  · rintro ⟨small, shallow, rfl⟩
    exact ⟨(), decide_eq_false (Nat.not_lt.2 small), (), by rw [if_pos shallow],
      by rw [if_pos shallow]; rfl⟩

def meterAfter (m : Meter) (raw : List Char) : Meter :=
  ⟨(Line.classify 0 raw).indent, min (m.size + (Text.byteLength raw + 1)) Meter.top⟩

theorem step_eq_ok (hg : g.Stock) {raw : List Char} {number : Nat} {s : State} :
    (step g (n.state left m) (raw, number)).result = .ok s ↔
      (meterAfter m raw).size ≤ g.config.maxSize ∧
        (Line.classify 0 raw).indent ≤ g.config.maxDepth ∧
        ∃ mark n', Mark.readLine g.config raw = .ok mark ∧ n.step g mark = some n' ∧
          s = n'.state (mark.2.leaves left) (meterAfter m raw) := by
  have metered : { n.state left m with meter := meterAfter m raw } =
      n.state left (meterAfter m raw) := rfl
  simp only [step, Journaled.result_mapError, mapError_eq_ok, Journaled.result_bind,
    Journaled.result_lift, bind_eq_ok, measure_eq_ok]
  constructor
  · rintro ⟨_, ⟨small, shallow, rfl⟩, h⟩
    obtain ⟨mark, n', read, hn, rfl⟩ := (byKind_eq_ok hg).1 (metered ▸ h)
    exact ⟨small, shallow, (_, mark), n', Mark.readLine_eq_ok.2 ⟨rfl, read⟩, hn, rfl⟩
  · rintro ⟨small, shallow, ⟨k, mark⟩, n', read, hn, rfl⟩
    obtain ⟨rfl, said⟩ := Mark.readLine_eq_ok.1 read
    exact ⟨_, ⟨small, shallow, rfl⟩, (byKind_eq_ok hg).2 ⟨mark, n', said, hn, rfl⟩⟩

/-- A scan goes over lines if they are within the limits, can be read, and the nest can follow
their marks. -/
theorem steps_eq_ok (hg : g.Stock) {ls : List (List Char)} {i : Nat} {s : State}
    (hm : m.size ≤ g.config.maxSize) (top : m.size ≤ Meter.top) :
    (ls.zipIdx i).foldlM (fun s l => (step g s l).result) (n.state left m) = .ok s ↔
      (min (m.size + Text.size ls) Meter.top ≤ g.config.maxSize ∧
        ∀ l ∈ ls, (Line.classify 0 l).indent ≤ g.config.maxDepth) ∧
        ∃ marks n', ls.mapM (Mark.readLine g.config) = .ok marks ∧ n.run g marks = some n' ∧
          s = n'.state (marks.foldl (fun left mark => mark.2.leaves left) left)
            (ls.foldl meterAfter m) := by
  induction ls generalizing n left m i with
  | nil =>
    have small : min m.size Meter.top ≤ g.config.maxSize := Nat.le_trans (Nat.min_le_left _ _) hm
    simp [small, eq_comm]
  | cons l ls ih =>
    have size : min ((meterAfter m l).size + Text.size ls) Meter.top =
        min (m.size + Text.size (l :: ls)) Meter.top := by
      simp only [meterAfter, Text.size_cons]
      omega
    have capped : (meterAfter m l).size ≤ Meter.top := Nat.min_le_right _ _
    rw [List.zipIdx_cons, List.foldlM_cons, bind_eq_ok]
    constructor
    · rintro ⟨_, first, rest⟩
      obtain ⟨small, shallow, mark, n₁, read, hn, rfl⟩ := (step_eq_ok hg).1 first
      obtain ⟨⟨small', shallow'⟩, marks, n₂, reads, hn', rfl⟩ := (ih small capped).1 rest
      refine ⟨⟨size ▸ small', ?_⟩, mark :: marks, n₂, ?_, ?_, rfl⟩
      · simpa using ⟨shallow, shallow'⟩
      · simp [List.mapM_cons, read, reads]
      · simp [hn, hn']
    · rintro ⟨⟨small, shallow⟩, marks, n₂, reads, hn, rfl⟩
      rw [List.mapM_cons, bind_eq_ok] at reads
      obtain ⟨mark, read, reads⟩ := reads
      obtain ⟨marks, tail, ⟨⟩⟩ := bind_eq_ok.1 reads
      rw [Nest.run_cons, Option.bind_eq_some_iff] at hn
      obtain ⟨n₁, hn, hn'⟩ := hn
      have first : (meterAfter m l).size ≤ g.config.maxSize := by
        rw [← size] at small
        exact Nat.le_trans (by omega) small
      exact ⟨_, (step_eq_ok hg).2 ⟨first, shallow l (by simp), mark, n₁, read, hn, rfl⟩,
        (ih first capped).2 ⟨⟨size ▸ small, fun l hl => shallow l (by simp [hl])⟩, marks, n₂, tail,
          hn', rfl⟩⟩

/-! ### Whole texts -/

theorem finish_eq_ok (hg : g.Stock) {d : Document} :
    (finish g (n.state left m)).result = .ok d ↔
      ∃ d₀, n.document? = some d₀ ∧ g.refineDocument d₀ = .ok d := by
  have made (b : Body) (doctype : Doctype) (version : Version) :
      g.service.document b doctype version = { entries := b, doctype, version } := by
    rw [hg.service]; rfl
  simp only [finish, Setting.document, Setting.call, Journaled.result_bind, Journaled.result_note,
    Journaled.result_lift, ok_bind, bind_eq_ok, Nest.state, Levels.refuseOpenFrom_eq_ok, made,
    hg.documentCallback, Nat.le_zero, List.length_eq_zero_iff]
  constructor
  · rintro ⟨_, closed, ⟨doctype, version⟩, both, h⟩
    refine ⟨_, ?_, h⟩
    unfold declared at both
    split at both
    · cases both
    · cases both
    · rename_i hd hv
      cases both
      exact Nest.document?_eq_some.2 ⟨closed, hd, hv, rfl, rfl⟩
  · rintro ⟨d₀, hd, h⟩
    obtain ⟨closed, hd, hv, body, single⟩ := Nest.document?_eq_some.1 hd
    refine ⟨(), closed, (d₀.doctype, d₀.version), by simp [declared, hd, hv], ?_⟩
    rw [← body, ← single]
    exact h

/-- A scan succeeds if the text is within the limits, its lines can be read, and the nest can
follow their marks to an end at which nothing is open and both declarations were made. -/
theorem scan_eq_ok (hg : g.Stock) {text : String} {d : Document} :
    (scan g text).result = .ok d ↔
      g.config.Admits (Text.lines text.toList) ∧
        ∃ marks n d₀, Mark.readText g.config text = .ok marks ∧ Nest.run g {} marks = some n ∧
          n.document? = some d₀ ∧ g.refineDocument d₀ = .ok d := by
  have start : ({ body := g.service.body } : State) = ({} : Nest).state none {} := by
    rw [hg.service]; rfl
  simp only [scan, Setting.call, Journaled.result_bind, Journaled.result_note,
    Journaled.result_foldl, ok_bind, start, bind_eq_ok]
  have run (s : State) :=
    @steps_eq_ok g {} none {} hg (Text.lines text.toList) 1 s (Nat.zero_le _) (Nat.zero_le _)
  simp only [run, Nat.zero_add]
  constructor
  · rintro ⟨_, ⟨admitted, marks, n, read, run, rfl⟩, h⟩
    obtain ⟨d₀, hd, h⟩ := (finish_eq_ok hg).1 h
    exact ⟨admitted, marks, n, d₀, read, run, hd, h⟩
  · rintro ⟨admitted, marks, n, d₀, read, run, hd, h⟩
    exact ⟨_, ⟨admitted, marks, n, read, run, rfl⟩, (finish_eq_ok hg).2 ⟨d₀, hd, h⟩⟩

end Scan
end TabMarkup
