import TabMarkup.Proofs.Reading.Faults
import TabMarkup.Proofs.Reading.Limits

/-!
The size of a text, which is measured twice: as a whole when it is loaded, and line by line when it
is read, a byte for the end of each line included. The two differ where the last line has no end.
-/
namespace TabMarkup

namespace Error

/-- At its root the error is about a size. -/
def Oversized (e : Error) : Prop := e.root.fault = .limit .size

theorem oversized_locate (e : Error) (line column : Nat) :
    (e.locate line column).Oversized ↔ e.Oversized := by
  unfold locate
  split
  · rfl
  · simp only [Oversized, root, withLocation]
    cases e.causes.getLast? <;> rfl

@[simp] theorem root_invalid (name : String) (e : Error) :
    (Context.invalid name e).root = e.root := by
  simp [Context.invalid, withCause, root, List.getLast?_cons]

theorem oversized_invalid (name : String) (e : Error) :
    (Context.invalid name e).Oversized ↔ e.Oversized := by
  rw [Oversized, root_invalid, Oversized]

theorem Fresh.not_oversized {e : Error} (h : e.Fresh) : ¬ e.Oversized := by
  simpa [Oversized, root, h.causes] using h.other

end Error

theorem mapError_eq_error {α : Type} {x : Except Error α} {f : Error → Error} {e : Error} :
    x.mapError f = .error e ↔ ∃ e', x = .error e' ∧ f e' = e := by
  cases x with
  | ok a => constructor <;> rintro ⟨_, ⟨⟩, _⟩
  | error e' => simp [Except.mapError]

theorem exists_mapError {α : Type} {x : Except Error α} {f : Error → Error} {P : Error → Prop}
    (same : ∀ e, P (f e) ↔ P e) :
    (∃ e, x.mapError f = .error e ∧ P e) ↔ ∃ e, x = .error e ∧ P e := by
  simp only [mapError_eq_error]
  constructor
  · rintro ⟨_, ⟨e, failed, rfl⟩, h⟩
    exact ⟨e, failed, (same e).1 h⟩
  · rintro ⟨e, failed, h⟩
    exact ⟨f e, ⟨e, failed, rfl⟩, (same e).2 h⟩

/-- A fold fails where the first of its steps does. -/
theorem foldlM_eq_error {α β : Type} {f : β → α → Except Error β} {as : List α} {b : β} {e : Error} :
    as.foldlM f b = .error e ↔
      ∃ pre a post b', as = pre ++ a :: post ∧ pre.foldlM f b = .ok b' ∧ f b' a = .error e := by
  induction as generalizing b with
  | nil => simp
  | cons a as ih =>
    rw [List.foldlM_cons]
    constructor
    · intro h
      cases first : f b a with
      | error e' =>
        rw [first] at h
        cases h
        exact ⟨[], a, as, b, rfl, rfl, first⟩
      | ok b₁ =>
        rw [first, ok_bind] at h
        obtain ⟨pre, a', post, b', rfl, passed, failed⟩ := ih.1 h
        exact ⟨a :: pre, a', post, b', rfl, by simp [List.foldlM_cons, first, passed], failed⟩
    · rintro ⟨pre, a', post, b', split, passed, failed⟩
      cases pre with
      | nil =>
        obtain ⟨rfl, rfl⟩ := List.cons.inj split
        cases passed
        rw [failed, error_bind]
      | cons p pre =>
        obtain ⟨rfl, rfl⟩ := List.cons.inj split
        obtain ⟨b₁, first, passed⟩ := bind_eq_ok.1 (by simpa [List.foldlM_cons] using passed)
        rw [first, ok_bind]
        exact ih.2 ⟨pre, a', post, b', rfl, passed, failed⟩

namespace Scan
variable {g : Setting}

theorem measure_oversized {s : State} {size indent : Nat} :
    (∃ e, measure g s size indent = .error e ∧ e.Oversized) ↔
      g.config.maxSize < min (s.meter.size + size) Meter.top := by
  by_cases large : g.config.maxSize < min (s.meter.size + size) Meter.top
  · have failed : measure g s size indent = .error (.ofFault (.limit .size)) := by
      simp [measure, Meter.addSize, Meter.add, Config.checkSize, failIf, fail, large]
    exact iff_of_true ⟨_, failed, rfl⟩ large
  · refine iff_of_false ?_ large
    rintro ⟨e, failed, oversized⟩
    by_cases shallow : indent ≤ g.config.maxDepth
    · have measured : measure g s size indent = .ok _ :=
        measure_eq_ok.2 ⟨Nat.le_of_not_lt large, shallow, rfl⟩
      cases measured.symm.trans failed
    · have deep : measure g s size indent = .error (.ofFault (.limit .depth)) := by
        simp [measure, Meter.addSize, Meter.enterLevel, Meter.add, Config.checkSize, failIf, fail, large,
          shallow]
      cases deep.symm.trans failed
      cases oversized

theorem step_oversized (hg : g.Stock) (reshaping : g.Reshaping) (s : State) (raw : List Char)
    (number : Nat) :
    (∃ e, (step g s (raw, number)).result = .error e ∧ e.Oversized) ↔
      g.config.maxSize < min (s.meter.size + (Text.byteLength raw + 1)) Meter.top := by
  have oversized := @measure_oversized g s (Text.byteLength raw + 1) (Line.classify number raw).indent
  simp only [step, Journaled.result_mapError]
  rw [exists_mapError fun e => Error.oversized_locate e _ _, Journaled.result_bind, Journaled.result_lift,
    ← oversized]
  cases measured : measure g s (Text.byteLength raw + 1) (Line.classify number raw).indent with
  | error e => rfl
  | ok s' =>
    rw [ok_bind]
    have fresh := fresh_byKind hg reshaping s' (Line.classify number raw).indent
      (Line.classify number raw).kind
    constructor
    · rintro ⟨e, failed, large⟩
      exact absurd large (fresh e failed).not_oversized
    · rintro ⟨e, ⟨⟩, -⟩

/-- Lines that a scan goes over: they are within the limits and can be read, and the nest can follow
their marks. -/
def Passes (g : Setting) (ls : List (List Char)) : Prop :=
  g.config.Admits ls ∧
    ∃ marks n, ls.mapM (Mark.readLine g.config) = .ok marks ∧ Nest.run g {} marks = some n

theorem size_foldl_meterAfter {m : Meter} (capped : m.size ≤ Meter.top) (ls : List (List Char)) :
    (ls.foldl meterAfter m).size = min (m.size + Text.size ls) Meter.top := by
  induction ls generalizing m with
  | nil => simp [capped]
  | cons l ls ih =>
    rw [List.foldl_cons, ih (Nat.min_le_right _ _)]
    simp only [meterAfter, Text.size_cons]
    omega

/-- The state of a scan behind lines that it begins with. -/
def behind (g : Setting) (ls : List (List Char)) : Except Error State :=
  (ls.zipIdx 1).foldlM (fun s l => (step g s l).result) (({} : Nest).state none {})

theorem behind_eq_ok (hg : g.Stock) {ls : List (List Char)} {s : State} :
    behind g ls = .ok s ↔ g.config.Admits ls ∧ ∃ marks n, ls.mapM (Mark.readLine g.config) = .ok marks ∧
      Nest.run g {} marks = some n ∧
        s = n.state (marks.foldl (fun left mark => Mark.leaves left mark.2) none)
          (ls.foldl meterAfter {}) := by
  have steps := @steps_eq_ok g {} none {} hg ls 1 s (Nat.zero_le _) (Nat.zero_le _)
  rw [Nat.zero_add] at steps
  exact steps

theorem passes_iff (hg : g.Stock) {ls : List (List Char)} :
    Passes g ls ↔ ∃ s, behind g ls = .ok s := by
  simp only [behind_eq_ok hg]
  constructor
  · rintro ⟨admitted, marks, n, read, run⟩
    exact ⟨_, admitted, marks, n, read, run, rfl⟩
  · rintro ⟨_, admitted, marks, n, read, run, -⟩
    exact ⟨admitted, marks, n, read, run⟩

theorem meter_of_behind (hg : g.Stock) {ls : List (List Char)} {s : State} (h : behind g ls = .ok s) :
    s.meter.size = min (Text.size ls) Meter.top := by
  obtain ⟨-, marks, n, -, -, rfl⟩ := (behind_eq_ok hg).1 h
  have measured := size_foldl_meterAfter (m := {}) (Nat.zero_le _) ls
  rwa [Nat.zero_add] at measured

theorem behind_concat {pre : List (List Char)} {s : State} (passed : behind g pre = .ok s)
    (l : List Char) : behind g (pre ++ [l]) = (step g s (l, 1 + pre.length)).result := by
  have first : (pre.zipIdx 1).foldlM (fun s l => (step g s l).result) (({} : Nest).state none {}) = .ok s :=
    passed
  rw [behind, List.zipIdx_append, List.foldlM_append, first, ok_bind, List.zipIdx_singleton,
    List.foldlM_cons]
  cases (step g s (l, 1 + pre.length)).result <;> rfl

/-- A scan fails when all lines have been read, or at one of them. -/
theorem scan_eq_error (hg : g.Stock) {text : String} {e : Error} :
    (scan g text).result = .error e ↔
      (∃ s, behind g (Text.lines text.toList) = .ok s ∧ (finish g s).result = .error e) ∨
      ∃ pre l post s, Text.lines text.toList = pre ++ l :: post ∧ behind g pre = .ok s ∧
        (step g s (l, 1 + pre.length)).result = .error e := by
  have start : ({ body := g.service.body } : State) = ({} : Nest).state none {} := by
    rw [hg.service]; rfl
  have scanned : (scan g text).result =
      behind g (Text.lines text.toList) >>= fun s => (finish g s).result := by
    simp only [scan, Setting.call, Journaled.result_bind, Journaled.result_note,
      Journaled.result_foldl, ok_bind, start, behind]
  have split (pre : List (List Char)) (l : List Char) (post : List (List Char)) :
      (pre ++ l :: post).zipIdx 1 =
        pre.zipIdx 1 ++ (l, 1 + pre.length) :: post.zipIdx (1 + pre.length + 1) := by
    rw [List.zipIdx_append, List.zipIdx_cons]
  rw [scanned]
  constructor
  · intro failed
    cases passed : behind g (Text.lines text.toList) with
    | ok s =>
      rw [passed, ok_bind] at failed
      exact .inl ⟨s, rfl, failed⟩
    | error e' =>
      rw [passed, error_bind] at failed
      cases failed
      obtain ⟨before, last, rest, s, places, passed, failed⟩ := foldlM_eq_error.1 passed
      obtain ⟨pre, rest, whole, rfl, tail⟩ := List.zipIdx_eq_append_iff.1 places
      obtain ⟨l, post, rfl, rfl, rfl⟩ := List.zipIdx_eq_cons_iff.1 tail.symm
      exact .inr ⟨pre, l, post, s, whole, passed, failed⟩
  · rintro (⟨s, passed, failed⟩ | ⟨pre, l, post, s, whole, passed, failed⟩)
    · rw [passed, ok_bind, failed]
    · have stopped : behind g (Text.lines text.toList) = .error e :=
        foldlM_eq_error.2 ⟨_, _, _, s, whole ▸ split pre l post, passed, failed⟩
      rw [stopped, error_bind]

/-- A scan stops because of the size at the line with which it is too large, if all before it pass. -/
theorem scan_oversized (hg : g.Stock) (reshaping : g.Reshaping) {text : String} :
    (∃ e, (scan g text).result = .error e ∧ e.Oversized) ↔
      ∃ pre l post, Text.lines text.toList = pre ++ l :: post ∧ Passes g pre ∧
        g.config.maxSize < min (Text.size (pre ++ [l])) Meter.top := by
  have larger (pre : List (List Char)) (l : List Char) :
      min (min (Text.size pre) Meter.top + (Text.byteLength l + 1)) Meter.top =
        min (Text.size (pre ++ [l])) Meter.top := by
    rw [Text.size_append, Text.size_cons, Text.size_nil]
    omega
  constructor
  · rintro ⟨e, failed, oversized⟩
    rcases (scan_eq_error hg).1 failed with ⟨s, -, failed⟩ | ⟨pre, l, post, s, whole, passed, failed⟩
    · -- Nothing at the end speaks of sizes.
      exact absurd oversized (fresh_finish hg reshaping s e failed).not_oversized
    · have large := (step_oversized hg reshaping s l _).1 ⟨e, failed, oversized⟩
      rw [meter_of_behind hg passed, larger] at large
      exact ⟨pre, l, post, whole, (passes_iff hg).2 ⟨s, passed⟩, large⟩
  · rintro ⟨pre, l, post, whole, passes, large⟩
    obtain ⟨s, passed⟩ := (passes_iff hg).1 passes
    rw [← larger, ← meter_of_behind hg passed] at large
    obtain ⟨e, failed, oversized⟩ := (step_oversized hg reshaping s l (1 + pre.length)).2 large
    exact ⟨e, (scan_eq_error hg).2 (.inr ⟨pre, l, post, s, whole, passed, failed⟩), oversized⟩

/-- A text that is no larger than allowed is refused for its size in one case: it is as large as
allowed, and its lines measure one byte more, because its last line has no end for the one that is
counted, and no line has lost a carriage return for it. -/
theorem scan_oversized_of_small (hg : g.Stock) (reshaping : g.Reshaping) {text : String}
    (small : text.utf8ByteSize ≤ g.config.maxSize) :
    (∃ e, (scan g text).result = .error e ∧ e.Oversized) ↔
      text.utf8ByteSize = g.config.maxSize ∧ g.config.maxSize < Meter.top ∧
        ¬ Text.Ended text.toList ∧ ¬ ['\r', '\n'] <:+: text.toList ∧
        Passes g (Text.lines text.toList).dropLast := by
  rw [scan_oversized hg reshaping]
  have bytes : text.utf8ByteSize = Text.byteLength text.toList := by
    rw [← Text.utf8ByteSize_ofList, String.ofList_toList]
  have measured := Text.size_lines_le text.toList
  have exceeded := Text.size_lines_eq_succ_iff text.toList
  rw [bytes] at small ⊢
  constructor
  · rintro ⟨pre, l, post, whole, passes, large⟩
    rw [whole, Text.size_append, Text.size_cons] at measured exceeded
    rw [Text.size_append, Text.size_cons, Text.size_nil] at large
    have last : post = [] := by
      cases post with
      | nil => rfl
      | cons l' post =>
        rw [Text.size_cons] at measured
        omega
    subst last
    rw [Text.size_nil] at measured exceeded
    obtain ⟨unended, unbroken⟩ := exceeded.1 (by omega)
    refine ⟨by omega, by omega, unended, unbroken, ?_⟩
    rwa [whole, List.dropLast_concat]
  · rintro ⟨full, below, unended, unbroken, passes⟩
    have size := exceeded.2 ⟨unended, unbroken⟩
    have ne : Text.lines text.toList ≠ [] := by
      intro none
      rw [none, Text.size_nil] at size
      omega
    have split := List.dropLast_concat_getLast ne
    refine ⟨_, _, [], split.symm, passes, ?_⟩
    rw [split, size]
    omega

end Scan

namespace Reader

/-- A text is accepted when it is loaded if it is no larger than allowed. But reading it is refused for
its size also where it is just as large as allowed, if its last line has no end, no carriage return
is dropped from another, and the scan comes to the last line. -/
theorem read_oversized_iff {context : Context} (plain : context.Plain) (c : Config) (name text : String)
    (s : Storage) :
    (((ofText c name text).init s false).1.result = .ok () ↔ text.utf8ByteSize ≤ c.maxSize) ∧
    ((∃ e, ((ofText c name text).read context s).1.result = .error e ∧ e.root.fault = .limit .size) ↔
      c.maxSize < text.utf8ByteSize ∨
      text.utf8ByteSize = c.maxSize ∧ c.maxSize < Meter.top ∧ ¬ Text.Ended text.toList ∧
        ¬ ['\r', '\n'] <:+: text.toList ∧
        Scan.Passes (context.setting c) (Text.lines text.toList).dropLast) := by
  have loaded : ((ofText c name text).load s false).result =
      (do c.checkSize text.utf8ByteSize; return text) := load_memory
  rw [result_read rfl, loaded, init]
  by_cases large : c.maxSize < text.utf8ByteSize
  · have refused : c.checkSize text.utf8ByteSize = .error (.ofFault (.limit .size)) := by
      simp [Config.checkSize, failIf, fail, large]
    rw [loaded, refused]
    exact ⟨iff_of_false (fun h => by cases h) (Nat.not_le.2 large),
      iff_of_true ⟨_, rfl, rfl⟩ (.inl large)⟩
  · have small : text.utf8ByteSize ≤ c.maxSize := Nat.le_of_not_lt large
    have measured : c.checkSize text.utf8ByteSize = .ok () := by
      simp [Config.checkSize, failIf, large]
    rw [loaded, measured]
    refine ⟨iff_of_true rfl small, ?_⟩
    have scanned := Scan.scan_oversized_of_small (plain.stock_setting c) (plain.reshaping_setting c) small
    rw [← exists_mapError fun e => Error.oversized_invalid (ofText c name text).displayName e,
      ← plain.result_readText] at scanned
    rw [or_iff_right large]
    exact scanned

/-- Where 52 bytes are allowed, a text of 52 bytes without a newline at its end is loaded but not read. -/
theorem read_oversized_unended :
    ((ofText { maxSize := 52 } "notes"
        "<!DOCTYPE skd   default>\n<!SKD version=\"0.2\">\n\n<a />").init {} false).1.result = .ok () ∧
      ∃ e, ((ofText { maxSize := 52 } "notes"
        "<!DOCTYPE skd   default>\n<!SKD version=\"0.2\">\n\n<a />").read .empty {}).1.result = .error e ∧
        e.root.fault = .limit .size := by
  have measured := read_oversized_iff Context.plain_empty { maxSize := 52 } "notes"
    "<!DOCTYPE skd   default>\n<!SKD version=\"0.2\">\n\n<a />" {}
  have passes : Scan.Passes (Context.empty.setting { maxSize := 52 })
      (Text.lines "<!DOCTYPE skd   default>\n<!SKD version=\"0.2\">\n\n<a />".toList).dropLast :=
    ⟨by decide, [(0, .declaration (.doctype "default")), (0, .declaration (.version "0.2")), (0, .blank)],
      _, rfl, rfl⟩
  have free : '\r' ∉ "<!DOCTYPE skd   default>\n<!SKD version=\"0.2\">\n\n<a />".toList := by decide
  exact ⟨measured.1.2 (by decide), measured.2.2 (.inr ⟨by decide, by decide, by decide,
    fun broken => free (broken.subset (by simp)), passes⟩)⟩

end Reader
end TabMarkup
