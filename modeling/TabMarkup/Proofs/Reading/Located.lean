import TabMarkup.Proofs.Reading.Size

/-!
Where a text is at fault. A fault that is found on a line has the place of the first character behind
the tabs of the line, and nothing that follows has a part in it. A fault that is found when all lines
have been read, an open tag or a declaration that is missing, has no place.
-/
namespace TabMarkup

namespace Error

/-- An error with no place and no cause. -/
structure Bare (e : Error) : Prop where
  location : e.location = none
  causes : e.causes = []

theorem Fresh.bare {e : Error} (h : e.Fresh) : e.Bare := ⟨h.location, h.causes⟩

theorem root_of_causes {e : Error} (h : e.causes = []) : e.root = e.toReport := by
  simp [root, h]

theorem Bare.root_locate {e : Error} (h : e.Bare) (line column : Nat) :
    (e.locate line column).root = { e.toReport with location := some ⟨line, column⟩ } := by
  have placed : e.locate line column = e.withLocation line column := by simp [locate, h.location]
  rw [placed]
  exact root_of_causes h.causes

end Error

/-- The tabs of a line are counted before a carriage return is dropped or after it. -/
theorem Line.column_classify (number : Nat) (raw : List Char) :
    (classify number raw).column = (raw.takeWhile (· == '\t')).length + 1 := by
  rw [column, classify, Text.takeWhile_dropReturn rfl]

namespace Scan
variable {g : Setting}

theorem bare_measure (s : State) (size indent : Nat) :
    Fails Error.Bare (measure g s size indent) := by
  have bare (f : Fault) : (Error.ofFault f).Bare := ⟨rfl, rfl⟩
  have entered (m : Meter) : Fails Error.Bare (m.enterLevel indent g.config).1 := by
    unfold Meter.enterLevel
    split <;> simp [bare]
  simp [measure, Meter.addSize, Config.checkSize, bare, entered]

/-- What goes wrong on a line has the place of the line. -/
theorem located_step (hg : g.Stock) (reshaping : g.Reshaping) (s : State) (raw : List Char)
    (number : Nat) :
    Fails (fun e => e.root.location = some ⟨number, (raw.takeWhile (· == '\t')).length + 1⟩)
      (step g s (raw, number)).result := by
  intro e failed
  rw [step, Journaled.result_mapError, Journaled.result_bind, Journaled.result_lift] at failed
  let line := Line.classify number raw
  have bare : Fails Error.Bare (measure g s (Text.byteLength raw + 1) line.indent >>=
      fun s => (byKind g s line.indent line.kind).result) := by
    refine fails_bind.2 ⟨bare_measure s _ _, fun s' _ e failed => ?_⟩
    exact (fresh_byKind hg reshaping s' _ _ e failed).bare
  obtain ⟨e', raised, rfl⟩ := mapError_eq_error.1 failed
  rw [(bare e' raised).root_locate, Line.column_classify]

/-- Faults of a text that ends too early. -/
inductive Unfinished : Fault → Prop where
  | unclosedTag (name : String) : Unfinished (.markup (.unclosedTag name))
  | missingDeclaration (name : String) : Unfinished (.markup (.missingDeclaration name))

theorem unfinished_finish (hg : g.Stock) (reshaping : g.Reshaping) (s : State) :
    Fails (fun e => Unfinished e.fault) (finish g s).result := by
  have closed : Fails (fun e => Unfinished e.fault) (s.levels.refuseOpenFrom 0) := by
    unfold Levels.refuseOpenFrom
    split
    · exact fails_fail.2 (.unclosedTag _)
    · simp
  have both : Fails (fun e => Unfinished e.fault) (declared s) := by
    unfold declared
    split
    · exact fails_fail.2 (.missingDeclaration _)
    · exact fails_fail.2 (.missingDeclaration _)
    · simp
  have refined (d : Document) : Fails (fun e => Unfinished e.fault) (g.refineDocument d) := by
    obtain ⟨singleton, same⟩ := reshaping.documents d
    simp [same]
  simp [finish, Setting.document, Setting.call, hg.documentCallback, closed, both, refined]

/-- A scan that fails has found its fault when all lines had been read, or else on the first line that
it does not pass; and then every text that begins with the same lines has the same fault. -/
theorem scan_located (hg : g.Stock) (reshaping : g.Reshaping) {text : String} {e : Error}
    (failed : (scan g text).result = .error e) :
    (Passes g (Text.lines text.toList) ∧ e.root.location = none ∧ Unfinished e.root.fault) ∨
    ∃ pre l post, Text.lines text.toList = pre ++ l :: post ∧ Passes g pre ∧ ¬ Passes g (pre ++ [l]) ∧
      e.root.location = some ⟨pre.length + 1, (l.takeWhile (· == '\t')).length + 1⟩ ∧
      ∀ (text' : String) (post' : List (List Char)), Text.lines text'.toList = pre ++ l :: post' →
        (scan g text').result = .error e := by
  rcases (scan_eq_error hg).1 failed with
    ⟨s, passed, failed⟩ | ⟨pre, l, post, s, whole, passed, failed⟩
  · have fresh := fresh_finish hg reshaping s e failed
    have unfinished := unfinished_finish hg reshaping s e failed
    rw [Error.root_of_causes fresh.causes]
    exact .inl ⟨(passes_iff hg).2 ⟨s, passed⟩, fresh.location, unfinished⟩
  · have stuck : ¬ Passes g (pre ++ [l]) := by
      rw [passes_iff hg]
      rintro ⟨s', further⟩
      rw [behind_concat passed, failed] at further
      cases further
    have located := located_step hg reshaping s l _ e failed
    rw [Nat.add_comm] at located
    refine .inr ⟨pre, l, post, whole, (passes_iff hg).2 ⟨s, passed⟩, stuck, located, ?_⟩
    intro text' post' whole'
    exact (scan_eq_error hg).2 (.inr ⟨pre, l, post', s, whole', passed, failed⟩)

end Scan

namespace Reader

theorem result_read_ofText {context : Context} (plain : context.Plain) (c : Config) (name text : String)
    (s : Storage) :
    ((ofText c name text).read context s).1.result =
      c.checkSize text.utf8ByteSize >>= fun _ =>
        (Scan.scan (context.setting c) text).result.mapError
          (Context.invalid (ofText c name text).displayName) := by
  have loaded : ((ofText c name text).load s false).result =
      (do c.checkSize text.utf8ByteSize; return text) := load_memory
  rw [result_read rfl, loaded, ← plain.result_readText]
  cases c.checkSize text.utf8ByteSize <;> rfl

/-- A document that is refused as invalid has, at the root, either a fault that was found on a line or
one that was found when all lines had been read. The first has the place of the line, behind its tabs,
and is that of every document that is not too large and begins with the same lines, whatever follows.
The second is a tag that is still open or a declaration that is missing, and it has no place. -/
theorem read_located {context : Context} (plain : context.Plain) {c : Config} {name text : String}
    {s : Storage} {e : Error} (failed : ((ofText c name text).read context s).1.result = .error e)
    (invalid : e.fault = .markup .invalidDocument) :
    (Scan.Passes (context.setting c) (Text.lines text.toList) ∧ e.root.location = none ∧
      Scan.Unfinished e.root.fault) ∨
    ∃ pre l post, Text.lines text.toList = pre ++ l :: post ∧ Scan.Passes (context.setting c) pre ∧
      ¬ Scan.Passes (context.setting c) (pre ++ [l]) ∧
      e.root.location = some ⟨pre.length + 1, (l.takeWhile (· == '\t')).length + 1⟩ ∧
      ∀ (name' text' : String) (s' : Storage) (post' : List (List Char)),
        text'.utf8ByteSize ≤ c.maxSize → Text.lines text'.toList = pre ++ l :: post' →
        ∃ e', ((ofText c name' text').read context s').1.result = .error e' ∧
          e'.fault = .markup .invalidDocument ∧ e'.root = e.root := by
  have checked {text : String} (small : text.utf8ByteSize ≤ c.maxSize) :
      c.checkSize text.utf8ByteSize = .ok () := by
    simp [Config.checkSize, failIf, Nat.not_lt.2 small]
  rw [result_read_ofText plain] at failed
  by_cases small : text.utf8ByteSize ≤ c.maxSize
  · rw [checked small, ok_bind, mapError_eq_error] at failed
    obtain ⟨raised, scanned, rfl⟩ := failed
    rw [Error.root_invalid]
    rcases Scan.scan_located (plain.stock_setting c) (plain.reshaping_setting c) scanned with
      atEnd | ⟨pre, l, post, whole, passes, stuck, located, again⟩
    · exact .inl atEnd
    · refine .inr ⟨pre, l, post, whole, passes, stuck, located, ?_⟩
      intro name' text' s' post' small' whole'
      refine ⟨_, ?_, rfl, Error.root_invalid (ofText c name' text').displayName raised⟩
      rw [result_read_ofText plain, checked small', ok_bind, again text' post' whole']
      rfl
  · -- A text that is too large is not refused as invalid.
    have large : c.checkSize text.utf8ByteSize = .error (.ofFault (.limit .size)) := by
      simp [Config.checkSize, failIf, fail, Nat.lt_of_not_le small]
    rw [large, error_bind] at failed
    cases failed
    cases invalid

def stray : String := "<!DOCTYPE skd default>\n<!SKD version=\"0.2\">\n<a>\n\t\tx\n</a>\n"

/-- The fourth line stands deeper than the tag that is open, and is at fault behind its two tabs. -/
theorem read_located_stray :
    ∃ e, ((ofText {} "notes" stray).read .empty {}).1.result = .error e ∧
      e.root.location = some ⟨4, 3⟩ ∧
      ∃ pre l post, Text.lines stray.toList = pre ++ l :: post ∧ pre.length = 3 ∧
        ∀ (text : String) (post' : List (List Char)), text.utf8ByteSize ≤ 1024 * 1024 →
          Text.lines text.toList = pre ++ l :: post' →
          ∃ e', ((ofText {} "notes" text).read .empty {}).1.result = .error e' ∧ e'.root = e.root := by
  -- What is needed of the error is computed once, so that nothing below unfolds the reading.
  obtain ⟨e, failed, invalid, place⟩ :
      ∃ e, ((ofText {} "notes" stray).read .empty {}).1.result = .error e ∧
        e.fault = .markup .invalidDocument ∧ e.root.location = some ⟨4, 3⟩ := ⟨_, rfl, rfl, rfl⟩
  refine ⟨e, failed, place, ?_⟩
  rcases read_located Context.plain_empty failed invalid with
    ⟨-, none, -⟩ | ⟨pre, l, post, whole, -, -, located, again⟩
  · rw [place] at none
    cases none
  · have third : pre.length = 3 := by
      simpa using congrArg (·.map Location.line) (located.symm.trans place)
    refine ⟨pre, l, post, whole, third, fun text post' small whole' => ?_⟩
    obtain ⟨e', refused, -, same⟩ := again "notes" text {} post' small whole'
    exact ⟨e', refused, same⟩

/-- What is missing when all lines have been read has no place, neither a tag's end nor a declaration. -/
theorem unlocated_at_end :
    (∃ e, ((ofText {} "notes" "<!DOCTYPE skd default>\n<!SKD version=\"0.2\">\n<a>\n").read
        .empty {}).1.result = .error e ∧ e.fault = .markup .invalidDocument ∧
      e.root.fault = .markup (.unclosedTag "a") ∧ e.root.location = none) ∧
    ∃ e, ((ofText {} "notes" "<!DOCTYPE skd default>\n").read .empty {}).1.result = .error e ∧
      e.fault = .markup .invalidDocument ∧ e.root.fault = .markup (.missingDeclaration "SKD") ∧
      e.root.location = none :=
  ⟨⟨_, rfl, rfl, rfl, rfl⟩, ⟨_, rfl, rfl, rfl, rfl⟩⟩

end Reader
end TabMarkup
