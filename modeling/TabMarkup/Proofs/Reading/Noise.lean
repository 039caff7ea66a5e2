import TabMarkup.Proofs.Reading.Permissive
import TabMarkup.Proofs.Text.Noise

/-!
What layout is worth. Blank lines can come and go, and newlines have carriage returns before them, and a
text is read as the same document, but for the blank lines that are remembered in it.
-/
namespace TabMarkup

namespace Scan
open Line
variable {L : Likeness} {g h : Setting} {s t : State} {depth : Nat}

/-! ### Blank lines in one of two scans -/

/-- What blank lines may make of a body. -/
def Setting.Spaces (g : Setting) (b c : Body) : Prop :=
  c = b ∨ g.config.blankLines = .preserve ∧ c = b.pushBlank

theorem blank_spaces (g : Setting) (s : State) :
    ∃ body, g.Spaces s.body body ∧ blank g s = { s with body } := by
  unfold blank
  split
  · rename_i outside
    exact ⟨_, .inr ⟨outside.1, rfl⟩, rfl⟩
  · exact ⟨s.body, .inl rfl, rfl⟩

/-- Bodies stay alike when a blank line is remembered in only one of them. -/
structure Likeness.Loose (L : Likeness) (g h : Setting) : Prop where
  left : ∀ b b' c, g.Spaces b b' → L.body b c → L.body b' c
  right : ∀ b c c', h.Spaces c c' → L.body b c → L.body b c'

theorem step_measured {raw : List Char} {number : Nat} {s' : State} :
    (step g s (raw, number)).result = .ok s' ↔
      ∃ s₁, measure g s (Text.byteLength raw + 1) (classify 0 raw).indent = .ok s₁ ∧
        (byKind g s₁ (classify 0 raw).indent (classify 0 raw).kind).result = .ok s' := by
  simp only [step, Journaled.result_mapError, mapError_eq_ok, Journaled.result_bind,
    Journaled.result_lift, bind_eq_ok]
  rfl

/-- What fits is measured, and the meter counts no more than it is given. -/
theorem measure_of_small {size indent : Nat} (small : s.meter.size + size ≤ g.config.maxSize)
    (shallow : indent ≤ g.config.maxDepth) :
    ∃ meter, meter.size ≤ s.meter.size + size ∧ measure g s size indent = .ok { s with meter } :=
  ⟨⟨indent, min (s.meter.size + size) Meter.top⟩, Nat.min_le_left _ _,
    measure_eq_ok.2 ⟨Nat.le_trans (Nat.min_le_left _ _) small, shallow, rfl⟩⟩

theorem step_skipped {raw : List Char} (skipped : Skipped depth raw) {number : Nat} {s' : State}
    (done : (step g s (raw, number)).result = .ok s') :
    ∃ meter body, g.Spaces s.body body ∧ s' = { s with meter, body } := by
  obtain ⟨s₁, measured, read⟩ := step_measured.1 done
  obtain ⟨-, -, same⟩ := measure_eq_ok.1 measured
  obtain ⟨meter, rfl⟩ : ∃ meter, s₁ = { s with meter } := ⟨_, same⟩
  rw [skipped.1] at read
  cases read
  obtain ⟨body, spaces, same⟩ := blank_spaces g { s with meter }
  exact ⟨meter, body, spaces, same⟩

theorem step_skipped_of_small {raw : List Char} (skipped : Skipped depth raw)
    (deep : depth ≤ g.config.maxDepth) (number : Nat)
    (small : s.meter.size + (Text.byteLength raw + 1) ≤ g.config.maxSize) :
    ∃ meter body, g.Spaces s.body body ∧ meter.size ≤ s.meter.size + (Text.byteLength raw + 1) ∧
      (step g s (raw, number)).result = .ok { s with meter, body } := by
  obtain ⟨meter, less, measured⟩ := measure_of_small small (Nat.le_trans skipped.2 deep)
  obtain ⟨body, spaces, same⟩ := blank_spaces g { s with meter }
  refine ⟨meter, body, spaces, less, step_measured.2 ⟨_, measured, ?_⟩⟩
  rw [skipped.1]
  exact congrArg Except.ok same

/-! ### The same lines but for blank ones -/

/-- What is left of the size that the second scan may measure is enough for its lines. -/
def Affords (h : Setting) (ls : List (List Char)) (_ : Meter) (m : Meter) : Prop :=
  m.size + Text.size ls ≤ h.config.maxSize

theorem affords_cons {raw : List Char} {ls : List (List Char)} {m m' : Meter} :
    Affords h (raw :: ls) m m' ↔
      m'.size + (Text.byteLength raw + 1) + Text.size ls ≤ h.config.maxSize := by
  rw [Affords, Text.size_cons, ← Nat.add_assoc]

namespace Setting.Alongside

theorem step_affording (along : g.Alongside L h) {raw : List Char} {ls : List (List Char)}
    (like : s.Alike L (Affords h (raw :: ls)) t) (n k : Nat) :
    Leads (State.Alike L (Affords h ls)) (Scan.step g s (raw, n)).result
      (Scan.step h t (raw, k)).result := by
  intro s' done
  obtain ⟨s₁, measured, read⟩ := step_measured.1 done
  obtain ⟨-, shallow, same⟩ := measure_eq_ok.1 measured
  obtain ⟨own, rfl⟩ : ∃ meter, s₁ = { s with meter } := ⟨_, same⟩
  have small := affords_cons.1 like.meter
  obtain ⟨meter, less, measured'⟩ := measure_of_small (Nat.le_of_add_right_le small)
    (Nat.le_trans shallow along.config.maxDepth)
  have like' : State.Alike L (Affords h ls) { s with meter := own } { t with meter } :=
    ⟨like.levels, like.body, like.doctype, like.version, Nat.le_trans (Nat.add_le_add_right less _) small⟩
  obtain ⟨t', read', like''⟩ := along.byKind like' _ _ s' read
  exact ⟨t', step_measured.2 ⟨_, measured', read'⟩, like''⟩

theorem steps_spaced (along : g.Alongside L h) (loose : L.Loose g h) (deep : depth ≤ h.config.maxDepth)
    {ls ms : List (List Char)} (spaced : Spaced depth ls ms) {s t : State}
    (like : s.Alike L (Affords h ms) t) (n k : Nat) :
    Leads (State.Alike L (Affords h [])) ((ls.zipIdx n).foldlM (fun s l => (Scan.step g s l).result) s)
      ((ms.zipIdx k).foldlM (fun s l => (Scan.step h s l).result) t) := by
  -- A blank line of only one of the texts moves the scan of that text alone; the numbers of the lines
  -- part ways, but they are in errors only.
  induction spaced generalizing s t n k with
  | nil => exact leads_ok.2 like
  | both raw _ ih =>
    rw [List.zipIdx_cons, List.zipIdx_cons, List.foldlM_cons, List.foldlM_cons]
    exact (along.step_affording like n k).bind fun s t like => ih like (n + 1) (k + 1)
  | left skipped _ ih =>
    intro s' done
    rw [List.zipIdx_cons, List.foldlM_cons] at done
    obtain ⟨s₁, stepped, done⟩ := bind_eq_ok.1 done
    obtain ⟨meter, body, spaces, rfl⟩ := step_skipped skipped stepped
    have like' : State.Alike L (Affords h _) { s with meter, body } t :=
      ⟨like.levels, loose.left _ _ _ spaces like.body, like.doctype, like.version, like.meter⟩
    exact ih like' (n + 1) k s' done
  | @right ls ms raw skipped _ ih =>
    have small := affords_cons.1 like.meter
    obtain ⟨meter, body, spaces, less, stepped⟩ :=
      step_skipped_of_small (s := t) skipped deep k (Nat.le_of_add_right_le small)
    have like' : State.Alike L (Affords h ms) s { t with meter, body } :=
      ⟨like.levels, loose.right _ _ _ spaces like.body, like.doctype, like.version,
        Nat.le_trans (Nat.add_le_add_right less _) small⟩
    rw [List.zipIdx_cons, List.foldlM_cons, stepped, ok_bind]
    exact ih like' n (k + 1)

/-- Texts that are the same but for blank lines are read alike, if the second is within the limits. -/
theorem scan_spaced (along : g.Alongside L h) (loose : L.Loose g h) (deep : depth ≤ h.config.maxDepth)
    (start : L.body g.service.body h.service.body) {text text' : String}
    (spaced : Spaced depth (Text.lines text.toList) (Text.lines text'.toList))
    (small : Text.size (Text.lines text'.toList) ≤ h.config.maxSize) :
    Leads L.document (Scan.scan g text).result (Scan.scan h text').result := by
  simp only [Scan.scan, Setting.call, Journaled.result_bind, Journaled.result_note,
    Journaled.result_foldl, ok_bind]
  have like : State.Alike L (Affords h (Text.lines text'.toList)) { body := g.service.body }
      { body := h.service.body } := ⟨.nil, start, rfl, rfl, by simpa [Affords] using small⟩
  exact (along.steps_spaced loose deep spaced like 1 1).bind fun s t like => along.finish like

end Setting.Alongside
end Scan

/-! ### Documents -/

/-- The documents have the same declarations and the same tags, and are shown in the same way. Between
the tags, blank lines may be remembered in one that are not in the other. -/
structure Document.SameTags (d e : Document) : Prop where
  doctype : d.doctype = e.doctype
  version : d.version = e.version
  tags : d.entries.tags = e.entries.tags
  variant : d.variant = e.variant

/-- Documents are made as the stock service makes them, and are refined by no rule or by the built-in
one. How tags and properties are made and refined is left open. -/
structure Scan.Setting.StockDocuments (g : Setting) : Prop where
  document : g.service.document = Service.standard.document
  documentCallback : g.service.documentCallback = Service.standard.documentCallback
  rules : g.context.refiner.documents = {} ∨ g.context.refiner.documents = Refiner.builtin.documents

namespace Scan.Setting
variable {g : Setting} {config : Config}

/-- What makes a document a singleton is how many tags are in its body. -/
theorem StockDocuments.assemble_eq (stock : g.StockDocuments) :
    ∃ single : Nat → Bool, ∀ b doctype version, g.assemble b doctype version =
      .ok { entries := b, doctype, version, singleton := single b.tags.length } := by
  have assembled (b : Body) (doctype : Doctype) (version : Version) :
      g.assemble b doctype version =
        g.context.refiner.documents.refine { entries := b, doctype, version } := by
    simp only [assemble, stock.document, stock.documentCallback]
    rfl
  rcases stock.rules with none | builtin
  · exact ⟨fun _ => false, fun b doctype version => by rw [assembled, none]; rfl⟩
  · refine ⟨(· == 1), fun b doctype version => ?_⟩
    rw [assembled, builtin, Refiner.refine_document]
    rfl

theorem StockDocuments.assemble_sameTags (stock : g.StockDocuments) {b c : Body} (same : b.tags = c.tags)
    (doctype : Doctype) (version : Version) :
    Leads Document.SameTags (g.assemble b doctype version) (g.assemble c doctype version) := by
  obtain ⟨single, assembled⟩ := stock.assemble_eq
  rw [assembled, assembled, leads_ok]
  exact ⟨rfl, rfl, same, by simp only [Document.variant, same]⟩

/-- Scans of which one may remember blank lines where the other does not. -/
def butBlanks : Likeness := ⟨Eq, Eq, fun b c => b.tags = c.tags, Document.SameTags⟩

theorem alongside_butBlanks (stock : g.StockDocuments) (within : g.config.Within config) :
    g.Alongside butBlanks (g.configured config) := by
  refine Alongside.configured within ?_ ?_ ?_
  · intro b c t same
    rw [Body.tags_push, Body.tags_push, same]
  · intro b c same
    split <;> split <;> simpa only [Body.tags_pushBlank] using same
  · intro b c doctype version same
    exact stock.assemble_sameTags same doctype version

theorem Spaces.tags {b c : Body} (spaces : g.Spaces b c) : c.tags = b.tags := by
  rcases spaces with rfl | ⟨-, rfl⟩
  · rfl
  · exact b.tags_pushBlank

theorem loose_butBlanks (g h : Setting) : butBlanks.Loose g h where
  left _ _ _ spaces same := spaces.tags.trans same
  right _ _ _ spaces same := Eq.trans same spaces.tags.symm

/-- Where blank lines are skipped, they make nothing of a body. -/
theorem loose_skip {h : Setting} {O C D} (first : g.config.blankLines = .skip)
    (second : h.config.blankLines = .skip) : Likeness.Loose ⟨O, C, Eq, D⟩ g h where
  left b b' c spaces same := by
    rcases spaces with rfl | ⟨preserve, -⟩
    · exact same
    · cases first.symm.trans preserve
  right b c c' spaces same := by
    rcases spaces with rfl | ⟨preserve, -⟩
    · exact same
    · cases second.symm.trans preserve

end Scan.Setting

/-! ### Texts -/

/-- A context whose readers make and refine documents in the stock way. -/
def Context.StockDocuments (c : Context) : Prop :=
  ∀ id config, c.reading = .ok id → Scan.Setting.StockDocuments ⟨c, id, config⟩

namespace Context
variable {c : Context} {config a b : Config} {name text text' : String}

theorem Plain.stockDocuments (plain : c.Plain) : c.StockDocuments := by
  intro id config reading
  obtain ⟨id', reading', kind, usable, own, onBegin, onFinish, adopt, same⟩ := plain.reading
  cases reading.symm.trans reading'
  refine ⟨?_, ?_, ?_⟩
  · simp only [Scan.Setting.service, same, Service.standard]
  · simp only [Scan.Setting.service, same, Service.standard]
  · rcases plain.rules with none | builtin
    · exact .inl (by rw [none])
    · exact .inr (by rw [builtin])

theorem readText_spaced (stock : c.StockDocuments)
    (spaced : Line.Spaced config.maxDepth (Text.lines text.toList) (Text.lines text'.toList))
    (small : Text.size (Text.lines text'.toList) ≤ config.maxSize) :
    Leads Document.SameTags (c.readText config name text).result (c.readText config name text').result :=
  readText_leads fun id reading =>
    (Scan.Setting.alongside_butBlanks (stock id config reading) (.self config)).scan_spaced
      (Scan.Setting.loose_butBlanks _ _) (Nat.le_refl _) rfl spaced small

theorem readText_spaced_skip (skip : config.blankLines = .skip)
    (spaced : Line.Spaced config.maxDepth (Text.lines text.toList) (Text.lines text'.toList))
    (small : Text.size (Text.lines text'.toList) ≤ config.maxSize) :
    Leads Eq (c.readText config name text).result (c.readText config name text').result :=
  readText_leads fun id _ =>
    (Scan.Setting.alongside_configured (g := ⟨c, id, config⟩) (.self config) rfl).scan_spaced
      (Scan.Setting.loose_skip skip skip) (Nat.le_refl _) rfl spaced small

/-- Remembering blank lines or not is no matter of what is accepted. -/
theorem readText_blankLines (stock : c.StockDocuments) (within : a.Within b) :
    Leads Document.SameTags (c.readText a name text).result (c.readText b name text).result :=
  readText_leads fun id reading =>
    (Scan.Setting.alongside_butBlanks (stock id a reading) within).scan rfl text

end Context

namespace Reader

theorem text_ofText {config : Config} {name text loaded : String} {s : Storage} :
    (ofText config name text).text s = .ok loaded ↔
      text.utf8ByteSize ≤ config.maxSize ∧ text = loaded := by
  have measured : (ofText config name text).text s =
      (do config.checkSize text.utf8ByteSize; return text) := load_memory
  simp only [measured, bind_eq_ok, Config.checkSize, failIf_eq_ok, pure_eq_ok, Except.ok.injEq,
    decide_eq_false_iff_not, Nat.not_lt]
  constructor
  · rintro ⟨_, small, same⟩
    exact ⟨small, same⟩
  · rintro ⟨small, same⟩
    exact ⟨(), small, same⟩

/-- Texts that are both loaded or not are read alike if they are scanned alike. -/
theorem read_leads {R : Document → Document → Prop} {a b : Config} {c : Context}
    {text text' : String} (name : String) (s : Storage)
    (small : text.utf8ByteSize ≤ a.maxSize → text'.utf8ByteSize ≤ b.maxSize)
    (read : Leads R (c.readText a name text).result (c.readText b name text').result) :
    Leads R ((ofText a name text).read c s).1.result ((ofText b name text').read c s).1.result := by
  have loads : Leads (fun loaded loaded' => loaded = text ∧ loaded' = text')
      ((ofText a name text).text s) ((ofText b name text').text s) := by
    intro loaded done
    obtain ⟨fits, rfl⟩ := text_ofText.1 done
    exact ⟨text', text_ofText.2 ⟨small fits, rfl⟩, rfl, rfl⟩
  rw [result_read_text, result_read_text]
  refine loads.bind ?_
  rintro _ _ ⟨rfl, rfl⟩
  exact read

section
variable {c : Context} {config : Config} {text text' : String} (name : String) (s : Storage)

theorem size_lines_of_ended (ended : Text.Ended text.toList) (small : text.utf8ByteSize ≤ config.maxSize) :
    Text.size (Text.lines text.toList) ≤ config.maxSize := by
  have bytes : text.utf8ByteSize = Text.byteLength text.toList := by
    rw [← Text.utf8ByteSize_ofList, String.ofList_toList]
  exact Nat.le_trans (Text.size_lines_le_of_ended ended) (bytes ▸ small)

/-- A text whose lines are those of another but for blank ones is read like it. -/
theorem read_spaced (stock : c.StockDocuments)
    (spaced : Line.Spaced config.maxDepth (Text.lines text.toList) (Text.lines text'.toList))
    (ended : Text.Ended text'.toList) (small : text'.utf8ByteSize ≤ config.maxSize) :
    Leads Document.SameTags ((ofText config name text).read c s).1.result
      ((ofText config name text').read c s).1.result :=
  read_leads name s (fun _ => small)
    (Context.readText_spaced stock spaced (size_lines_of_ended ended small))

theorem read_spaced_skip (skip : config.blankLines = .skip)
    (spaced : Line.Spaced config.maxDepth (Text.lines text.toList) (Text.lines text'.toList))
    (ended : Text.Ended text'.toList) (small : text'.utf8ByteSize ≤ config.maxSize) :
    Leads Eq ((ofText config name text).read c s).1.result
      ((ofText config name text').read c s).1.result :=
  read_leads name s (fun _ => small)
    (Context.readText_spaced_skip skip spaced (size_lines_of_ended ended small))

theorem read_blankLines (stock : c.StockDocuments) (a b : BlankLines) :
    Leads Document.SameTags ((ofText { config with blankLines := a } name text).read c s).1.result
      ((ofText { config with blankLines := b } name text).read c s).1.result := by
  refine read_leads name s id (Context.readText_blankLines stock ?_)
  exact ⟨Nat.le_refl _, Nat.le_refl _, Nat.le_refl _, Nat.le_refl _, id, id⟩

end

/-- A text is read as it is with blank lines put in and taken out and with carriage returns before its
newlines: the declarations, the tags and the variant are the same, and so is the whole document where
blank lines are skipped. Whether they are skipped or preserved matters to nothing else. -/
theorem read_noisy {c : Context} (stock : c.StockDocuments) (config : Config) (name : String)
    (s : Storage) :
    (∀ text text' : String, Text.Noisy config.maxDepth text.toList text'.toList →
      '\r' ∉ text.toList → text.utf8ByteSize ≤ config.maxSize → text'.utf8ByteSize ≤ config.maxSize →
      ((∃ d, ((ofText config name text).read c s).1.result = .ok d) ↔
        ∃ d, ((ofText config name text').read c s).1.result = .ok d) ∧
      ∀ d d', ((ofText config name text).read c s).1.result = .ok d →
        ((ofText config name text').read c s).1.result = .ok d' →
          d.SameTags d' ∧ (config.blankLines = .skip → d = d')) ∧
    ∀ text : String,
      let skipping := (ofText { config with blankLines := .skip } name text).read c s
      let preserving := (ofText { config with blankLines := .preserve } name text).read c s
      ((∃ d, skipping.1.result = .ok d) ↔ ∃ d, preserving.1.result = .ok d) ∧
      ∀ d d', skipping.1.result = .ok d → preserving.1.result = .ok d' → d.SameTags d' := by
  constructor
  · intro text text' noisy plain small small'
    have spaced := noisy.spaced plain
    obtain ⟨ended, ended'⟩ := noisy.ended
    have there := read_spaced name s stock spaced ended' small'
    have back := read_spaced name s stock spaced.symm ended small
    refine ⟨there.exists_iff back, fun d d' read read' => ⟨there.related read read', fun skip => ?_⟩⟩
    exact (read_spaced_skip name s skip spaced ended' small').related read read'
  · intro text skipping preserving
    have there : Leads _ skipping.1.result preserving.1.result :=
      read_blankLines name s stock .skip .preserve
    have back : Leads _ preserving.1.result skipping.1.result :=
      read_blankLines name s stock .preserve .skip
    exact ⟨there.exists_iff back, fun d d' => there.related⟩

/-- A text with a blank line at its end. -/
def tidy : String := "<!DOCTYPE skd default>\n<!SKD version=\"0.2\">\n<a>\n\tx\n</a>\n\n"

/-- The text without it, but with others, and with carriage returns. -/
def untidy : String :=
  "<!DOCTYPE skd default>\r\n \n<!SKD version=\"0.2\">\n<a>\n\t\u00a0\n\tx\r\n</a>\n"

theorem noisy_untidy {depth : Nat} (room : 0 < depth) :
    Text.Noisy depth tidy.toList untidy.toList := by
  have space : Text.Empty depth [' '] := ⟨List.all_eq_true.1 rfl, Nat.zero_le depth⟩
  have inside : Text.Empty depth ['\t', '\u00a0'] := ⟨List.all_eq_true.1 rfl, room⟩
  have last : Text.Empty depth [] := ⟨List.all_eq_true.1 rfl, Nat.zero_le depth⟩
  have lines : tidy.toList = "<!DOCTYPE skd default>".toList ++ '\n' ::
      ("<!SKD version=\"0.2\">".toList ++ '\n' :: (['<', 'a', '>'] ++ '\n' ::
        (['\t', 'x'] ++ '\n' :: (['<', '/', 'a', '>'] ++ '\n' :: ([] ++ '\n' :: []))))) := by decide
  have lines' : untidy.toList = "<!DOCTYPE skd default>".toList ++ '\r' :: '\n' :: ([' '] ++ '\n' ::
      ("<!SKD version=\"0.2\">".toList ++ '\n' :: (['<', 'a', '>'] ++ '\n' ::
        (['\t', '\u00a0'] ++ '\n' :: (['\t', 'x'] ++ '\r' :: '\n' ::
          (['<', '/', 'a', '>'] ++ '\n' :: [])))))) := by decide
  rw [lines, lines']
  exact .returned (by decide) (.inserted (by decide) space (.line (by decide) (.line (by decide)
    (.inserted (by decide) inside (.returned (by decide) (.line (by decide)
      (.deleted (by decide) last .nil)))))))

theorem read_noisy_untidy :
    ∃ d d', ((ofText { blankLines := .preserve } "notes" tidy).read .standard {}).1.result = .ok d ∧
      ((ofText { blankLines := .preserve } "notes" untidy).read .standard {}).1.result = .ok d' ∧
      d.SameTags d' := by
  have noisy := (read_noisy Context.plain_standard.stockDocuments { blankLines := .preserve } "notes" {}).1
    tidy untidy (noisy_untidy (by decide)) (by decide) (by decide) (by decide)
  have accepted : ∃ d, ((ofText { blankLines := .preserve } "notes" tidy).read .standard {}).1.result =
    .ok d := ⟨_, rfl⟩
  obtain ⟨d, read⟩ := accepted
  obtain ⟨d', read'⟩ := noisy.1.1 ⟨d, read⟩
  exact ⟨d, d', read, read', (noisy.2 d d' read read').1⟩

end Reader
end TabMarkup
