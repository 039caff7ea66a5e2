import TabMarkup.Proofs.Writing.Rereading

/-!
Accepted documents. Whatever is read can be written again: the marks of its lines hold names,
pairs and lines of content that are legible, and a nest puts nothing else into a document.
-/
namespace TabMarkup

/-! ### Marks of lines -/

theorem Line.mem_of_mem_text {body : List Char} {c : Char} (h : c ∈ (kindOf body).text) :
    c ∈ body := by
  have markup : c ∈ Text.trimEnd body → c ∈ body := Text.mem_of_mem_trimEnd
  simp only [kindOf] at h
  split at h
  · exact markup h
  · split at h
    · exact markup h
    · split at h
      · split at h
        · exact markup h
        · split at h
          · exact markup h
          · exact markup h
      · split at h
        · cases h
        · exact h

namespace Mark

def Lexical : Mark → Prop
  | .declaration d => d.Written ∧ '\n' ∉ d.value.toList
  | .opening name pairs | .void name pairs => IsHead name pairs
  | .closing name => Text.Solid name.toList
  | .blank => True
  | .content text => IsContentLine text.toList ∧ '\n' ∉ text.toList

theorem isHead_of_readHead {void : Bool} {markup : List Char} {name : String}
    {pairs : List (String × String)} (h : readHead void markup = .ok (name, pairs))
    (declared : ¬ ['<', '!'] <+: markup) (line : '\n' ∉ markup) : IsHead name pairs := by
  obtain ⟨head, parsed, rfl, listed⟩ := readHead_eq_ok.1 h
  have chars : ∀ c, c ∈ head.name.toList ∨ c ∈ head.properties → c ∈ markup :=
    fun c hc => Head.mem_of_parse parsed hc
  refine ⟨Head.isTagName_of_parse parsed, ?_, fun mem => line (chars _ (.inl mem)), ?_⟩
  · intro first
    obtain ⟨rest, rfl⟩ := Head.eq_of_parse parsed
    obtain ⟨cs, hcs⟩ := List.head?_eq_some_iff.1 first
    exact declared ⟨cs ++ rest, by simp [hcs]⟩
  · intro p hp
    obtain ⟨key, value, held⟩ := mem_of_parseProperties listed p hp
    exact ⟨⟨key, value⟩, fun mem => line (chars _ (.inr (held _ (.inl mem)))),
      fun mem => line (chars _ (.inr (held _ (.inr mem))))⟩

theorem lexical_version {number : String} (h : number ∈ Scan.legacyVersions) :
    (Mark.declaration (.version number)).Lexical := by
  simp only [Scan.legacyVersions, List.mem_cons, List.not_mem_nil, or_false] at h
  rcases h with rfl | rfl | rfl <;>
    exact ⟨by simp [Declaration.Written, IsValue], by simp [Declaration.value]⟩

theorem lexical_of_read {c : Config} {body : List Char} {m : Mark}
    (h : read c (Line.kindOf body) = .ok m)
    (tab : body.head? ≠ some '\t') (line : '\n' ∉ body) : m.Lexical := by
  have held : '\n' ∉ (Line.kindOf body).text := fun mem => line (Line.mem_of_mem_text mem)
  cases kind : Line.kindOf body with
  | declaration markup =>
    rw [kind] at h held
    obtain ⟨d, parsed, rfl⟩ := map_eq_ok.1 h
    obtain ⟨written, chars⟩ := Declaration.written_of_parse parsed
    exact ⟨written, fun mem => held (chars _ mem)⟩
  | legacy markup =>
    rw [kind] at h
    obtain ⟨number, known, rfl⟩ := map_eq_ok.1 h
    exact lexical_version (Declaration.legacyVersion_eq_ok known)
  | void markup =>
    rw [kind] at h held
    obtain ⟨⟨name, pairs⟩, head, rfl⟩ := map_eq_ok.1 h
    exact isHead_of_readHead head (Line.eq_of_kindOf_head (.inl kind)).2 held
  | closing markup =>
    rw [kind] at h
    obtain ⟨name, closes, rfl⟩ := map_eq_ok.1 h
    exact (Head.closingName_eq_ok.1 closes).2.2
  | opening markup =>
    rw [kind] at h held
    obtain ⟨⟨name, pairs⟩, head, rfl⟩ := map_eq_ok.1 h
    exact isHead_of_readHead head (Line.eq_of_kindOf_head (.inr kind)).2 held
  | blank =>
    rw [kind] at h
    cases h
    trivial
  | content text =>
    rw [kind] at h
    cases h
    obtain ⟨rfl, bracket, solid⟩ := Line.eq_of_kindOf_content kind
    simp only [Lexical, String.toList_ofList]
    exact ⟨⟨solid, tab, bracket⟩, line⟩

theorem lexical_of_readLine {c : Config} {raw : List Char} {m : Nat × Mark} (h : readLine c raw = .ok m)
    (line : '\n' ∉ raw) : m.2.Lexical := by
  obtain ⟨-, said⟩ := readLine_eq_ok.1 h
  obtain ⟨body, split, tab, kind⟩ := Line.dropReturn_eq_of_classify 0 raw
  rw [kind] at said
  refine lexical_of_read said tab fun mem => line (Text.mem_of_mem_dropReturn ?_)
  rw [split]
  exact List.mem_append_right _ mem

theorem lexical_of_readText {c : Config} {text : String} {ms : List (Nat × Mark)}
    (h : readText c text = .ok ms) : ∀ m ∈ ms, m.2.Lexical := by
  intro m hm
  obtain ⟨l, hl, read⟩ := exists_of_mapM h m hm
  exact lexical_of_readLine read (Text.newline_not_mem_of_mem_lines hl)

theorem depth_of_readText {c : Config} {text : String} {ms : List (Nat × Mark)}
    (h : readText c text = .ok ms) (admitted : c.Admits (Text.lines text.toList)) :
    ∀ m ∈ ms, m.1 ≤ c.maxDepth := by
  intro m hm
  obtain ⟨l, hl, read⟩ := exists_of_mapM h m hm
  exact (readLine_eq_ok.1 read).1 ▸ admitted.2 l hl

end Mark

/-! ### Nests -/

theorem Property.pairs_ofPairs (pairs : List (String × String)) :
    (ofPairs pairs).map pair = pairs.eraseDups := by
  have same : pair ∘ (fun p : String × String => { name := p.1, value := some p.2 }) = id := rfl
  rw [ofPairs, List.map_map, same, List.map_id]

namespace Tag

theorem pieces_joinLine {content : Option String} {line : String} (newline : '\n' ∉ line.toList) :
    Text.pieces '\n' (joinLine content line).toList =
      content.toList.flatMap (fun text => Text.pieces '\n' text.toList) ++ [line.toList] := by
  cases content with
  | none => simp [joinLine, Text.pieces_of_not_mem newline]
  | some text =>
    have cut := Text.pieces_append '\n' text.toList line.toList
    rw [Text.pieces_of_not_mem newline] at cut
    simpa [joinLine] using cut

/-- Neither the shape of a tag matters nor whether it is closed. -/
theorem Sound.finish {c : Config} {k : Nat} {t : Tag} (h : t.Everywhere (Sound c) k) (closed : Bool)
    (shape : Shape) : Everywhere (Sound c) k { t with closed, shape } := by
  obtain ⟨⟨legible, holds⟩, inside⟩ := h
  exact .intro ⟨⟨legible.toIsHead, legible.valued, legible.distinct, legible.content, legible.solid,
    legible.void⟩, holds.depth, holds.inner, holds.fits, holds.content⟩ inside

theorem sound_ofPairs {c : Config} {k : Nat} {name : String} {pairs : List (String × String)}
    {void closed : Bool} (head : IsHead name pairs) (depth : k ≤ c.maxDepth) (fits : c.Fits pairs)
    (solid : void = false → Text.Solid name.toList) :
    Everywhere (Sound c) k { name, properties := Property.ofPairs pairs, void, closed } := by
  have shown : Tag.pairs { name, properties := Property.ofPairs pairs, void, closed } =
      pairs.eraseDups :=
    Property.pairs_ofPairs pairs
  have kept : ∀ p ∈ pairs.eraseDups, p ∈ pairs := fun p hp => List.mem_eraseDups.1 hp
  have legible : Legible { name, properties := Property.ofPairs pairs, void, closed } := by
    refine ⟨⟨head.name, head.plain, head.line, ?_⟩, ?_, ?_, by simp, solid, fun _ => ⟨rfl, rfl⟩⟩
    · rw [shown]
      exact fun p hp => head.pairs p (kept p hp)
    · intro p hp
      obtain ⟨q, -, rfl⟩ := List.mem_map.1 hp
      rfl
    · rw [shown]
      exact nodup_eraseDups pairs
  have holds : c.Holds k { name, properties := Property.ofPairs pairs, void, closed } := by
    refine ⟨depth, by simp, ?_, by simp⟩
    rw [shown]
    exact ⟨Nat.le_trans (eraseDups_sublist pairs).length_le fits.1, fun p hp => fits.2 p (kept p hp)⟩
  exact .intro ⟨legible, holds⟩ (by simp)

end Tag

/-- An open tag lacks nothing but a name without blanks, which its closing tag will show. -/
def Frame.Sound (c : Config) (k : Nat) (f : Frame) : Prop :=
  Text.Solid f.name.toList → f.opened.Everywhere (Tag.Sound c) k

namespace Frame.Sound
variable {c : Config} {k : Nat} {f : Frame}

theorem addChild (h : f.Sound c k) {t : Tag} (ht : t.Everywhere (Tag.Sound c) (k + 1)) :
    (f.addChild t).Sound c k := by
  intro solid
  obtain ⟨⟨legible, holds⟩, inside⟩ := h solid
  refine .intro ⟨⟨legible.toIsHead, legible.valued, legible.distinct, legible.content,
    legible.solid, ?_⟩, holds.depth, holds.inner, holds.fits, holds.content⟩ ?_
  · intro void
    cases void
  · intro u hu
    rcases List.mem_append.1 hu with hu | hu
    · exact inside u hu
    · exact List.mem_singleton.1 hu ▸ ht

theorem addLine (h : f.Sound c k) {line : String} (legibleLine : IsContentLine line.toList)
    (newline : '\n' ∉ line.toList) (inner : k + 1 ≤ c.maxDepth)
    (short : (Tag.joinLine f.content line).utf8ByteSize ≤ c.maxStringLength) :
    (f.addLine line).Sound c k := by
  intro solid
  obtain ⟨⟨legible, holds⟩, inside⟩ := h solid
  refine .intro ⟨⟨legible.toIsHead, legible.valued, legible.distinct, ?_, legible.solid, ?_⟩,
    holds.depth, fun _ => inner, holds.fits, ?_⟩ inside
  · intro text htext l hl
    cases htext
    rw [Tag.pieces_joinLine newline, List.mem_append, List.mem_flatMap] at hl
    rcases hl with ⟨text, htext, hl⟩ | hl
    · exact legible.content text (Option.mem_toList.1 htext) l hl
    · exact List.mem_singleton.1 hl ▸ legibleLine
  · intro void
    cases void
  · intro text htext
    cases htext
    exact short

end Frame.Sound

def Frame.AllSound (c : Config) (fs : List Frame) : Prop :=
  ∀ (k : Nat) (f : Frame), fs[k]? = some f → f.Sound c k

theorem Frame.allSound_concat {c : Config} {fs : List Frame} {f : Frame} :
    AllSound c (fs ++ [f]) ↔ AllSound c fs ∧ f.Sound c fs.length := by
  constructor
  · intro h
    exact ⟨fun k f' hf => h k f' (getElem?_concat.2 (.inl hf)),
      h fs.length f (getElem?_concat.2 (.inr ⟨rfl, rfl⟩))⟩
  · rintro ⟨start, last⟩ k f' hf
    rcases getElem?_concat.1 hf with inner | ⟨rfl, rfl⟩
    · exact start k f' inner
    · exact last

theorem Frame.AllSound.modify {c : Config} {fs : List Frame} (h : AllSound c fs) {k : Nat} {t : Tag}
    (ht : t.Everywhere (Tag.Sound c) (k + 1)) : AllSound c (fs.modify k (·.addChild t)) := by
  intro i f hf
  rw [List.getElem?_modify] at hf
  obtain ⟨f', hf', rfl⟩ := Option.map_eq_some_iff.1 hf
  by_cases here : k = i
  · subst here
    simpa using (h k f' hf').addChild ht
  · simpa [here] using h i f' hf'

structure Nest.Sound (c : Config) (n : Nest) : Prop where
  frames : Frame.AllSound c n.frames
  tags : ∀ t ∈ n.body.tags, t.Everywhere (Tag.Sound c) 0
  doctype : ∀ d ∈ n.doctype, IsStylesheet d.stylesheet
  version : ∀ v ∈ n.version, IsValue v.number ∧ '\n' ∉ v.number.toList
  dense : c.blankLines = .skip → n.body.Dense

namespace Nest.Sound
variable {c : Config} {g : Scan.Setting} {n n' : Nest} {k : Nat} {m : Nat × Mark}

theorem initial (c : Config) : Sound c {} where
  frames := by simp [Frame.AllSound]
  tags := by simp [Body.tags, Body.empty]
  doctype := by simp
  version := by simp
  dense _ := rfl

theorem withFrames (h : n.Sound c) {fs : List Frame} (hfs : Frame.AllSound c fs) :
    Sound c { n with frames := fs } :=
  ⟨hfs, h.tags, h.doctype, h.version, h.dense⟩

theorem attach (h : n.Sound c) {t : Tag} (ht : t.Everywhere (Tag.Sound c) k) :
    (n.attach t k).Sound c := by
  cases k with
  | zero =>
    refine ⟨h.frames, ?_, h.doctype, h.version, fun skip => (h.dense skip).push t⟩
    intro u hu
    have split : u ∈ n.body.tags ∨ u = t := by simpa [Nest.attach, Body.push, Body.tags] using hu
    rcases split with hu | rfl
    · exact h.tags u hu
    · exact ht
  | succ k => exact h.withFrames (h.frames.modify ht)

theorem step (hg : g.Reshaping) (h : n.Sound g.config) (lexical : m.2.Lexical)
    (depth : m.1 ≤ g.config.maxDepth)
    (hn : n.step g m = some n') : n'.Sound g.config := by
  obtain ⟨k, mark⟩ := m
  cases mark with
  | declaration d =>
    cases d with
    | doctype stylesheet =>
      obtain ⟨-, -, rfl⟩ := Nest.declareDoctype_eq_some.1 hn
      have written : IsStylesheet stylesheet := lexical.1
      exact ⟨h.frames, h.tags, by simpa using written, h.version, h.dense⟩
    | version number =>
      obtain ⟨-, rfl⟩ := Nest.declareVersion_eq_some.1 hn
      have written : IsValue number ∧ '\n' ∉ number.toList := lexical
      exact ⟨h.frames, h.tags, h.doctype, by simpa using written, h.dense⟩
  | opening name pairs =>
    obtain ⟨rfl, fits, rfl⟩ := Nest.opening_eq_some.1 hn
    have head : (Frame.ofHead name pairs).Sound g.config n.frames.length :=
      fun solid => Tag.sound_ofPairs lexical depth fits fun _ => solid
    exact h.withFrames (Frame.allSound_concat.2 ⟨h.frames, head⟩)
  | void name pairs =>
    obtain ⟨-, fits, t, refined, rfl⟩ := Nest.void_eq_some.1 hn
    obtain ⟨shape, reshaped⟩ := hg.tags (.ofVoid name pairs)
    cases reshaped.symm.trans refined
    have made : Tag.Everywhere (Tag.Sound g.config) k (.ofVoid name pairs) :=
      Tag.sound_ofPairs lexical depth fits (by simp)
    exact h.attach (Tag.Sound.finish made true shape)
  | closing name =>
    obtain ⟨fs, f, t, hfs, rfl, rfl, refined, rfl⟩ := Nest.closing_eq_some.1 hn
    obtain ⟨shape, reshaped⟩ := hg.tags f.closed
    cases reshaped.symm.trans refined
    obtain ⟨start, last⟩ := Frame.allSound_concat.1 (hfs ▸ h.frames)
    exact (h.withFrames start).attach (Tag.Sound.finish (last lexical) true shape)
  | blank =>
    cases hn
    unfold Nest.blank
    split
    · rename_i kept
      refine ⟨h.frames, ?_, h.doctype, h.version, fun skip => ?_⟩
      · simpa [Body.pushBlank, Body.tags] using h.tags
      · simp [kept.1] at skip
    · exact h
  | content line =>
    obtain ⟨fs, f, hfs, rfl, short, rfl⟩ := Nest.content_eq_some.1 hn
    obtain ⟨start, last⟩ := Frame.allSound_concat.1 (hfs ▸ h.frames)
    have longer := last.addLine lexical.1 lexical.2 depth short
    exact h.withFrames (Frame.allSound_concat.2 ⟨start, longer⟩)

theorem run (hg : g.Reshaping) {ms : List (Nat × Mark)} (h : n.Sound g.config)
    (lexical : ∀ m ∈ ms, m.2.Lexical) (depth : ∀ m ∈ ms, m.1 ≤ g.config.maxDepth)
    (hn : n.run g ms = some n') : n'.Sound g.config := by
  induction ms generalizing n with
  | nil =>
    cases hn
    exact h
  | cons m ms ih =>
    rw [Nest.run_cons, Option.bind_eq_some_iff] at hn
    obtain ⟨n₁, first, rest⟩ := hn
    have next := h.step hg (lexical m (by simp)) (depth m (by simp)) first
    exact ih next (fun m' hm => lexical m' (by simp [hm])) (fun m' hm => depth m' (by simp [hm])) rest

end Nest.Sound

/-- A document that was accepted can be written, and is within the limits but for its size. -/
theorem Document.sound_of_scan {g : Scan.Setting} (hg : g.Stock) (reshaping : g.Reshaping)
    {text : String} {d : Document} (h : (Scan.scan g text).result = .ok d) :
    d.Legible ∧ (∀ t ∈ d.entries.tags, t.Everywhere g.config.Holds 0) ∧
      (g.config.blankLines = .skip → d.entries.Dense) := by
  obtain ⟨admitted, marks, n, d₀, read, run, ended, refined⟩ := (Scan.scan_eq_ok hg).1 h
  have sound := (Nest.Sound.initial g.config).run reshaping (Mark.lexical_of_readText read)
    (Mark.depth_of_readText read admitted) run
  obtain ⟨singleton, same⟩ := reshaping.documents d₀
  cases same.symm.trans refined
  obtain ⟨-, doctype, version, body, -⟩ := Nest.document?_eq_some.1 ended
  obtain ⟨value, line⟩ := sound.version _ version
  refine ⟨⟨sound.doctype _ doctype, value, line, fun t ht => ?_⟩, fun t ht => ?_, fun skip => ?_⟩
  · exact (sound.tags t (body ▸ ht)).imp fun _ _ h => h.1
  · exact (sound.tags t (body ▸ ht)).imp fun _ _ h => h.2
  · exact body ▸ sound.dense skip

end TabMarkup
