import TabMarkup.Proofs.Reading.Size

/-!
The levels before each line of a scan. Tags are open at all indentations up to some depth, and at that
depth a level may have been closed. So a tag that is complete has an open parent that takes it, and a
line that stands too far out is refused because of the tag that is open at its own indentation.
-/
namespace TabMarkup

/-- A tag that waits for its end, as generic as it was built. -/
structure Tag.Waiting (t : Tag) : Prop where
  generic : t.variant = .generic
  full : t.void = false
  unclosed : t.closed = false

theorem Frame.waiting_opened (f : Frame) : f.opened.Waiting := ⟨rfl, rfl, rfl⟩

namespace Levels

/-- There is an open tag at each indentation less than the depth, and nothing else but for a level at
the depth that was closed. -/
structure Stacked (ls : Levels) (depth : Nat) : Prop where
  keys : ls.slots.map Prod.fst = List.range depth ∨
    ls.slots.map Prod.fst = List.range (depth + 1) ∧ ∃ name, ls.get? depth = some (.closed name)
  opened : ∀ k < depth, ∃ t, ls.get? k = some (.opened t) ∧ t.Waiting

theorem keys_slotsFrom (left : Option String) (i : Nat) (fs : List Frame) :
    (slotsFrom left i fs).map Prod.fst = List.range' i (fs.length + left.toList.length) := by
  induction fs generalizing i with
  | nil => cases left <;> rfl
  | cons f fs ih =>
    have more : (f :: fs).length + left.toList.length = fs.length + left.toList.length + 1 := by
      rw [List.length_cons]
      omega
    rw [slotsFrom, List.map_cons, ih, more, List.range'_succ]

theorem stacked_ofFrames (fs : List Frame) (left : Option String) :
    (ofFrames fs left).Stacked fs.length := by
  constructor
  case keys =>
    have keys := keys_slotsFrom left 0 fs
    rw [← List.range_eq_range'] at keys
    cases left with
    | none => exact .inl keys
    | some name => exact .inr ⟨keys, name, by simp [levelAt]⟩
  case opened =>
    intro k inside
    exact ⟨_, by simp [levelAt, inside], fs[k].waiting_opened⟩

variable {ls : Levels} {k : Nat} {t : Tag}

/-- Levels that are deeper than one do not hide it. -/
theorem get?_upTo (ls : Levels) (k : Nat) : (ls.upTo k).get? k = ls.get? k := by
  have same (s : Nat × Level) :
      decide (decide (s.1 ≤ k) = true ∧ (s.1 == k) = true) = (s.1 == k) := by
    by_cases here : s.1 = k <;> simp [here]
  simp only [get?, upTo, List.find?_filter, same]

/-- The tag whose name was compared is the one that is closed. -/
theorem tagToClose_of_get? (here : ls.get? k = some (.opened t)) (last : ls.firstOpenFrom (k + 1) = none) :
    ls.tagToClose k t.name = .ok t := by
  have checked : ls.refuseOpenFrom (k + 1) = .ok () := by rw [refuseOpenFrom, last]
  simp [tagToClose, here, Level.openName?, checked, get?_upTo]

end Levels

namespace Scan

/-- A state before a line of a text, or behind all of them. -/
def Visits (g : Setting) (text : String) (s : State) : Prop :=
  ∃ pre post, Text.lines text.toList = pre ++ post ∧
    (Journaled.foldl (step g) { body := g.service.body } (pre.zipIdx 1)).result = .ok s

variable {g : Setting}

theorem Setting.step_restocked (plain : g.service.Plain) : step g = step g.restocked := by
  obtain ⟨kind, usable, config, onBegin, onFinish, adopt, same⟩ := plain
  have own : step g = step g.alone := rfl
  rw [own, alone, same]
  rfl

theorem Setting.attach_restocked (plain : g.service.Plain) : attach g = attach g.restocked := by
  obtain ⟨kind, usable, config, onBegin, onFinish, adopt, same⟩ := plain
  have own : attach g = attach g.alone := rfl
  rw [own, alone, same]
  rfl

theorem Visits.state {text : String} {s : State} (plain : g.service.Plain) (hg : g.restocked.Stock)
    (visits : Visits g text s) :
    ∃ (n : Nest) (left : Option String) (m : Meter), s = n.state left m := by
  obtain ⟨pre, post, -, passed⟩ := visits
  have start : ({ body := g.service.body } : State) = ({} : Nest).state none {} := by
    obtain ⟨kind, usable, config, onBegin, onFinish, adopt, same⟩ := plain
    rw [same]
    rfl
  rw [Journaled.result_foldl, start, Setting.step_restocked plain] at passed
  obtain ⟨-, marks, n, -, -, rfl⟩ := (behind_eq_ok hg).1 passed
  exact ⟨n, _, _, rfl⟩

variable {n : Nest} {left : Option String} {m : Meter}

/-- Where there is room for a complete tag, it is taken. -/
theorem attach_stacked (hg : g.Stock) {k : Nat} (room : k ≤ n.frames.length) (t : Tag) :
    ∃ s, (attach g (n.state left m) t k).result = .ok s ∧ s.levels.Stacked n.frames.length := by
  refine ⟨_, (attach_eq_ok hg).2 ⟨room, rfl⟩, ?_⟩
  have depth : (n.attach t k).frames.length = n.frames.length := by cases k <;> simp [Nest.attach]
  exact depth ▸ Levels.stacked_ofFrames _ left

theorem attach_closed_stacked (hg : g.Stock) {k : Nat} {name : String} {u : Tag}
    (found : (n.state left m).levels.tagToClose k name = .ok u) (t : Tag) :
    ∃ s, (attach g { n.state left m with
      levels := ((n.state left m).levels.upTo k).put k (.closed name) } t k).result = .ok s ∧
        s.levels.Stacked k := by
  obtain ⟨fs, f, frames, rfl, -, -⟩ := Levels.tagToClose_eq_ok.1 found
  rw [state_put_closed frames]
  exact attach_stacked (n := { n with frames := fs }) hg (Nat.le_refl _) t

theorem refuseOpenFrom_stacked {k : Nat} {f : Frame} (here : n.frames[k]? = some f) :
    (n.state left m).levels.refuseOpenFrom k = fail (.markup (.unclosedTag f.name)) := by
  have first : (n.state left m).levels.firstOpenFrom k = some f.name := by simp [Nest.state, here]
  rw [Levels.refuseOpenFrom, first]

/-- Lines that ask that no tag is open at their indentation. -/
def Demands (k : Nat) (kind : Line.Kind) : Prop :=
  (∃ markup, kind = .opening markup) ∨ 1 ≤ k ∧ ∃ text, kind = .content text

theorem byKind_refused {k : Nat} {kind : Line.Kind} {f : Frame} (demands : Demands k kind)
    (here : n.frames[k]? = some f) :
    (byKind g (n.state left m) k kind).result = fail (.markup (.unclosedTag f.name)) := by
  have refused : (n.state left m).levels.refuseOpenFrom k = _ := refuseOpenFrom_stacked here
  have inside := (List.getElem?_eq_some_iff.1 here).1
  rcases demands with ⟨markup, rfl⟩ | ⟨inner, text, rfl⟩
  · have parent : (n.state left m).levels.requireParent k = .ok () :=
      Levels.requireParent_eq_ok.2 (Nat.le_of_lt inside)
    simp [byKind, opening, parent, refused, fail]
  · obtain ⟨k, rfl⟩ := Nat.exists_eq_add_of_le' inner
    simp [byKind, content, refused, fail]

theorem step_refused {raw : List Char} {number : Nat} {f : Frame} {s' : State}
    (within : measure g (n.state left m) (Text.byteLength raw + 1)
      (Line.classify number raw).indent = .ok s')
    (demands : Demands (Line.classify number raw).indent (Line.classify number raw).kind)
    (here : n.frames[(Line.classify number raw).indent]? = some f) :
    (step g (n.state left m) (raw, number)).result =
      .error ((Error.ofFault (.markup (.unclosedTag f.name))).locate number
        (Line.classify number raw).column) := by
  obtain ⟨-, -, rfl⟩ := measure_eq_ok.1 within
  have refused := @byKind_refused g n left (meterAfter m raw) _ _ f demands here
  simp only [step, Journaled.result_mapError, Journaled.result_bind, Journaled.result_lift, within,
    ok_bind]
  exact congrArg (Except.mapError _) refused

/-- In a context that reads as the stock ones do, the levels are stacked before every line and at the
end. A tag that is complete is taken by its parent, in the place that a void tag has or a closing one
has made; a closing tag finds the tag again whose name it has; and a line within the limits that opens
a tag or has content where a tag is open already is refused for this tag. -/
theorem stacked_of_visits {context : Context} (plain : context.Plain) {id : ServiceId}
    (reading : context.reading = .ok id) (config : Config) {text : String} {s : State}
    (visits : Visits ⟨context, id, config⟩ text s) :
    ∃ depth, s.levels.Stacked depth ∧
      (∀ (k : Nat) (t : Tag) (meter : Meter), s.levels.requireParent k = .ok () →
        ∃ s', (attach ⟨context, id, config⟩ { s with meter } t k).result = .ok s' ∧
          s'.levels.Stacked depth) ∧
      (∀ (k : Nat) (name : String) (u t : Tag) (meter : Meter), s.levels.tagToClose k name = .ok u →
        ∃ s', (attach ⟨context, id, config⟩
          { s with meter, levels := (s.levels.upTo k).put k (.closed name) } t k).result = .ok s' ∧
          s'.levels.Stacked k) ∧
      (∀ (k : Nat) (t : Tag), s.levels.get? k = some (.opened t) →
        (s.levels.upTo k).get? k = some (.opened t) ∧
        (s.levels.firstOpenFrom (k + 1) = none → s.levels.tagToClose k t.name = .ok t)) ∧
      ∀ (raw : List Char) (number : Nat) (s' : State),
        measure ⟨context, id, config⟩ s (Text.byteLength raw + 1)
          (Line.classify number raw).indent = .ok s' →
        Demands (Line.classify number raw).indent (Line.classify number raw).kind →
        (Line.classify number raw).indent < depth →
        ∃ t, s.levels.get? (Line.classify number raw).indent = some (.opened t) ∧
          (step ⟨context, id, config⟩ s (raw, number)).result =
            .error ((Error.ofFault (.markup (.unclosedTag t.name))).locate number
              (Line.classify number raw).column) := by
  have service : (Setting.service ⟨context, id, config⟩).Plain := by
    obtain ⟨id', reading', service⟩ := plain.reading
    cases reading.symm.trans reading'
    exact service
  have hg := Setting.stock_restocked (g := ⟨context, id, config⟩) plain.rules
  obtain ⟨n, left, m, rfl⟩ := visits.state service hg
  refine ⟨n.frames.length, Levels.stacked_ofFrames _ _, ?_, ?_, ?_, ?_⟩
  · intro k t meter parent
    rw [Setting.attach_restocked service]
    exact @attach_stacked _ n left meter hg k (Levels.requireParent_eq_ok.1 parent) t
  · intro k name u t meter found
    rw [Setting.attach_restocked service]
    exact @attach_closed_stacked _ n left meter hg k name u found t
  · intro k t here
    exact ⟨(Levels.get?_upTo _ k).trans here, Levels.tagToClose_of_get? here⟩
  · intro raw number s' within demands inside
    obtain ⟨f, here⟩ : ∃ f, n.frames[(Line.classify number raw).indent]? = some f :=
      ⟨_, List.getElem?_eq_getElem inside⟩
    exact ⟨f.opened, by simp [Nest.state, Levels.levelAt, here], step_refused within demands here⟩

def nested : String := "<!DOCTYPE skd default>\n<!SKD version=\"0.2\">\n<a>\n\t<b>\n\t</b>\n</a>\n"

/-- Before the last line one tag is open, and the level above it was closed. A line that opens a tag
next to it is refused. -/
theorem stacked_of_visits_nested :
    ∃ s, Visits ⟨.standard, 0, {}⟩ nested s ∧ (∃ depth, s.levels.Stacked depth) ∧
      (step ⟨.standard, 0, {}⟩ s ("<c>".toList, 6)).result =
        .error ((Error.ofFault (.markup (.unclosedTag "a"))).locate 6 1) := by
  -- What is needed of the state is computed once, so that nothing below unfolds the scan.
  obtain ⟨s, passed, name, keys, s', within⟩ : ∃ s,
      (Journaled.foldl (step ⟨.standard, 0, {}⟩) { body := Setting.service ⟨.standard, 0, {}⟩ |>.body }
        (((Text.lines nested.toList).take 5).zipIdx 1)).result = .ok s ∧
      (s.levels.get? 0).bind Level.openName? = some "a" ∧ s.levels.slots.map Prod.fst = [0, 1] ∧
      ∃ s', measure ⟨.standard, 0, {}⟩ s 4 0 = .ok s' := ⟨_, rfl, rfl, rfl, _, rfl⟩
  have visits : Visits ⟨.standard, 0, {}⟩ nested s :=
    ⟨_, _, (List.take_append_drop 5 _).symm, passed⟩
  obtain ⟨depth, stacked, -, -, -, refused⟩ := stacked_of_visits Context.plain_standard rfl {} visits
  have deep : 0 < depth := by
    rcases stacked.keys with keys' | ⟨keys', -⟩
    all_goals
      have count := congrArg List.length (keys.symm.trans keys')
      simp only [List.length_cons, List.length_nil, List.length_range] at count
      omega
  obtain ⟨t, here, failed⟩ := refused "<c>".toList 6 s' within (.inl ⟨_, rfl⟩) deep
  have named : t.name = "a" := by
    rw [show s.levels.get? 0 = some (.opened t) from here] at name
    exact Option.some.inj name
  exact ⟨s, visits, ⟨depth, stacked⟩, named ▸ failed⟩

end Scan
end TabMarkup
