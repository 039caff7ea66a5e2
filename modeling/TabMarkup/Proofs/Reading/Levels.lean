import TabMarkup.Proofs.Reading.Nest

/-!
The levels that a nest fills: one open level for each of its tags, at their indentations, and
perhaps one more above them that was closed. Each operation on levels is one on the nest.
-/
namespace TabMarkup.Levels

/-- The slots of frames whose first stands at indentation `i`, with a closed level on top. -/
def slotsFrom (left : Option String) (i : Nat) : List Frame → List (Nat × Level)
  | [] => (left.map fun name => (i, Level.closed name)).toList
  | f :: fs => (i, .opened f.opened) :: slotsFrom left (i + 1) fs

def ofFrames (fs : List Frame) (left : Option String) : Levels := ⟨slotsFrom left 0 fs⟩

def levelAt (fs : List Frame) (left : Option String) (k : Nat) : Option Level :=
  match fs[k]? with
  | some f => some (.opened f.opened)
  | none => if k = fs.length then left.map .closed else none

variable {left : Option String} {fs : List Frame}

theorem le_of_mem_slotsFrom {i : Nat} {s : Nat × Level} (h : s ∈ slotsFrom left i fs) :
    i ≤ s.1 := by
  induction fs generalizing i with
  | nil => cases left <;> simp_all [slotsFrom]
  | cons f fs ih =>
    rcases List.mem_cons.1 h with rfl | h
    · exact Nat.le_refl _
    · exact Nat.le_of_succ_le (ih h)

theorem find?_slotsFrom (left : Option String) (fs : List Frame) (i k : Nat) :
    ((slotsFrom left i fs).find? (·.1 == i + k)).map Prod.snd = levelAt fs left k := by
  induction fs generalizing i k with
  | nil =>
    cases left with
    | none => simp [slotsFrom, levelAt]
    | some name =>
      by_cases hk : k = 0
      · simp [slotsFrom, levelAt, hk]
      · simp [slotsFrom, levelAt, hk]
  | cons f fs ih =>
    cases k with
    | zero => simp [slotsFrom, levelAt]
    | succ k =>
      have step : i + (k + 1) = i + 1 + k := by omega
      simp only [slotsFrom, step, List.find?_cons]
      have head : (i == i + 1 + k) = false := by simp; omega
      simp only [head, ih]
      simp [levelAt]

@[simp] theorem get?_ofFrames (k : Nat) : (ofFrames fs left).get? k = levelAt fs left k := by
  have h := find?_slotsFrom left fs 0 k
  rw [Nat.zero_add] at h
  exact h

theorem findSome?_slotsFrom (left : Option String) (fs : List Frame) (i k : Nat) :
    ((slotsFrom left i fs).findSome? fun s => if i + k ≤ s.1 then s.2.openName? else none) =
      fs[k]?.map (·.name) := by
  induction fs generalizing i k with
  | nil => cases left <;> simp [slotsFrom, Level.openName?]
  | cons f fs ih =>
    cases k with
    | zero => simp [slotsFrom, Level.openName?, Frame.opened]
    | succ k =>
      have step : i + (k + 1) = i + 1 + k := by omega
      have head : ¬ i + 1 + k ≤ i := by omega
      simp only [slotsFrom, step, List.findSome?_cons, head, if_false, ih]
      simp

@[simp] theorem firstOpenFrom_ofFrames (k : Nat) :
    (ofFrames fs left).firstOpenFrom k = fs[k]?.map (·.name) := by
  have h := findSome?_slotsFrom left fs 0 k
  rw [Nat.zero_add] at h
  exact h

theorem filter_lt_slotsFrom (left : Option String) (i : Nat) {k : Nat} (hk : k ≤ fs.length) :
    (slotsFrom left i fs).filter (·.1 < i + k) = slotsFrom none i (fs.take k) := by
  induction fs generalizing i k with
  | nil =>
    obtain rfl : k = 0 := by simpa using hk
    cases left <;> simp [slotsFrom]
  | cons f fs ih =>
    cases k with
    | zero =>
      simp only [List.take_zero, slotsFrom, Option.map_none, Option.toList_none, List.filter_eq_nil_iff]
      intro s hs
      have mem : s ∈ slotsFrom left i (f :: fs) := by simpa [slotsFrom] using hs
      have := le_of_mem_slotsFrom mem
      simp; omega
    | succ k =>
      have step : i + (k + 1) = i + 1 + k := by omega
      have head : i < i + 1 + k := by omega
      simp only [slotsFrom, step, List.filter_cons, head, decide_true, if_true, List.take_succ_cons]
      rw [ih (i + 1) (by simpa using hk)]

theorem filter_gt_slotsFrom (left : Option String) (i : Nat) {k : Nat} (hk : k < fs.length) :
    (slotsFrom left i fs).filter (i + k < ·.1) = slotsFrom left (i + k + 1) (fs.drop (k + 1)) := by
  induction fs generalizing i k with
  | nil => simp at hk
  | cons f fs ih =>
    cases k with
    | zero =>
      simp only [slotsFrom, Nat.add_zero, List.filter_cons, Nat.lt_irrefl, decide_false,
        Bool.false_eq_true, if_false, List.drop_succ_cons, List.drop_zero, List.filter_eq_self]
      intro s hs
      have := le_of_mem_slotsFrom hs
      simp; omega
    | succ k =>
      have step : i + (k + 1) = i + 1 + k := by omega
      have head : ¬ i + 1 + k < i := by omega
      simp only [slotsFrom, step, List.filter_cons, head, decide_false, Bool.false_eq_true,
        if_false, List.drop_succ_cons]
      exact ih (i + 1) (by simpa using hk)

theorem filter_gt_length (left : Option String) (fs : List Frame) (i : Nat) :
    (slotsFrom left i fs).filter (i + fs.length < ·.1) = [] := by
  induction fs generalizing i with
  | nil => cases left <;> simp [slotsFrom]
  | cons f fs ih =>
    have step : i + (fs.length + 1) = i + 1 + fs.length := by omega
    have head : ¬ i + 1 + fs.length < i := by omega
    simp [slotsFrom, step, head, ih]

theorem slotsFrom_append (left : Option String) (i : Nat) (fs gs : List Frame) :
    slotsFrom left i (fs ++ gs) = slotsFrom none i fs ++ slotsFrom left (i + fs.length) gs := by
  induction fs generalizing i with
  | nil => simp [slotsFrom]
  | cons f fs ih =>
    have step : i + (fs.length + 1) = i + 1 + fs.length := by omega
    simp [slotsFrom, ih, step]

/-! ### Operations -/

theorem put_erase (ls : Levels) (k : Nat) (l : Level) : (ls.erase k).put k l = ls.put k l := by
  simp only [put, erase, List.filter_filter]
  congr 2
  · apply List.filter_congr
    intro s _
    by_cases h : s.1 < k
    · simp [h, Nat.ne_of_lt h]
    · simp [h]
  · congr 1
    apply List.filter_congr
    intro s _
    by_cases h : k < s.1
    · simp [h, Nat.ne_of_gt h]
    · simp [h]

theorem put_opened {k : Nat} (hk : k < fs.length) (f : Frame) :
    (ofFrames fs left).put k (.opened f.opened) = ofFrames (fs.set k f) left := by
  have low := filter_lt_slotsFrom left 0 (Nat.le_of_lt hk)
  have high := filter_gt_slotsFrom left 0 hk
  simp only [Nat.zero_add] at low high
  simp only [put, ofFrames, low, high, List.set_eq_take_append_cons_drop, if_pos hk]
  have len : (fs.take k).length = k := by simp; omega
  rw [slotsFrom_append, len]
  simp [slotsFrom]

theorem put_below_opened (f : Frame) :
    ((ofFrames fs left).below fs.length).put fs.length (.opened f.opened) =
      ofFrames (fs ++ [f]) none := by
  have low := filter_lt_slotsFrom left 0 (Nat.le_refl fs.length)
  simp only [Nat.zero_add, List.take_length] at low
  have low' := filter_lt_slotsFrom none 0 (Nat.le_refl fs.length)
  simp only [Nat.zero_add, List.take_length] at low'
  have high := filter_gt_length none fs 0
  simp only [Nat.zero_add] at high
  simp only [put, below, ofFrames, low, low', high, slotsFrom_append]
  simp [slotsFrom]

theorem upTo_ofFrames (f : Frame) :
    (ofFrames (fs ++ [f]) left).upTo fs.length = ofFrames (fs ++ [f]) none := by
  have low := filter_lt_slotsFrom left 0 (Nat.le_refl (fs ++ [f]).length)
  rw [List.take_length] at low
  simp only [Nat.zero_add, List.length_append, List.length_singleton] at low
  simp only [upTo, ofFrames, ← low]
  congr 1
  apply List.filter_congr
  intro s _
  exact decide_eq_decide.2 Nat.lt_succ_iff.symm

theorem put_closed (f : Frame) (name : String) :
    (ofFrames (fs ++ [f]) none).put fs.length (.closed name) = ofFrames fs (some name) := by
  have inside : fs.length < (fs ++ [f]).length := by simp
  have low := filter_lt_slotsFrom none 0 (Nat.le_of_lt inside)
  have high := filter_gt_slotsFrom none 0 inside
  simp only [Nat.zero_add, List.take_left'] at low high
  simp only [put, ofFrames, low, high]
  have := slotsFrom_append (some name) 0 fs []
  simp only [List.append_nil, Nat.zero_add] at this
  rw [this]
  simp [slotsFrom]

/-! ### Checks -/

theorem refuseOpenFrom_eq_ok {k : Nat} {u : Unit} :
    (ofFrames fs left).refuseOpenFrom k = .ok u ↔ fs.length ≤ k := by
  rw [← List.getElem?_eq_none_iff]
  simp only [refuseOpenFrom, firstOpenFrom_ofFrames]
  cases fs[k]? <;> simp [fail]

theorem parentAt_eq_ok {k : Nat} {t : Tag} :
    (ofFrames fs left).parentAt k = .ok t ↔ ∃ f, fs[k]? = some f ∧ f.opened = t := by
  simp only [parentAt, get?_ofFrames, levelAt]
  cases fs[k]? with
  | some f => simp
  | none =>
    by_cases hk : k = fs.length
    · cases left <;> simp [hk, fail]
    · simp [hk, fail]

theorem requireParent_eq_ok {k : Nat} {u : Unit} :
    (ofFrames fs left).requireParent k = .ok u ↔ k ≤ fs.length := by
  cases k with
  | zero => simp [requireParent]
  | succ k =>
    simp only [requireParent, map_eq_ok, parentAt_eq_ok, Nat.succ_le_iff]
    constructor
    · rintro ⟨_, ⟨f, hf, -⟩, -⟩
      exact (List.getElem?_eq_some_iff.1 hf).1
    · intro hk
      exact ⟨_, ⟨_, List.getElem?_eq_getElem hk, rfl⟩, trivial⟩

theorem tagToClose_eq_ok {k : Nat} {name : String} {t : Tag} :
    (ofFrames fs left).tagToClose k name = .ok t ↔
      ∃ gs f, fs = gs ++ [f] ∧ k = gs.length ∧ f.name = name ∧ f.opened = t := by
  constructor
  · intro h
    unfold tagToClose at h
    split at h
    · cases h
    · rename_i named
      obtain ⟨_, short, h⟩ := bind_eq_ok.1 h
      rw [refuseOpenFrom_eq_ok] at short
      simp only [get?_ofFrames, levelAt, ne_eq, Decidable.not_not] at named
      cases hf : fs[k]? with
      | none =>
        rw [hf] at named
        by_cases hk : k = fs.length
        · cases left <;> simp [hk, Level.openName?] at named
        · simp [hk] at named
      | some f =>
        obtain ⟨hk, rfl⟩ := List.getElem?_eq_some_iff.1 hf
        rcases List.eq_nil_or_concat fs with rfl | ⟨gs, f, rfl⟩
        · simp at hk
        · rw [List.concat_eq_append] at *
          obtain rfl : k = gs.length := by simp at hk short; omega
          refine ⟨gs, f, rfl, rfl, ?_, ?_⟩
          · simpa [Level.openName?, Frame.opened] using named
          · simpa [upTo_ofFrames, levelAt] using h
  · rintro ⟨gs, f, rfl, rfl, rfl, rfl⟩
    have checked : (ofFrames (gs ++ [f]) left).refuseOpenFrom (gs.length + 1) = .ok () :=
      refuseOpenFrom_eq_ok.2 (by simp)
    simp [tagToClose, levelAt, Level.openName?, checked, upTo_ofFrames, Frame.opened]

end TabMarkup.Levels
