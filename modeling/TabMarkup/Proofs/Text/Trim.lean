import TabMarkup.Text.Words

/-!
Cutting blanks off a text, and words. What stands between characters that are no blanks stays
as it is, and words are found again when they were put together with spaces.
-/
namespace TabMarkup.Text

def Solid (cs : List Char) : Prop := ∀ c ∈ cs, isBlank c = false

instance (cs : List Char) : Decidable (Solid cs) :=
  decidable_of_iff (cs.all (!isBlank ·) = true) (by simp [Solid])

theorem Solid.of_subset {cs ds : List Char} (h : Solid ds) (sub : ∀ c ∈ cs, c ∈ ds) : Solid cs :=
  fun c hc => h c (sub c hc)

theorem solid_of_all {cs : List Char} (h : cs.all (!isBlank ·) = true) : Solid cs := fun c hc => by
  simpa using List.all_eq_true.1 h c hc

/-! ### Trimming -/

@[simp] theorem trimEnd_nil : trimEnd [] = [] := rfl

theorem trimEnd_append_solid (cs : List Char) {c : Char} (h : isBlank c = false) :
    trimEnd (cs ++ [c]) = cs ++ [c] := by
  simp [trimEnd, h]

theorem trimEnd_append_blank (cs : List Char) {c : Char} (h : isBlank c = true) :
    trimEnd (cs ++ [c]) = trimEnd cs := by
  simp [trimEnd, h]

/-- Either nothing is left, or what is left ends with a character that is no blank. -/
theorem trimEnd_cases (cs : List Char) :
    trimEnd cs = [] ∧ (∀ c ∈ cs, isBlank c = true) ∨
      ∃ ds c bs, trimEnd cs = ds ++ [c] ∧ isBlank c = false ∧ cs = ds ++ [c] ++ bs ∧
        ∀ b ∈ bs, isBlank b = true := by
  have split := List.takeWhile_append_dropWhile (p := isBlank) (l := cs.reverse)
  have blanks : ∀ b ∈ cs.reverse.takeWhile isBlank, isBlank b = true := fun b hb =>
    List.all_eq_true.1 List.all_takeWhile b hb
  cases rest : cs.reverse.dropWhile isBlank with
  | nil =>
    left
    rw [rest, List.append_nil] at split
    refine ⟨by simp [trimEnd, rest], fun c hc => blanks c ?_⟩
    rw [split]
    simpa using hc
  | cons c ds =>
    right
    have solid : isBlank c = false := by
      have := List.head?_dropWhile_not isBlank cs.reverse
      simpa [rest] using this
    refine ⟨ds.reverse, c, (cs.reverse.takeWhile isBlank).reverse, by simp [trimEnd, rest], solid, ?_,
      by simpa using blanks⟩
    have := congrArg List.reverse split
    rw [rest] at this
    simpa using this.symm

theorem exists_trimEnd_append (cs : List Char) :
    ∃ bs, cs = trimEnd cs ++ bs ∧ ∀ b ∈ bs, isBlank b = true := by
  rcases trimEnd_cases cs with ⟨none, blanks⟩ | ⟨ds, c, bs, last, -, split, blanks⟩
  · exact ⟨cs, by simp [none], blanks⟩
  · exact ⟨bs, by rw [last]; exact split, blanks⟩

theorem mem_of_mem_trimEnd {cs : List Char} {c : Char} (h : c ∈ trimEnd cs) : c ∈ cs := by
  have := List.dropWhile_subset isBlank (List.mem_reverse.1 h)
  simpa using this

theorem mem_of_mem_trimStart {cs : List Char} {c : Char} (h : c ∈ trimStart cs) : c ∈ cs :=
  List.dropWhile_subset isBlank h

theorem trimStart_cons_solid {cs : List Char} {c : Char} (h : isBlank c = false) :
    trimStart (c :: cs) = c :: cs := by
  simp [trimStart, h]

theorem trimStart_append_solid (cs ds : List Char) {c : Char} (h : isBlank c = false) :
    trimStart (cs ++ c :: ds) = trimStart cs ++ c :: ds := by
  simp only [trimStart, List.dropWhile_append]
  split
  · rename_i none
    rw [List.isEmpty_iff.1 none]
    simp [h]
  · rfl

theorem trim_eq_trimStart {cs : List Char} {c : Char} (h : isBlank c = false) :
    trim (cs ++ [c]) = trimStart (cs ++ [c]) := by
  rw [trim, trimEnd_append_solid cs h]

theorem mem_of_mem_trim {cs : List Char} {c : Char} (h : c ∈ trim cs) : c ∈ cs :=
  mem_of_mem_trimEnd (mem_of_mem_trimStart h)

theorem trimEnd_eq_self {cs : List Char} :
    trimEnd cs = cs ↔ ∀ c ∈ cs.getLast?, isBlank c = false := by
  rcases List.eq_nil_or_concat cs with rfl | ⟨ds, d, rfl⟩
  · simp
  · rw [List.concat_eq_append, List.getLast?_concat]
    constructor
    · intro h c hc
      cases hc
      rcases hd : isBlank d with _ | _
      · rfl
      · rw [trimEnd_append_blank ds hd] at h
        obtain ⟨bs, hbs, -⟩ := exists_trimEnd_append ds
        have := congrArg List.length hbs
        rw [h] at this
        simp at this
    · intro h
      exact trimEnd_append_solid ds (h d rfl)

theorem Solid.trimEnd_eq {cs : List Char} (h : Solid cs) : trimEnd cs = cs :=
  trimEnd_eq_self.2 fun c hc => h c (List.mem_of_getLast? hc)

theorem trimStart_eq_self {cs : List Char} :
    trimStart cs = cs ↔ ∀ c ∈ cs.head?, isBlank c = false := by
  cases cs with
  | nil => simp [trimStart]
  | cons c cs =>
    constructor
    · intro h d hd
      cases hd
      rcases hc : isBlank c with _ | _
      · rfl
      · have short := (List.dropWhile_suffix (p := isBlank) (l := cs)).length_le
        rw [trimStart, List.dropWhile_cons_of_pos hc] at h
        have := congrArg List.length h
        simp at this
        omega
    · intro h
      exact trimStart_cons_solid (h c rfl)

/-! ### Words -/

def wordsFrom (cs : List Char) : List Char × List (List Char) :=
  cs.foldr (fun c (word, rest) => if isBlank c then ([], keep word rest) else (c :: word, rest))
    ([], [])

theorem words_eq (cs : List Char) : words cs = keep (wordsFrom cs).1 (wordsFrom cs).2 := rfl

theorem wordsFrom_blank {c : Char} (h : isBlank c = true) (cs : List Char) :
    wordsFrom (c :: cs) = ([], words cs) := by
  rw [words_eq]
  simp [wordsFrom, h]

theorem wordsFrom_solid {w : List Char} (h : Solid w) (cs : List Char) :
    wordsFrom (w ++ cs) = (w ++ (wordsFrom cs).1, (wordsFrom cs).2) := by
  induction w with
  | nil => rfl
  | cons c w ih =>
    have hc := h c (by simp)
    have tail := ih (h.of_subset fun d hd => by simp [hd])
    simp only [wordsFrom, List.cons_append, List.foldr_cons, hc] at tail ⊢
    rw [tail]
    simp

theorem words_solid {w : List Char} (h : Solid w) (ne : w ≠ []) : words w = [w] := by
  have all := wordsFrom_solid h []
  simp only [List.append_nil] at all
  rw [words_eq, all]
  simp [wordsFrom, keep, ne]

theorem words_append_blank {w : List Char} (h : Solid w) (ne : w ≠ []) {c : Char}
    (hc : isBlank c = true) (cs : List Char) : words (w ++ c :: cs) = w :: words cs := by
  rw [words_eq, wordsFrom_solid h, wordsFrom_blank hc]
  simp [keep, ne]

/-! Blanks at the ends of a text belong to no word. -/

theorem words_cons_blank {c : Char} (h : isBlank c = true) (cs : List Char) :
    words (c :: cs) = words cs := by
  rw [words_eq, wordsFrom_blank h]
  rfl

theorem wordsFrom_append_blank (cs : List Char) {c : Char} (h : isBlank c = true) :
    wordsFrom (cs ++ [c]) = wordsFrom cs := by
  simp [wordsFrom, h, keep]

theorem words_append_blanks (cs : List Char) {bs : List Char} (h : ∀ b ∈ bs, isBlank b = true) :
    words (cs ++ bs) = words cs := by
  induction bs generalizing cs with
  | nil => rw [List.append_nil]
  | cons b bs ih =>
    have split : cs ++ b :: bs = (cs ++ [b]) ++ bs := by simp
    rw [split, ih (cs ++ [b]) fun d hd => h d (by simp [hd]), words_eq,
      wordsFrom_append_blank cs (h b (by simp)), ← words_eq]

theorem words_trimEnd (cs : List Char) : words (trimEnd cs) = words cs := by
  obtain ⟨bs, split, blanks⟩ := exists_trimEnd_append cs
  calc words (trimEnd cs) = words (trimEnd cs ++ bs) := (words_append_blanks _ blanks).symm
    _ = words cs := by rw [← split]

theorem words_trimStart (cs : List Char) : words (trimStart cs) = words cs := by
  induction cs with
  | nil => rfl
  | cons c cs ih =>
    by_cases h : isBlank c = true
    · rw [words_cons_blank h, ← ih]
      simp [trimStart, h]
    · have solid : isBlank c = false := by simpa using h
      rw [trimStart_cons_solid solid]

theorem words_trim (cs : List Char) : words (trim cs) = words cs := by
  rw [trim, words_trimStart, words_trimEnd]

theorem wordsFrom_mem (cs : List Char) :
    (Solid (wordsFrom cs).1 ∧ ∀ c ∈ (wordsFrom cs).1, c ∈ cs) ∧
      ∀ w ∈ (wordsFrom cs).2, w ≠ [] ∧ Solid w ∧ ∀ c ∈ w, c ∈ cs := by
  induction cs with
  | nil => simp [wordsFrom, Solid]
  | cons c cs ih =>
    obtain ⟨⟨solid, sub⟩, rest⟩ := ih
    by_cases hc : isBlank c = true
    · rw [wordsFrom_blank hc, words_eq]
      refine ⟨⟨by simp [Solid], by simp⟩, ?_⟩
      intro w hw
      have old : w ∈ (wordsFrom cs).2 ∨ w = (wordsFrom cs).1 ∧ w ≠ [] := by
        unfold keep at hw
        split at hw
        · exact .inl hw
        · rename_i ne
          rcases List.mem_cons.1 hw with rfl | hw
          · exact .inr ⟨rfl, by simpa using ne⟩
          · exact .inl hw
      rcases old with old | ⟨rfl, ne⟩
      · have := rest w old
        exact ⟨this.1, this.2.1, fun d hd => by simp [this.2.2 d hd]⟩
      · exact ⟨ne, solid, fun d hd => by simp [sub d hd]⟩
    · have hc : isBlank c = false := by simpa using hc
      have front := wordsFrom_solid (w := [c]) (by simpa [Solid] using hc) cs
      simp only [List.singleton_append] at front
      rw [front]
      refine ⟨⟨?_, ?_⟩, ?_⟩
      · intro d hd
        rcases List.mem_cons.1 hd with rfl | hd
        · exact hc
        · exact solid d hd
      · intro d hd
        rcases List.mem_cons.1 hd with rfl | hd
        · simp
        · simp [sub d hd]
      · intro w hw
        have := rest w hw
        exact ⟨this.1, this.2.1, fun d hd => by simp [this.2.2 d hd]⟩

/-- Words are not empty and hold no blank, and their characters are those of the text. -/
theorem mem_words {cs w : List Char} (h : w ∈ words cs) :
    w ≠ [] ∧ Solid w ∧ ∀ c ∈ w, c ∈ cs := by
  obtain ⟨⟨solid, sub⟩, rest⟩ := wordsFrom_mem cs
  rw [words_eq] at h
  unfold keep at h
  split at h
  · exact rest w h
  · rename_i ne
    rcases List.mem_cons.1 h with rfl | h
    · exact ⟨by simpa using ne, solid, sub⟩
    · exact rest w h

end TabMarkup.Text
