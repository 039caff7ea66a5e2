import TabMarkup.Text.Lines
import TabMarkup.Text.Blank

/-!
Lines that are put together and cut apart again, and their sizes.
-/
namespace TabMarkup.Text

/-! ### Pieces -/

theorem pieces_of_not_mem {mark : Char} {cs : List Char} (h : mark ∉ cs) :
    pieces mark cs = [cs] := by
  induction cs with
  | nil => rfl
  | cons c cs ih =>
    have hc : c ≠ mark := fun e => h (by simp [e])
    rw [pieces_cons, ih fun m => h (by simp [m])]
    simp [cut, hc]

theorem pieces_append (mark : Char) (cs ds : List Char) :
    pieces mark (cs ++ mark :: ds) = pieces mark cs ++ pieces mark ds := by
  induction cs with
  | nil =>
    rw [List.nil_append, pieces_cons, pieces_nil]
    cases hp : pieces mark ds with
    | nil => exact absurd hp (pieces_ne_nil mark ds)
    | cons p ps => simp [cut]
  | cons c cs ih =>
    rw [List.cons_append, pieces_cons, ih, pieces_cons]
    cases hp : pieces mark cs with
    | nil => exact absurd hp (pieces_ne_nil mark cs)
    | cons p ps =>
      rw [List.cons_append]
      by_cases hc : c = mark <;> simp [cut, hc]

theorem pieces_append_mark {mark : Char} {cs : List Char} (h : mark ∉ cs) (ds : List Char) :
    pieces mark (cs ++ mark :: ds) = cs :: pieces mark ds := by
  rw [pieces_append, pieces_of_not_mem h, List.singleton_append]

theorem not_mem_of_mem_pieces {mark : Char} {cs p : List Char} (h : p ∈ pieces mark cs) :
    mark ∉ p := by
  induction cs generalizing p with
  | nil => simp_all
  | cons c cs ih =>
    rw [pieces_cons] at h
    cases hp : pieces mark cs with
    | nil => exact absurd hp (pieces_ne_nil mark cs)
    | cons q qs =>
      rw [hp] at h
      by_cases hc : c = mark
      · simp only [cut, if_pos hc, List.mem_cons] at h
        rcases h with rfl | h
        · simp
        · exact ih (by rw [hp]; simpa using h)
      · simp only [cut, if_neg hc, List.mem_cons] at h
        rcases h with rfl | h
        · simp only [List.mem_cons, not_or]
          exact ⟨Ne.symm hc, ih (by simp [hp])⟩
        · exact ih (by simp [hp, h])

/-! ### Lines -/

theorem dropReturn_of_getLast? {cs : List Char} (h : cs.getLast? ≠ some '\r') :
    dropReturn cs = cs := by
  simp [dropReturn, h]

theorem dropReturn_append_return (cs : List Char) : dropReturn (cs ++ ['\r']) = cs := by
  simp [dropReturn]

theorem dropReturn_cons {c : Char} (h : c ≠ '\r') (cs : List Char) :
    dropReturn (c :: cs) = c :: dropReturn cs := by
  cases cs with
  | nil => simp [dropReturn, h]
  | cons d ds =>
    unfold dropReturn
    rw [List.getLast?_cons_cons]
    split <;> simp

theorem mem_of_mem_dropReturn {cs : List Char} {c : Char} (h : c ∈ dropReturn cs) : c ∈ cs := by
  unfold dropReturn at h
  split at h
  · exact List.dropLast_subset cs h
  · exact h

theorem takeWhile_dropReturn {p : Char → Bool} (h : p '\r' = false) (cs : List Char) :
    (dropReturn cs).takeWhile p = cs.takeWhile p := by
  unfold dropReturn
  split
  · rename_i last
    obtain ⟨ds, rfl⟩ := List.getLast?_eq_some_iff.1 last
    have none : ['\r'].takeWhile p = [] := by simp [h]
    rw [List.dropLast_concat, List.takeWhile_append, none, List.append_nil]
    split
    · rename_i all
      exact (List.takeWhile_prefix p).eq_of_length all
    · rfl
  · rfl

theorem newline_not_mem_of_mem_lines {cs line : List Char} (h : line ∈ lines cs) : '\n' ∉ line := by
  simp only [lines, List.mem_append, List.mem_map, Option.mem_toList] at h
  rcases h with ⟨p, hp, rfl⟩ | h
  · exact fun m => not_mem_of_mem_pieces (List.dropLast_subset _ hp) (mem_of_mem_dropReturn m)
  · obtain ⟨last, -⟩ := Option.filter_eq_some_iff.1 h
    exact not_mem_of_mem_pieces (List.mem_of_getLast? last)

theorem pieces_flatMap {ls : List (List Char)} (h : ∀ l ∈ ls, '\n' ∉ l) :
    pieces '\n' (ls.flatMap (· ++ ['\n'])) = ls ++ [[]] := by
  induction ls with
  | nil => rfl
  | cons l ls ih =>
    rw [List.flatMap_cons, List.append_assoc]
    rw [show ['\n'] ++ ls.flatMap (· ++ ['\n']) = '\n' :: ls.flatMap (· ++ ['\n']) from rfl]
    rw [pieces_append_mark (h l (by simp)), ih fun m hm => h m (by simp [hm])]
    rfl

/-- Lines that each end with a newline come back, each less a carriage return at its end. -/
theorem lines_flatMap {ls : List (List Char)} (h : ∀ l ∈ ls, '\n' ∉ l) :
    lines (ls.flatMap (· ++ ['\n'])) = ls.map dropReturn := by
  simp [lines, pieces_flatMap h]

/-! ### Texts line by line -/

/-- The last line of a text, if there is any, has its newline. -/
def Ended (cs : List Char) : Prop := ∀ c ∈ cs.getLast?, c = '\n'

instance (cs : List Char) : Decidable (Ended cs) :=
  decidable_of_iff (cs.getLast?.all (· == '\n') = true) (by simp [Ended, Option.all_eq_true])

theorem ended_nil : Ended [] := by simp [Ended]

theorem ended_append_mark (l rest : List Char) : Ended (l ++ '\n' :: rest) ↔ Ended rest := by
  cases rest with
  | nil => simp [Ended]
  | cons c cs => simp [Ended, List.getLast?_append, List.getLast?_cons_cons]

theorem ended_of_not_mem {l : List Char} (h : '\n' ∉ l) : Ended l ↔ l = [] := by
  constructor
  · intro ended
    rcases List.eq_nil_or_concat l with rfl | ⟨ds, d, rfl⟩
    · rfl
    · rw [List.concat_eq_append] at *
      obtain rfl := ended d (by simp)
      simp at h
  · rintro rfl
    exact ended_nil

theorem Ended.append {cs ds : List Char} (first : Ended cs) (second : Ended ds) :
    Ended (cs ++ ds) := by
  rcases List.eq_nil_or_concat ds with rfl | ⟨es, e, rfl⟩
  · simpa using first
  · intro c last
    exact second c (by simpa using last)

/-- A text is a line without an end, or a line with its newline and the text behind it. -/
@[elab_as_elim]
theorem line_induction {P : List Char → Prop} (last : ∀ l, '\n' ∉ l → P l)
    (line : ∀ l rest, '\n' ∉ l → P rest → P (l ++ '\n' :: rest)) (cs : List Char) : P cs := by
  generalize hp : pieces '\n' cs = ps
  induction ps generalizing cs with
  | nil => exact absurd hp (pieces_ne_nil '\n' cs)
  | cons p ps ih =>
    have free : '\n' ∉ p := not_mem_of_mem_pieces (by rw [hp]; simp)
    have whole := intercalate_pieces '\n' cs
    cases ps with
    | nil =>
      have alone : cs = p := by rw [← whole, hp]; simp [List.intercalate]
      exact alone ▸ last p free
    | cons q qs =>
      have split : cs = p ++ '\n' :: ['\n'].intercalate (q :: qs) := by
        rw [← whole, hp]
        simp [List.intercalate]
      rw [split, pieces_append_mark free] at hp
      rw [split]
      exact line p _ free (ih _ (List.cons.inj hp).2)

theorem lines_of_not_mem {l : List Char} (h : '\n' ∉ l) : lines l = if l = [] then [] else [l] := by
  cases l <;> simp [lines, pieces_of_not_mem h]

theorem lines_append_mark {l : List Char} (h : '\n' ∉ l) (rest : List Char) :
    lines (l ++ '\n' :: rest) = dropReturn l :: lines rest := by
  have ne := pieces_ne_nil '\n' rest
  have last := List.getLast?_eq_some_getLast ne
  simp [lines, pieces_append_mark h, List.dropLast_cons_of_ne_nil ne, List.getLast?_cons, last]

theorem lines_append {cs : List Char} (ended : Ended cs) (ds : List Char) :
    lines (cs ++ ds) = lines cs ++ lines ds := by
  induction cs using line_induction with
  | last l free =>
    obtain rfl := (ended_of_not_mem free).1 ended
    rfl
  | line l rest free ih =>
    have behind := ih ((ended_append_mark l rest).1 ended)
    rw [List.append_assoc, List.cons_append, lines_append_mark free, lines_append_mark free, behind,
      List.cons_append]

/-- A tab in front of every line that has its newline. -/
def indent (cs : List Char) : List Char :=
  (pieces '\n' cs).dropLast.flatMap fun l => '\t' :: (l ++ ['\n'])

theorem indent_append_mark {l : List Char} (h : '\n' ∉ l) (rest : List Char) :
    indent (l ++ '\n' :: rest) = '\t' :: (l ++ '\n' :: indent rest) := by
  simp [indent, pieces_append_mark h, List.dropLast_cons_of_ne_nil (pieces_ne_nil '\n' rest)]

theorem indent_of_not_mem {l : List Char} (h : '\n' ∉ l) : indent l = [] := by
  simp [indent, pieces_of_not_mem h]

theorem ended_indent (cs : List Char) : Ended (indent cs) := by
  induction cs using line_induction with
  | last l free => rw [indent_of_not_mem free]; exact ended_nil
  | line l rest free ih =>
    rw [indent_append_mark free, ← List.cons_append, ended_append_mark]
    exact ih

theorem lines_indent {cs : List Char} (ended : Ended cs) :
    lines (indent cs) = (lines cs).map ('\t' :: ·) := by
  induction cs using line_induction with
  | last l free =>
    obtain rfl := (ended_of_not_mem free).1 ended
    rfl
  | line l rest free ih =>
    have behind := ih ((ended_append_mark l rest).1 ended)
    have free' : '\n' ∉ '\t' :: l := by simp [free]
    rw [indent_append_mark free, ← List.cons_append, lines_append_mark free', lines_append_mark free,
      behind, dropReturn_cons (by decide), List.map_cons]

/-! ### Sizes -/

/-- A text that each element is written behind. -/
theorem toList_foldl {α : Type} {f : String → α → String} {g : α → List Char}
    (h : ∀ out a, (f out a).toList = out.toList ++ g a) (as : List α) (out : String) :
    (as.foldl f out).toList = out.toList ++ as.flatMap g := by
  induction as generalizing out with
  | nil => simp
  | cons a as ih => rw [List.foldl_cons, ih, h, List.flatMap_cons, List.append_assoc]

theorem foldl_utf8Size (cs : List Char) (n : Nat) :
    cs.foldl (fun n c => n + c.utf8Size) n = n + byteLength cs := by
  induction cs generalizing n with
  | nil => rfl
  | cons c cs ih =>
    simp only [byteLength, List.foldl_cons, Nat.zero_add]
    rw [ih, ih c.utf8Size]
    omega

@[simp] theorem byteLength_nil : byteLength [] = 0 := rfl

@[simp] theorem byteLength_cons (c : Char) (cs : List Char) :
    byteLength (c :: cs) = c.utf8Size + byteLength cs := by
  simp only [byteLength, List.foldl_cons, Nat.zero_add]
  exact foldl_utf8Size cs _

@[simp] theorem byteLength_append (cs ds : List Char) :
    byteLength (cs ++ ds) = byteLength cs + byteLength ds := by
  induction cs with
  | nil => simp
  | cons c cs ih => simp [ih, Nat.add_assoc]

theorem utf8ByteSize_ofList (cs : List Char) : (String.ofList cs).utf8ByteSize = byteLength cs := by
  induction cs with
  | nil => rfl
  | cons c cs ih =>
    rw [byteLength_cons, ← ih, ← List.singleton_append, String.ofList_append,
      String.utf8ByteSize_append]
    congr 1
    exact String.utf8ByteSize_singleton

theorem byteLength_le (cs : List Char) : byteLength cs ≤ 4 * cs.length := by
  induction cs with
  | nil => simp
  | cons c cs ih =>
    have wide := c.utf8Size_le_four
    simp only [byteLength_cons, List.length_cons]
    omega

theorem byteLength_dropReturn_le (cs : List Char) : byteLength (dropReturn cs) ≤ byteLength cs := by
  unfold dropReturn
  split
  · rename_i last
    obtain ⟨ds, rfl⟩ := List.getLast?_eq_some_iff.1 last
    simp
  · exact Nat.le_refl _

/-- What a meter counts for lines: the bytes of each and one for its end. -/
def size (ls : List (List Char)) : Nat := ls.foldr (fun l rest => byteLength l + 1 + rest) 0

@[simp] theorem size_nil : size [] = 0 := rfl

@[simp] theorem size_cons (l : List Char) (ls : List (List Char)) :
    size (l :: ls) = byteLength l + 1 + size ls := rfl

theorem size_append (ls ms : List (List Char)) : size (ls ++ ms) = size ls + size ms := by
  induction ls with
  | nil => simp
  | cons l ls ih => simp [ih, Nat.add_assoc]

theorem length_le_size (ls : List (List Char)) : ls.length ≤ size ls := by
  induction ls with
  | nil => simp
  | cons l ls ih =>
    simp only [List.length_cons, size_cons]
    omega

theorem size_map_dropReturn_le (ls : List (List Char)) :
    size (ls.map dropReturn) ≤ byteLength (ls.flatMap (· ++ ['\n'])) := by
  induction ls with
  | nil => simp
  | cons l ls ih =>
    have := byteLength_dropReturn_le l
    have newline : '\n'.utf8Size = 1 := rfl
    simp only [List.map_cons, size_cons, List.flatMap_cons, byteLength_append, byteLength_cons,
      byteLength_nil, newline]
    omega

theorem byteLength_dropReturn_eq {l : List Char} :
    byteLength (dropReturn l) = byteLength l ↔ l.getLast? ≠ some '\r' := by
  constructor
  · intro same last
    obtain ⟨ds, rfl⟩ := List.getLast?_eq_some_iff.1 last
    have positive : 0 < '\r'.utf8Size := by decide
    rw [dropReturn_append_return] at same
    simp only [byteLength_append, byteLength_cons] at same
    omega
  · intro other
    rw [dropReturn_of_getLast? other]

theorem return_infix_append_mark {l : List Char} (h : '\n' ∉ l) (rest : List Char) :
    ['\r', '\n'] <:+: l ++ '\n' :: rest ↔ l.getLast? = some '\r' ∨ ['\r', '\n'] <:+: rest := by
  constructor
  · rintro ⟨ds, es, split⟩
    have split : ds ++ '\r' :: '\n' :: es = l ++ '\n' :: rest := by simpa using split
    rcases List.append_eq_append_iff.1 split with ⟨as, rfl, tail⟩ | ⟨as, rfl, tail⟩
    · left
      cases as with
      | nil => simp at tail
      | cons a as =>
        obtain ⟨rfl, tail⟩ : '\r' = a ∧ '\n' :: es = as ++ '\n' :: rest := by simpa using tail
        cases as with
        | nil => simp
        | cons b bs =>
          obtain ⟨rfl, -⟩ : '\n' = b ∧ es = bs ++ '\n' :: rest := by simpa using tail
          simp at h
    · right
      cases as with
      | nil => simp at tail
      | cons a as =>
        obtain ⟨-, rfl⟩ := List.cons.inj tail
        exact ⟨as, es, by simp⟩
  · rintro (last | ⟨ds, es, rfl⟩)
    · obtain ⟨ds, rfl⟩ := List.getLast?_eq_some_iff.1 last
      exact ⟨ds, rest, by simp⟩
    · exact ⟨l ++ '\n' :: ds, es, by simp⟩

/-- The lines of a text measure no more than the text, or one more if its last line has no newline
for which they count one. -/
theorem size_lines_le (cs : List Char) : size (lines cs) ≤ byteLength cs + 1 := by
  induction cs using line_induction with
  | last l free =>
    rw [lines_of_not_mem free]
    split <;> simp
  | line l rest free ih =>
    have shorter := byteLength_dropReturn_le l
    have newline : '\n'.utf8Size = 1 := rfl
    simp only [lines_append_mark free, size_cons, byteLength_append, byteLength_cons, newline]
    omega

theorem size_lines_eq_succ_iff (cs : List Char) :
    size (lines cs) = byteLength cs + 1 ↔ ¬ Ended cs ∧ ¬ ['\r', '\n'] <:+: cs := by
  induction cs using line_induction with
  | last l free =>
    have unbroken : ¬ ['\r', '\n'] <:+: l := fun sub => free (sub.subset (by simp))
    rw [lines_of_not_mem free, ended_of_not_mem free]
    by_cases none : l = [] <;> simp [none, unbroken]
  | line l rest free ih =>
    have shorter := byteLength_dropReturn_le l
    have below := size_lines_le rest
    have newline : '\n'.utf8Size = 1 := rfl
    rw [ended_append_mark, return_infix_append_mark free, not_or, ← and_assoc, and_comm (a := ¬ _),
      and_assoc, ← ih, ← ne_eq, ← byteLength_dropReturn_eq]
    simp only [lines_append_mark free, size_cons, byteLength_append, byteLength_cons, newline]
    omega

theorem size_lines_le_of_ended {cs : List Char} (ended : Ended cs) :
    size (lines cs) ≤ byteLength cs := by
  have below := size_lines_le cs
  have other : size (lines cs) ≠ byteLength cs + 1 := fun same =>
    ((size_lines_eq_succ_iff cs).1 same).1 ended
  omega

end TabMarkup.Text
