import TabMarkup.Proofs.Lists
import TabMarkup.Proofs.Tree.Comparison
import TabMarkup.Proofs.Writing.Rebuilding

/-!
Tags that are the same when they are read back. A legible tag keeps what it shows unless a blank
or a carriage return stands where reading cuts it off.
-/
namespace TabMarkup

/-- Nothing of the tag is cut off when it is read back: no blank at the end of a void name that
nothing follows, none at the start of the first key, no carriage return at the end of a line. -/
structure Tag.Kept (t : Tag) : Prop where
  name : t.void = true → t.properties = [] → ∀ c ∈ t.name.toList.getLast?, Text.isBlank c = false
  key : ∀ p ∈ t.properties.head?, ∀ c ∈ p.name.toList.head?, Text.isBlank c = false
  content : ∀ text ∈ t.content, ∀ l ∈ Text.pieces '\n' text.toList, l.getLast? ≠ some '\r'

/-- The tag is kept, and is not taken for a legacy declaration. -/
structure Tag.Faithful (t : Tag) : Prop extends t.Kept where
  modern : t.name ≠ Line.legacyName

/-! ### What is cut off -/

theorem Text.respellLine_eq_self {l : List Char} : respellLine l = l ↔ l.getLast? ≠ some '\r' := by
  constructor
  · intro h last
    obtain ⟨ds, rfl⟩ := List.getLast?_eq_some_iff.1 last
    have short := byteLength_dropReturn_le ds
    rw [respellLine, dropReturn_append_return] at h
    have positive : 0 < '\r'.utf8Size := by decide
    simp only [h, byteLength_append, byteLength_cons] at short
    omega
  · intro h
    have once := dropReturn_of_getLast? h
    rw [respellLine, once, once]

namespace Head

theorem respellName_eq_self {name : String} {pairs : List (String × String)} :
    respellName name pairs = name ↔
      (pairs = [] → ∀ c ∈ name.toList.getLast?, Text.isBlank c = false) := by
  unfold respellName
  split
  · rename_i none
    rw [← String.toList_inj, String.toList_ofList, Text.trimEnd_eq_self]
    simp [none]
  · rename_i some
    simp [some]

theorem respellPairs_eq_self {pairs : List (String × String)} :
    respellPairs pairs = pairs ↔ ∀ p ∈ pairs.head?, ∀ c ∈ p.1.toList.head?, Text.isBlank c = false := by
  cases pairs with
  | nil => simp [respellPairs]
  | cons p ps =>
    have key : String.ofList (Text.trimStart p.1.toList) = p.1 ↔
        Text.trimStart p.1.toList = p.1.toList := by
      rw [← String.toList_inj, String.toList_ofList]
    simp only [respellPairs, List.cons.injEq, and_true, Prod.ext_iff, key, Text.trimStart_eq_self]
    simp

end Head

theorem Text.pieces_intercalate {mark : Char} {ls : List (List Char)} (ne : ls ≠ [])
    (h : ∀ l ∈ ls, mark ∉ l) : pieces mark ([mark].intercalate ls) = ls := by
  induction ls with
  | nil => exact absurd rfl ne
  | cons l ls ih =>
    cases ls with
    | nil =>
      have whole : [mark].intercalate [l] = l := by simp [List.intercalate]
      rw [whole, pieces_of_not_mem (h l (by simp))]
    | cons m ls =>
      have split : [mark].intercalate (l :: m :: ls) = l ++ mark :: [mark].intercalate (m :: ls) := by
        simp [List.intercalate]
      rw [split, pieces_append_mark (h l (by simp)), ih (by simp) fun n hn => h n (by simp [hn])]

theorem Tag.rereadContent_eq_self {content : Option String} :
    rereadContent content = content ↔
      ∀ text ∈ content, ∀ l ∈ Text.pieces '\n' text.toList, l.getLast? ≠ some '\r' := by
  cases content with
  | none => simp [rereadContent]
  | some text =>
    simp only [rereadContent, Option.map_some, Option.some.injEq, Option.mem_some, forall_eq']
    constructor
    · intro h l hl
      have free : ∀ l ∈ (Text.pieces '\n' text.toList).map Text.respellLine, '\n' ∉ l := by
        intro m hm
        obtain ⟨p, hp, rfl⟩ := List.mem_map.1 hm
        exact fun mark => Text.not_mem_of_mem_pieces hp
          (Text.mem_of_mem_dropReturn (Text.mem_of_mem_dropReturn mark))
      have cut := Text.pieces_intercalate (by simpa using Text.pieces_ne_nil '\n' text.toList) free
      have joined : ['\n'].intercalate ((Text.pieces '\n' text.toList).map Text.respellLine) =
          text.toList := by
        have chars := congrArg String.toList h
        rw [String.toList_intercalate, List.map_map] at chars
        simpa [Function.comp_def] using chars
      rw [joined] at cut
      have same := List.map_inj_left.1 (cut.symm.trans (List.map_id _).symm) l hl
      exact Text.respellLine_eq_self.1 same
    · intro h
      have same : (Text.pieces '\n' text.toList).map (fun l => String.ofList (Text.respellLine l)) =
          (Text.pieces '\n' text.toList).map String.ofList :=
        List.map_congr_left fun l hl => by rw [Text.respellLine_eq_self.2 (h l hl)]
      rw [same, intercalate_pieces]

/-! ### Comparison -/

namespace Tag

theorem zip_map_all {f : Tag → Tag} {ts : List Tag} :
    (∀ p ∈ ts.zip (ts.map f), p.1.matching p.2 = true) ↔ ∀ t ∈ ts, t.matching (f t) = true := by
  induction ts with
  | nil => simp
  | cons t ts ih => simp only [List.map_cons, List.zip_cons_cons, List.forall_mem_cons, ih]

theorem matching_refined {g : Scan.Setting} (hg : g.Reshaping) (t u : Tag) :
    t.matching (refined g u) = t.matching u := by
  obtain ⟨shape, reshaped⟩ := hg.tags u
  rw [refined, reshaped]
  exact matching_reshaped t u shape

theorem sameProperties_ofPairs {t : Tag} (h : t.Legible) {pairs : List (String × String)} :
    sameProperties t.properties (Property.ofPairs pairs) = true ↔ t.pairs = pairs.eraseDups := by
  have shown : t.properties.map (fun p => (p.name, p.value)) = t.pairs.map fun p => (p.1, some p.2) := by
    rw [Tag.pairs, List.map_map]
    apply List.map_congr_left
    intro p hp
    obtain ⟨v, hv⟩ := Option.isSome_iff_exists.1 (h.valued p hp)
    simp [Property.pair, hv]
  have injective : Function.Injective fun p : String × String => (p.1, some p.2) := by
    rintro ⟨a, b⟩ ⟨c, d⟩ e
    simpa using e
  rw [sameProperties_eq_true, shown, Property.ofPairs, List.map_map]
  exact List.map_inj_right fun a b e => injective e

theorem name_reread {t : Tag} (h : t.Legible) :
    t.name = Head.respellName t.name t.pairs ↔
      (t.void = true → t.properties = [] → ∀ c ∈ t.name.toList.getLast?, Text.isBlank c = false) := by
  rw [eq_comm]
  cases void : t.void with
  | false => simp [Nest.respellName_of_solid (h.solid void)]
  | true => simp [Head.respellName_eq_self, Tag.pairs]

theorem respellPairs_eq_self (t : Tag) :
    Head.respellPairs t.pairs = t.pairs ↔
      ∀ p ∈ t.properties.head?, ∀ c ∈ p.name.toList.head?, Text.isBlank c = false := by
  rw [Head.respellPairs_eq_self]
  cases properties : t.properties <;> simp [Tag.pairs, properties, Property.pair]

theorem pairs_reread {t : Tag} (h : t.Legible) :
    t.pairs = (Head.respellPairs t.pairs).eraseDups ↔
      ∀ p ∈ t.properties.head?, ∀ c ∈ p.name.toList.head?, Text.isBlank c = false := by
  rw [← respellPairs_eq_self]
  constructor
  · intro same
    cases pairs : t.pairs with
    | nil => rfl
    | cons p ps =>
      rw [pairs, Head.respellPairs, List.eraseDups_cons] at same
      rw [Head.respellPairs, ← (List.cons.inj same).1]
  · intro same
    rw [same, eraseDups_of_nodup h.distinct]

/-- A tag is the same when it is read back exactly if nothing is cut off in it. -/
theorem matching_reread {g : Scan.Setting} (hg : g.Reshaping) {k : Nat} {t : Tag}
    (h : t.Everywhere (fun _ t => t.Legible) k) :
    t.matching (t.reread g) = true ↔ t.Everywhere (fun _ t => t.Kept) k := by
  induction h with
  | @intro k t here inside ih =>
    have shown : t.matching (t.reread g) = true ↔
        t.name = Head.respellName t.name t.pairs ∧ t.content = rereadContent t.content ∧
          t.pairs = (Head.respellPairs t.pairs).eraseDups ∧
          ∀ u ∈ t.children, u.matching (u.reread g) = true := by
      rw [reread_eq, matching_refined hg, matching_eq_true]
      simp only [sameProperties_ofPairs here, List.length_map, zip_map_all, true_and]
    rw [shown, name_reread here, pairs_reread here, eq_comm (a := t.content), rereadContent_eq_self]
    constructor
    · rintro ⟨name, content, key, children⟩
      exact .intro ⟨name, key, content⟩ fun u hu => (ih u hu).1 (children u hu)
    · intro kept
      exact ⟨kept.here.name, kept.here.content, kept.here.key,
        fun u hu => (ih u hu).2 (kept.inside u hu)⟩

theorem Faithful.readable {t : Tag} (h : t.Faithful) (legible : t.Legible) : t.Readable where
  modern := h.modern
  name := (name_reread legible).2 h.name ▸ legible.name.1
  keys p hp := by
    rw [(respellPairs_eq_self t).2 h.key] at hp
    exact (legible.pairs p hp).1.1.1

end Tag
end TabMarkup
