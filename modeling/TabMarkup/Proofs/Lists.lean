/-! Lists that grow at their end, and lists without repetitions. -/
namespace TabMarkup
variable {α : Type}

/-- What a list is split at stands in the list already, or is what was added to it. -/
theorem concat_eq_append_cons {as bs cs : List α} {a b : α} :
    as ++ [a] = bs ++ b :: cs ↔
      as = bs ∧ a = b ∧ cs = [] ∨ ∃ ds, cs = ds ++ [a] ∧ as = bs ++ b :: ds := by
  constructor
  · intro split
    rcases List.eq_nil_or_concat cs with rfl | ⟨ds, d, rfl⟩
    · obtain ⟨rfl, ⟨⟩⟩ := List.append_inj' split rfl
      exact .inl ⟨rfl, rfl, rfl⟩
    · rw [List.concat_eq_append, ← List.cons_append, ← List.append_assoc] at split
      obtain ⟨rfl, ⟨⟩⟩ := List.append_inj' split rfl
      exact .inr ⟨ds, List.concat_eq_append, rfl⟩
  · rintro (⟨rfl, rfl, rfl⟩ | ⟨ds, rfl, rfl⟩)
    · rfl
    · rw [List.append_assoc, List.cons_append]

theorem getElem?_concat {xs : List α} {x y : α} {k : Nat} :
    (xs ++ [x])[k]? = some y ↔ xs[k]? = some y ∨ k = xs.length ∧ x = y := by
  rw [List.getElem?_append]
  split
  · rename_i inner
    have other : k ≠ xs.length := by omega
    simp [other]
  · rename_i outer
    have none : xs[k]? = none := List.getElem?_eq_none (by omega)
    have here : k - xs.length = 0 ↔ k = xs.length := by omega
    simp [none, List.getElem?_singleton, here]

/-! ### Without repetitions -/

variable [BEq α]

theorem eraseDups_sublist : (as : List α) → as.eraseDups.Sublist as
  | [] => .slnil
  | a :: as => by
    rw [List.eraseDups_cons]
    exact ((eraseDups_sublist _).trans List.filter_sublist).cons_cons a
termination_by as => as.length
decreasing_by exact Nat.lt_succ_of_le (List.length_filter_le _ as)

variable [LawfulBEq α]

theorem nodup_eraseDups : (as : List α) → as.eraseDups.Nodup
  | [] => List.nodup_nil
  | a :: as => by
    rw [List.eraseDups_cons, List.nodup_cons]
    exact ⟨by simp [List.mem_eraseDups], nodup_eraseDups _⟩
termination_by as => as.length
decreasing_by exact Nat.lt_succ_of_le (List.length_filter_le _ as)

theorem eraseDups_of_nodup {as : List α} (h : as.Nodup) : as.eraseDups = as := by
  induction as with
  | nil => rfl
  | cons a as ih =>
    have ⟨other, rest⟩ := List.nodup_cons.1 h
    have kept : as.filter (fun b => !b == a) = as := by
      rw [List.filter_eq_self]
      intro b hb
      have : b ≠ a := fun e => other (e ▸ hb)
      simpa using this
    rw [List.eraseDups_cons, kept, ih rest]

theorem length_eq_erase_add (as : List α) (a : α) [Decidable (a ∈ as)] :
    as.length = (as.erase a).length + if a ∈ as then 1 else 0 := by
  split
  · next member =>
    have := List.length_pos_of_mem member
    rw [List.length_erase_of_mem member]
    omega
  · next absent => rw [List.erase_of_not_mem absent, Nat.add_zero]

/-- Lists that agree on everything else differ in length as they do on one element. -/
theorem length_add_of_agree {as bs : List α} (ha : as.Nodup) (hb : bs.Nodup) (a : α)
    [Decidable (a ∈ as)] [Decidable (a ∈ bs)] (agree : ∀ b, b ≠ a → (b ∈ as ↔ b ∈ bs)) :
    as.length + (if a ∈ bs then 1 else 0) = bs.length + if a ∈ as then 1 else 0 := by
  have others : (as.erase a).Perm (bs.erase a) := by
    rw [List.perm_ext_iff_of_nodup (ha.erase a) (hb.erase a)]
    intro b
    rw [ha.mem_erase_iff, hb.mem_erase_iff]
    exact and_congr_right (agree b)
  rw [length_eq_erase_add as a, length_eq_erase_add bs a, others.length_eq]
  omega

end TabMarkup
