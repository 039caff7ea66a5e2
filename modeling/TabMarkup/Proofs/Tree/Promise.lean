import TabMarkup.Proofs.Tree.Orderly

/-!
What a variant stands for: pairs and scalars are void tags, lists are not. The void flag is asked for
when a tag is narrowed. Setting it later asks whether the tag is closed and empty, not what it has
become; no other operation parts the two.
-/
namespace TabMarkup

/-- The void flag that tags of a variant have. -/
def Variant.void? : Variant → Option Bool
  | .pair | .scalar => some true
  | .list => some false
  | .generic | .marker | .singleton => none

namespace Tag
variable {t u : Tag}

structure Meant (t : Tag) : Prop where
  void : t.variant = .pair ∨ t.variant = .scalar → t.void = true ∧ t.content = none ∧ t.children = []
  solid : t.variant = .list → t.void = false

/-- The flag is set against the variant, and nothing refuses that. -/
def Turns (t : Tag) (op : Operation) : Prop :=
  ∃ (void : Bool) (u : Tag), op = .setVoid void ∧ t.setVoid void = .ok u ∧ t.variant.void? = some !void

/-! ### One operation -/

/-- The void flag is that of the variant. -/
def Agrees (t : Tag) : Prop := ∀ void, t.variant.void? = some void → t.void = void

theorem agrees_of_generic (generic : t.shape = .generic) : t.Agrees := by
  intro void wanted
  rw [variant, generic] at wanted
  cases wanted

/-- The variant and the flag of a tag are all that matters. -/
theorem Agrees.congr (h : t.Agrees) (shape : u.shape = t.shape) (void : u.void = t.void) :
    u.Agrees := by
  intro flag wanted
  rw [void]
  exact h flag (by rwa [variant, shape] at wanted)

theorem agrees_perform_iff (h : t.Agrees) (op : Operation) :
    (t.perform op).2.Agrees ↔ ¬ t.Turns op := by
  constructor
  · rintro agrees ⟨void, u, rfl, done, against⟩
    have after : (t.perform (.setVoid void)).2 = u := by simp [perform, apply, done, Except.map]
    obtain ⟨-, -, rfl⟩ := setVoid_eq_ok.1 done
    rw [after] at agrees
    have turned : void = !void := agrees (!void) against
    cases void <;> cases turned
  · intro steady
    -- A flag that was refused is a tag that was kept, so only flags that were set are left to compare.
    have edited := edited_perform t op
    generalize (t.perform op).2 = u at edited ⊢
    cases edited with
    | kept => exact h
    | @setVoid void unclosed empty =>
      intro wanted promised
      by_cases same : void = wanted
      · exact same
      · obtain rfl : wanted = !void := Bool.eq_not_of_ne (Ne.symm same)
        exact absurd ⟨void, _, rfl, setVoid_eq_ok.2 ⟨unclosed, empty, rfl⟩, promised⟩ steady
    | narrowToList solid => exact fun _ promised => (Option.some.inj promised) ▸ solid
    | narrowToPair void => exact fun _ promised => (Option.some.inj promised) ▸ void
    | narrowToScalar void => exact fun _ promised => (Option.some.inj promised) ▸ void
    | widen => exact agrees_of_generic rfl
    | _ => exact h.congr rfl rfl

theorem Orderly.meant_iff (h : t.Orderly) : t.Meant ↔ t.Agrees := by
  unfold Agrees
  constructor
  · intro meant void wanted
    cases variant : t.variant <;> rw [variant] at wanted <;> cases wanted
    · exact meant.solid variant
    · exact (meant.void (.inl variant)).1
    · exact (meant.void (.inr variant)).1
  · refine fun agrees => ⟨fun narrowed => ?_, fun list => agrees false (by rw [list]; rfl)⟩
    have void : t.void = true := agrees true (by rcases narrowed with h | h <;> rw [h] <;> rfl)
    exact ⟨void, h.empty void⟩

/-! ### Histories -/

theorem Orderly.below {children : List Tag} (h : t.Orderly)
    (named : children.map (·.name) = t.children.map (·.name)) : Orderly { t with children } := by
  refine ⟨fun void => ⟨(h.empty void).1, ?_⟩, h.distinct, h.sides, h.single⟩
  rwa [(h.empty void).2, List.map_nil, List.map_eq_nil_iff] at named

theorem Orderly.performAt (h : t.Orderly) (way : List Nat) (op : Operation) :
    (t.performAt way op).2.Orderly :=
  performAt_keeps (fun _ edited => edited.orderly h) fun _ named => h.below named

/-- An operation further down does not touch the flag. -/
theorem agrees_performAt_iff (h : t.Agrees) (way : List Nat) (op : Operation) :
    (t.performAt way op).2.Agrees ↔ ¬ (way = [] ∧ t.Turns op) := by
  cases way with
  | nil =>
    rw [performAt_nil]
    simpa using agrees_perform_iff h op
  | cons i way =>
    rw [performAt_cons]
    exact iff_of_true (h.congr rfl rfl) (by simp)

theorem agrees_throughout_iff (h : t.Agrees) (ops : List (List Nat × Operation)) :
    (∀ pre, pre <+: ops → (t.performAll pre).Agrees) ↔
      ∀ pre op post, ops = pre ++ ([], op) :: post → ¬ (t.performAll pre).Turns op := by
  induction ops generalizing t with
  | nil => exact iff_of_true (fun pre empty => by rwa [List.prefix_nil.1 empty]) (by simp)
  | cons first ops ih =>
    obtain ⟨way, op⟩ := first
    have step := agrees_performAt_iff h way op
    constructor
    · intro throughout pre later post split
      have after := throughout [(way, op)] (by simp)
      rcases List.cons_eq_append_iff.1 split with ⟨rfl, here⟩ | ⟨pre, rfl, rest⟩
      · cases here
        exact fun turns => step.1 after ⟨rfl, turns⟩
      · refine (ih after).1 (fun pre short => ?_) pre later post rest
        exact throughout ((way, op) :: pre) (List.cons_prefix_cons.2 ⟨rfl, short⟩)
    · intro steady pre short
      rcases List.prefix_cons_iff.1 short with rfl | ⟨pre, rfl, shorter⟩
      · exact h
      · have after : (t.performAt way op).2.Agrees := by
          rw [step]
          rintro ⟨rfl, turns⟩
          exact steady [] op ops rfl turns
        refine (ih after).2 (fun pre later post rest => ?_) pre shorter
        exact steady ((way, op) :: pre) later post (by rw [rest]; rfl)

theorem Orderly.performAll (h : t.Orderly) (ops : List (List Nat × Operation)) :
    (t.performAll ops).Orderly := by
  induction ops generalizing t with
  | nil => exact h
  | cons op ops ih => exact ih (h.performAt op.1 op.2)

/-- All along a history the tag is what its variant stands for, if and only if the void flag is at no
point set against the variant. -/
theorem meant_throughout_iff {name : String} (made : new name = .ok t)
    (ops : List (List Nat × Operation)) :
    (∀ pre, pre <+: ops → (t.performAll pre).Meant) ↔
      ∀ pre op post, ops = pre ++ ([], op) :: post → ¬ (t.performAll pre).Turns op := by
  obtain ⟨-, rfl⟩ := new_eq_ok.1 made
  have orderly : Orderly { name } := ⟨nofun, .nil, nofun, nofun⟩
  rw [← agrees_throughout_iff (agrees_of_generic rfl)]
  exact forall_congr' fun pre => imp_congr_right fun _ => (orderly.performAll pre).meant_iff

/-- A scalar whose void flag is set once more before it is closed. -/
theorem meant_throughout_scalar :
    let ops : List (List Nat × Operation) :=
      [([], .addProperty { name := "value" }), ([], .setVoid true), ([], .narrowToScalar),
        ([], .setVoid true), ([], .close)]
    new "item" = .ok { name := "item" } ∧
      ((∀ pre, pre <+: ops → (performAll { name := "item" } pre).Meant) ↔
        ∀ pre op post, ops = pre ++ ([], op) :: post →
          ¬ (performAll { name := "item" } pre).Turns op) :=
  have made : new "item" = .ok { name := "item" } := rfl
  ⟨made, meant_throughout_iff made _⟩

/-- A pair that is made a container after it was narrowed. -/
def unfolded : Tag := performAll { name := "entry" }
  [([], .addProperty { name := "left", value := some "a" }),
    ([], .addProperty { name := "right", value := some "b" }), ([], .setVoid true), ([], .narrowToPair),
    ([], .setVoid false), ([], .appendContent "c")]

/-- A list that is made void after it has lost its child. -/
def emptied : Tag := performAll { name := "items" }
  [([], .addChild { name := "item" }), ([], .narrowToList), ([], .removeChild 0), ([], .setVoid true)]

theorem void_against_variant :
    new "entry" = .ok { name := "entry" } ∧ new "items" = .ok { name := "items" } ∧
      (unfolded.variant = .pair ∧ unfolded.void = false ∧ unfolded.content = some "c") ∧
      (emptied.variant = .list ∧ emptied.void = true) :=
  ⟨rfl, rfl, ⟨rfl, rfl, rfl⟩, rfl, rfl⟩

end Tag
end TabMarkup
