import TabMarkup.Markup.Token
import TabMarkup.Tree.Property

/-!
Property lists that are written and read. A pair is written as its key, an equals sign and its
value in quotes; what is written so is read back, and pairs that were read can be written so.
So the written lists are one spelling for each list that some line spells.
-/
namespace TabMarkup

/-- A key can be written without quotes. -/
def IsKey (key : String) : Prop := key ≠ "" ∧ ∀ c ∈ key.toList, Token.isSeparator c = false

/-- A value can be written between quotes. -/
def IsValue (value : String) : Prop := '"' ∉ value.toList

instance (key : String) : Decidable (IsKey key) :=
  decidable_of_iff (key ≠ "" ∧ key.toList.all (!Token.isSeparator ·) = true) (by simp [IsKey])

instance (value : String) : Decidable (IsValue value) := inferInstanceAs (Decidable (¬ _))

def writePair (p : String × String) : List Char := p.1.toList ++ '=' :: '"' :: (p.2.toList ++ ['"'])

/-- Pairs behind something else, each after a space. -/
def writePairs (ps : List (String × String)) : List Char := ps.flatMap fun p => ' ' :: writePair p

@[simp] theorem writePairs_nil : writePairs [] = [] := rfl

@[simp] theorem writePairs_cons (p : String × String) (ps : List (String × String)) :
    writePairs (p :: ps) = ' ' :: (writePair p ++ writePairs ps) := rfl

namespace Token

/-- The tokens of pairs: only the values are quoted. -/
def ofPairs (ps : List (String × String)) : List Token := ps.flatMap fun p => [⟨p.1, false⟩, ⟨p.2, true⟩]

@[simp] theorem ofPairs_nil : ofPairs [] = [] := rfl

@[simp] theorem ofPairs_cons (p : String × String) (ps : List (String × String)) :
    ofPairs (p :: ps) = ⟨p.1, false⟩ :: ⟨p.2, true⟩ :: ofPairs ps := rfl

theorem length_ofPairs (ps : List (String × String)) : (ofPairs ps).length = 2 * ps.length := by
  induction ps with
  | nil => rfl
  | cons p ps ih => simp only [ofPairs_cons, List.length_cons, ih]; omega

/-! ### Reading what was written -/

@[simp] theorem State.inQuotes_flush (s : State) : s.flush.inQuotes = s.inQuotes := by
  unfold flush
  split <;> rfl

theorem foldl_step_plain {cs : List Char} (h : ∀ c ∈ cs, isSeparator c = false) (s : State)
    (out : s.inQuotes = false) :
    cs.foldl State.step s = { s with word := cs.reverse ++ s.word } := by
  induction cs generalizing s with
  | nil => rfl
  | cons c cs ih =>
    have hc : (c ≠ ' ' ∧ c ≠ '=') ∧ c ≠ '"' := by simpa [isSeparator] using h c (by simp)
    have step : s.step c = { s with word := c :: s.word } := by
      simp [State.step, hc.1.1, hc.1.2, hc.2, out]
    rw [List.foldl_cons, step, ih (fun d hd => h d (by simp [hd])) { s with word := c :: s.word } out]
    simp

theorem foldl_step_quoted {cs : List Char} (h : '"' ∉ cs) (s : State) (inside : s.inQuotes = true) :
    cs.foldl State.step s = { s with word := cs.reverse ++ s.word } := by
  induction cs generalizing s with
  | nil => rfl
  | cons c cs ih =>
    have hc : c ≠ '"' := fun e => h (by simp [e])
    have step : s.step c = { s with word := c :: s.word } := by simp [State.step, hc, inside]
    rw [List.foldl_cons, step, ih (fun m => h (by simp [m])) { s with word := c :: s.word } inside]
    simp

theorem foldl_step_value {value : String} (h : IsValue value) (s : State) (out : s.inQuotes = false) :
    ('=' :: '"' :: (value.toList ++ ['"'])).foldl State.step s =
      { s.flush with word := value.toList.reverse ++ s.flush.word, quoted := true } := by
  have first : s.step '=' = s.flush := by simp [State.step, out]
  have second : s.flush.step '"' = { s.flush with inQuotes := true, quoted := true } := by
    simp [State.step, out]
  rw [List.foldl_cons, first, List.foldl_cons, second, List.foldl_append, foldl_step_quoted h _ rfl]
  simp [State.step, out]

theorem foldl_step_pair {p : String × String} (hk : IsKey p.1) (hv : IsValue p.2)
    (done : List Token) :
    (writePair p).foldl State.step ⟨done, [], false, false⟩ =
      ⟨⟨p.1, false⟩ :: done, p.2.toList.reverse, true, false⟩ := by
  have named : p.1.toList ≠ [] := fun e => hk.1 (String.toList_inj.1 e)
  rw [writePair, List.foldl_append, foldl_step_plain hk.2 _ rfl, foldl_step_value hv _ rfl]
  simp [State.flush, named]

theorem flush_foldl_writePairs {ps : List (String × String)}
    (h : ∀ p ∈ ps, IsKey p.1 ∧ IsValue p.2) (done : List Token) (value : String) :
    ((writePairs ps).foldl State.step ⟨done, value.toList.reverse, true, false⟩).flush =
      ⟨(⟨value, true⟩ :: ofPairs ps).reverse ++ done, [], false, false⟩ := by
  induction ps generalizing done value with
  | nil => simp [State.flush]
  | cons p ps ih =>
    have hp := h p (by simp)
    have spaced : (⟨done, value.toList.reverse, true, false⟩ : State).step ' ' =
        ⟨⟨value, true⟩ :: done, [], false, false⟩ := by
      simp [State.step, State.flush]
    rw [writePairs_cons, List.foldl_cons, spaced, List.foldl_append, foldl_step_pair hp.1 hp.2,
      ih (fun q hq => h q (by simp [hq]))]
    simp

theorem tokenize_write {p : String × String} {ps : List (String × String)}
    (h : ∀ q ∈ p :: ps, IsKey q.1 ∧ IsValue q.2) :
    tokenize (writePair p ++ writePairs ps) = .ok (ofPairs (p :: ps)) := by
  have hp := h p (by simp)
  have hps : ∀ q ∈ ps, IsKey q.1 ∧ IsValue q.2 := fun q hq => h q (by simp [hq])
  have run := flush_foldl_writePairs hps [⟨p.1, false⟩] p.2
  have out := congrArg State.inQuotes run
  rw [State.inQuotes_flush] at out
  simp only [tokenize, List.foldl_append, foldl_step_pair hp.1 hp.2, out, run]
  simp

theorem pairUp_ofPairs (line : List Char) {ps : List (String × String)} (h : ∀ p ∈ ps, IsKey p.1)
    (done : List (String × String)) : pairUp line done (ofPairs ps) = .ok (done.reverse ++ ps) := by
  induction ps generalizing done with
  | nil => simp [pairUp]
  | cons p ps ih =>
    have hp := h p (by simp)
    have readable : key line ⟨p.1, false⟩ = .ok p.1 := by
      have plain : p.1.toList.any isSeparator = false := by simpa using hp.2
      simp [key, hp.1, plain]
    simp only [ofPairs_cons, pairUp, readable]
    rw [ih (fun q hq => h q (by simp [hq]))]
    simp

end Token

theorem parseProperties_write {p : String × String} {ps : List (String × String)}
    (h : ∀ q ∈ p :: ps, IsKey q.1 ∧ IsValue q.2) :
    parseProperties (writePair p ++ writePairs ps) = .ok (p :: ps) := by
  have even : (Token.ofPairs (p :: ps)).length % 2 = 0 := by rw [Token.length_ofPairs]; omega
  simp only [parseProperties, Token.tokenize_write h, even]
  exact Token.pairUp_ofPairs _ (fun q hq => (h q hq).1) []

/-- Without its key the first pair leaves an odd number of tokens. -/
theorem parseProperties_keyless {value : String} {ps : List (String × String)} (line : List Char)
    (hl : line = '=' :: '"' :: (value.toList ++ ['"']) ++ writePairs ps) (hv : IsValue value)
    (h : ∀ q ∈ ps, IsKey q.1 ∧ IsValue q.2) :
    parseProperties line = .error (Token.invalid line) := by
  have run := Token.flush_foldl_writePairs h [] value
  have out := congrArg Token.State.inQuotes run
  rw [Token.State.inQuotes_flush] at out
  have first := Token.foldl_step_value hv {} rfl
  simp only [Token.State.flush, List.isEmpty_nil, Bool.not_false, Bool.and_self, if_true,
    List.append_nil] at first
  have tokens : Token.tokenize line = .ok (⟨value, true⟩ :: Token.ofPairs ps) := by
    simp only [hl, Token.tokenize, List.foldl_append, first, out, run]
    simp
  have odd : (⟨value, true⟩ :: Token.ofPairs ps : List Token).length % 2 = 1 := by
    rw [List.length_cons, Token.length_ofPairs]; omega
  simp only [parseProperties, tokens, odd, if_true]

/-! ### Writing what was read -/

namespace Token

/-- Every character of a word that was begun, or of a token, comes from the line, and is no quote. -/
def State.From (line : List Char) (s : State) : Prop :=
  (∀ c ∈ s.word, c ∈ line ∧ c ≠ '"') ∧ ∀ t ∈ s.tokens, ∀ c ∈ t.text.toList, c ∈ line ∧ c ≠ '"'

theorem State.From.flush {line : List Char} {s : State} (h : s.From line) : s.flush.From line := by
  unfold State.flush
  split
  · exact h
  · refine ⟨by simp, ?_⟩
    intro t ht
    rcases List.mem_cons.1 ht with rfl | ht
    · simpa using h.1
    · exact h.2 t ht

theorem State.From.step {line : List Char} {s : State} {c : Char} (h : s.From line) (hc : c ∈ line) :
    (s.step c).From line := by
  have longer (quote : c ≠ '"') : State.From line { s with word := c :: s.word } := by
    refine ⟨?_, h.2⟩
    intro d hd
    rcases List.mem_cons.1 hd with rfl | hd
    · exact ⟨hc, quote⟩
    · exact h.1 d hd
  unfold State.step
  split
  · split <;> exact h
  · split
    · exact longer ‹_›
    · split
      · exact h.flush
      · exact longer ‹_›

theorem State.From.foldl {line cs : List Char} {s : State} (h : s.From line)
    (sub : ∀ c ∈ cs, c ∈ line) : (cs.foldl State.step s).From line := by
  induction cs generalizing s with
  | nil => exact h
  | cons c cs ih => exact ih (h.step (sub c (by simp))) fun d hd => sub d (by simp [hd])

theorem mem_of_tokenize {line : List Char} {ts : List Token} (h : tokenize line = .ok ts) :
    ∀ t ∈ ts, ∀ c ∈ t.text.toList, c ∈ line ∧ c ≠ '"' := by
  have start : State.From line {} := ⟨by simp, by simp⟩
  have last := (start.foldl fun _ hc => hc).flush
  simp only [tokenize] at h
  split at h
  · cases h
  · cases h
    intro t ht
    exact last.2 t (by simpa using ht)

theorem key_eq_ok {line : List Char} {t : Token} {name : String} :
    key line t = .ok name ↔ t.text = name ∧ IsKey name := by
  unfold key
  split
  · rename_i empty
    simp [fail, IsKey]
    rintro rfl
    simp [empty]
  · rename_i named
    split
    · rename_i sep
      simp only [reduceCtorEq, false_iff, not_and]
      rintro rfl hk
      obtain ⟨c, hc, hs⟩ := List.any_eq_true.1 sep
      simp [hk.2 c hc] at hs
    · rename_i plain
      simp only [Except.ok.injEq]
      constructor
      · rintro rfl
        exact ⟨rfl, named, by simpa using plain⟩
      · exact fun h => h.1

theorem mem_of_pairUp {line : List Char} {ts : List Token} {done ps : List (String × String)}
    (h : pairUp line done ts = .ok ps) :
    ∀ p ∈ ps, p ∈ done ∨ IsKey p.1 ∧ (∃ t ∈ ts, t.text = p.1) ∧ ∃ t ∈ ts, t.text = p.2 := by
  fun_induction pairUp line done ts with
  | case1 => cases h
  | case2 done k v rest name hk ih =>
    intro p hp
    rcases ih h p hp with hd | ⟨key, ⟨t, ht, ht'⟩, u, hu, hu'⟩
    · rcases List.mem_cons.1 hd with rfl | hd
      · have := key_eq_ok.1 hk
        exact .inr ⟨this.2, ⟨k, by simp, this.1⟩, v, by simp, rfl⟩
      · exact .inl hd
    · exact .inr ⟨key, ⟨t, by simp [ht], ht'⟩, u, by simp [hu], hu'⟩
  | case3 =>
    cases h
    intro p hp
    exact .inl (by simpa using hp)

end Token

/-- Pairs that were read can be written, and all that they hold stood in the line. -/
theorem mem_of_parseProperties {line : List Char} {ps : List (String × String)}
    (h : parseProperties line = .ok ps) :
    ∀ p ∈ ps, IsKey p.1 ∧ IsValue p.2 ∧ ∀ c, c ∈ p.1.toList ∨ c ∈ p.2.toList → c ∈ line := by
  unfold parseProperties at h
  split at h
  · cases h
  · rename_i ts tokens
    have chars := Token.mem_of_tokenize tokens
    split at h
    · cases h
    · intro p hp
      rcases Token.mem_of_pairUp h p hp with none | ⟨key, ⟨t, ht, ht'⟩, u, hu, hu'⟩
      · cases none
      · refine ⟨key, fun hq => (chars u hu '"' (hu' ▸ hq)).2 rfl, ?_⟩
        rintro c (hc | hc)
        · exact (chars t ht c (ht' ▸ hc)).1
        · exact (chars u hu c (hu' ▸ hc)).1

/-! ### Lists of their own -/

/-- A property list in its written form, with single spaces between the pairs. -/
def renderPairs (ps : List (String × String)) : String :=
  " ".intercalate (ps.map fun p => Property.render { name := p.1, value := some p.2 })

theorem toList_renderPair (p : String × String) :
    (Property.render { name := p.1, value := some p.2 }).toList = writePair p := by
  simp [Property.render, writePair]

theorem toList_renderPairs (p : String × String) (ps : List (String × String)) :
    (renderPairs (p :: ps)).toList = writePair p ++ writePairs ps := by
  induction ps generalizing p with
  | nil => simp [renderPairs, toList_renderPair]
  | cons q ps ih =>
    rw [writePairs_cons, ← ih q]
    simp [renderPairs, toList_renderPair]

theorem parseProperties_renderPairs {ps : List (String × String)}
    (h : ∀ p ∈ ps, IsKey p.1 ∧ IsValue p.2) : parseProperties (renderPairs ps).toList = .ok ps := by
  cases ps with
  | nil => rfl
  | cons p ps =>
    rw [toList_renderPairs]
    exact parseProperties_write h

/-- A list is read back from its written form if and only if its keys and values can be written,
and the lists that some line spells are of this kind. -/
theorem parseProperties_exact :
    (∀ ps : List (String × String), parseProperties (renderPairs ps).toList = .ok ps ↔
      ∀ p ∈ ps, IsKey p.1 ∧ IsValue p.2) ∧
    ∀ (line : List Char) (ps : List (String × String)), parseProperties line = .ok ps →
      (∀ p ∈ ps, IsKey p.1 ∧ IsValue p.2) ∧ parseProperties (renderPairs ps).toList = .ok ps := by
  have writable {line : List Char} {ps : List (String × String)}
      (read : parseProperties line = .ok ps) : ∀ p ∈ ps, IsKey p.1 ∧ IsValue p.2 := by
    intro p hp
    obtain ⟨key, value, -⟩ := mem_of_parseProperties read p hp
    exact ⟨key, value⟩
  constructor
  · intro ps
    exact ⟨writable, parseProperties_renderPairs⟩
  · intro line ps read
    exact ⟨writable read, parseProperties_renderPairs (writable read)⟩

/-- A repeated key, an empty value and one that holds separators; and a list in another spelling. -/
theorem parseProperties_exact_spellings :
    (∀ p ∈ [("id", "7"), ("id", ""), ("note\t", " = <\n>")], IsKey p.1 ∧ IsValue p.2) ∧
    parseProperties (renderPairs [("id", "7"), ("id", ""), ("note\t", " = <\n>")]).toList =
      .ok [("id", "7"), ("id", ""), ("note\t", " = <\n>")] ∧
    parseProperties "\"id\"  7 = note=\"\"".toList = .ok [("id", "7"), ("note", "")] ∧
    parseProperties (renderPairs [("id", "7"), ("note", "")]).toList =
      .ok [("id", "7"), ("note", "")] := by
  have written : ∀ p ∈ [("id", "7"), ("id", ""), ("note\t", " = <\n>")],
      IsKey p.1 ∧ IsValue p.2 := by decide
  have spelled : parseProperties "\"id\"  7 = note=\"\"".toList =
      .ok [("id", "7"), ("note", "")] := by rfl
  exact ⟨written, (parseProperties_exact.1 _).2 written, spelled,
    (parseProperties_exact.2 _ _ spelled).2⟩

end TabMarkup
