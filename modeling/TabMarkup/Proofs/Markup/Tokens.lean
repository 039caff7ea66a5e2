import TabMarkup.Proofs.Markup.Properties

/-!
What tokens keep of a line: everything but the quotes and the separators outside of quotes, in the
order of the line. A line has tokens unless it leaves a quote open.
-/
namespace TabMarkup.Token

def Separates (c : Char) : Prop := c = ' ' ∨ c = '='

instance (c : Char) : Decidable (Separates c) := inferInstanceAs (Decidable (_ ∨ _))

/-- Behind these characters no quote is open. -/
def Outside (before : List Char) : Prop := before.count '"' % 2 = 0

instance (before : List Char) : Decidable (Outside before) := inferInstanceAs (Decidable (_ = _))

/-- A character behind others is neither a quote nor a separator outside of quotes. -/
def Keeps (before : List Char) (c : Char) : Prop := c ≠ '"' ∧ ¬(Separates c ∧ Outside before)

instance (before : List Char) (c : Char) : Decidable (Keeps before c) :=
  inferInstanceAs (Decidable (_ ∧ _))

def kept (line : List Char) : List Char :=
  (line.zipIdx.filter fun (c, i) => Keeps (line.take i) c).map Prod.fst

theorem kept_concat (done : List Char) (c : Char) :
    kept (done ++ [c]) = kept done ++ if Keeps done c then [c] else [] := by
  have earlier : ∀ p ∈ done.zipIdx,
      decide (Keeps ((done ++ [c]).take p.2) p.1) = decide (Keeps (done.take p.2) p.1) := by
    intro p member
    have inside : p.2 < done.length := List.snd_lt_of_mem_zipIdx member
    rw [List.take_append_of_le_length (Nat.le_of_lt inside)]
  rw [kept, List.zipIdx_append, List.filter_append, List.map_append, List.filter_congr earlier, kept]
  congr 1
  by_cases keeps : Keeps done c <;> simp [keeps]

/-- Empty tokens are quoted, and tokens with separators are. -/
structure Proper (t : Token) : Prop where
  named : t.text = "" → t.quoted = true
  solid : t.quoted = false → ∀ c ∈ t.text.toList, ¬Separates c

namespace State

/-- All that the tokens and the word hold. -/
def said (s : State) : List Char := (s.tokens.reverse.flatMap fun t => t.text.toList) ++ s.word.reverse

theorem said_flush (s : State) : s.flush.said = s.said := by
  unfold flush
  split
  · rfl
  · simp [said]

theorem word_flush (s : State) : s.flush.word = [] := by
  unfold flush
  split
  · next nothing => exact List.isEmpty_iff.1 ((Bool.and_eq_true_iff.1 nothing).1)
  · rfl

/-- A tokenizer that has gone through some characters. -/
structure Conserves (done : List Char) (s : State) : Prop where
  said : s.said = kept done
  outside : s.inQuotes = false ↔ Outside done
  quoted : s.inQuotes = true → s.quoted = true
  word : s.quoted = false → ∀ c ∈ s.word, ¬Separates c
  tokens : ∀ t ∈ s.tokens, t.Proper

variable {s : State} {done : List Char}

theorem Conserves.proper_flush (h : s.Conserves done) : ∀ t ∈ s.flush.tokens, t.Proper := by
  unfold flush
  split
  · exact h.tokens
  · next something =>
    intro t member
    rcases List.mem_cons.1 member with rfl | earlier
    · refine ⟨fun empty => ?_, fun plain => by simpa using h.word plain⟩
      have none : s.word = [] := by simpa using congrArg String.toList empty
      simpa [none] using something
    · exact h.tokens t earlier

theorem outside_concat_quote : Outside (done ++ ['"']) ↔ ¬Outside done := by
  simp only [Outside, List.count_append, List.count_singleton_self]
  omega

theorem outside_concat {c : Char} (other : c ≠ '"') : Outside (done ++ [c]) ↔ Outside done := by
  simp [Outside, other]

/-- A character that counts goes to the word. -/
theorem Conserves.longer {c : Char} (h : s.Conserves done) (other : c ≠ '"')
    (keeps : s.inQuotes = true ∨ ¬Separates c) :
    Conserves (done ++ [c]) { s with word := c :: s.word } := by
  have counts : Keeps done c := by
    refine ⟨other, fun ⟨separates, outside⟩ => ?_⟩
    rcases keeps with inside | plain
    · exact Bool.false_ne_true ((h.outside.2 outside).symm.trans inside)
    · exact plain separates
  refine ⟨?_, h.outside.trans (outside_concat other).symm, h.quoted, ?_, h.tokens⟩
  · rw [kept_concat, if_pos counts, ← h.said]
    simp [State.said]
  · intro unquoted d member
    rcases List.mem_cons.1 member with rfl | earlier
    · refine keeps.resolve_left fun inside => ?_
      exact Bool.false_ne_true (Eq.trans (Eq.symm unquoted) (h.quoted inside))
    · exact h.word unquoted d earlier

theorem Conserves.step (h : s.Conserves done) (c : Char) : (s.step c).Conserves (done ++ [c]) := by
  have dropped (drops : ¬Keeps done c) : s.said = kept (done ++ [c]) := by
    rw [kept_concat, if_neg drops, List.append_nil, h.said]
  unfold State.step
  split
  · next quote =>
    subst quote
    have drops := dropped fun keeps => keeps.1 rfl
    have turned := outside_concat_quote.trans (not_congr h.outside.symm)
    split
    · next inside => exact ⟨drops, by simp [turned, inside], nofun, h.word, h.tokens⟩
    · next out => exact ⟨drops, by simp [turned, out], fun _ => rfl, nofun, h.tokens⟩
  · next other =>
    split
    · next inside => exact h.longer other (.inl inside)
    · next out =>
      have outside : Outside done := h.outside.1 (Bool.eq_false_iff.2 out)
      split
      · next sep =>
        have separates : Separates c := by simpa [Separates] using sep
        constructor
        case said => rw [said_flush, dropped fun keeps => keeps.2 ⟨separates, outside⟩]
        case outside => simpa [outside_concat other, outside] using out
        case quoted => exact fun inside => absurd (s.inQuotes_flush ▸ inside) out
        case word => simp [word_flush]
        case tokens => exact h.proper_flush
      · next plain => exact h.longer other (.inr (by simpa [Separates] using plain))

theorem Conserves.foldl (h : s.Conserves done) (cs : List Char) :
    (cs.foldl State.step s).Conserves (done ++ cs) := by
  induction cs generalizing s done with
  | nil => simpa using h
  | cons c cs ih => simpa using ih (h.step c)

theorem conserves (line : List Char) : (line.foldl State.step {}).Conserves line := by
  have start : Conserves [] {} := ⟨rfl, by decide, nofun, nofun, nofun⟩
  exact start.foldl line

end State

/-- A line has tokens if and only if its quotes come in pairs. The tokens hold, one after the other,
the characters of the line but for the quotes and for the separators outside of quotes; an empty token
was quoted, and so was one with a separator in it. -/
theorem tokenize_conserves (line : List Char) :
    (tokenize line = .error ((invalid line).withContext "unterminated quote") ↔
      line.count '"' % 2 = 1) ∧
    ((∃ ts, tokenize line = .ok ts) ↔ line.count '"' % 2 = 0) ∧
    ∀ ts, tokenize line = .ok ts → (ts.flatMap fun t => t.text.toList) = kept line ∧
      ∀ t ∈ ts, (t.text = "" → t.quoted = true) ∧ '"' ∉ t.text.toList ∧
        (t.quoted = false → ' ' ∉ t.text.toList ∧ '=' ∉ t.text.toList) := by
  have run := State.conserves line
  have outside : (line.foldl State.step {}).inQuotes = false ↔ line.count '"' % 2 = 0 := run.outside
  have said := (State.said_flush _).trans run.said
  have proper := run.proper_flush
  have texts := @mem_of_tokenize line
  unfold tokenize at texts ⊢
  rcases inside : (line.foldl State.step {}).inQuotes with _ | _
  · have even := outside.1 inside
    simp only [inside, Bool.false_eq_true, if_false] at texts ⊢
    refine ⟨by simp [even], by simp [even], ?_⟩
    rintro _ ⟨⟩
    refine ⟨?_, fun t member => ?_⟩
    · rw [← said, State.said, State.word_flush, List.reverse_nil, List.append_nil]
    · have own := proper t (List.mem_reverse.1 member)
      refine ⟨own.named, fun quote => (texts rfl t member _ quote).2 rfl, fun plain => ?_⟩
      exact ⟨fun space => own.solid plain _ space (.inl rfl),
        fun equals => own.solid plain _ equals (.inr rfl)⟩
  · have odd : line.count '"' % 2 = 1 := by
      have := (not_congr outside).1 (by simp [inside])
      omega
    simp [odd, inside]

/-- Quotes open and close within words; there is a token of nothing, and one with separators in it. -/
def quotedWords : List Char := "a=\"b =c\"d \"\" = e".toList

theorem tokenize_conserves_quotedWords :
    tokenize quotedWords = .ok [⟨"a", false⟩, ⟨"b =cd", true⟩, ⟨"", true⟩, ⟨"e", false⟩] ∧
    kept quotedWords = "ab =cde".toList ∧ ∃ e, tokenize ('"' :: quotedWords) = .error e := by
  have read : tokenize quotedWords =
      .ok [⟨"a", false⟩, ⟨"b =cd", true⟩, ⟨"", true⟩, ⟨"e", false⟩] := by rfl
  exact ⟨read, ((tokenize_conserves quotedWords).2.2 _ read).1.symm,
    _, (tokenize_conserves ('"' :: quotedWords)).1.2 (by decide)⟩

end TabMarkup.Token
