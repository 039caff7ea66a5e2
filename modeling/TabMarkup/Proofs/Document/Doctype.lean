import TabMarkup.Document.Basic

/-!
Setting the doctype of a document. A registry holds the providers that could be registered when they
were offered, in that order. Of these the first one for the stylesheet that can be used now decides,
and a provider behind it is not asked.
-/
namespace TabMarkup

namespace Doctype

/-- What a provider needs to be registered. -/
structure Provider.Admissible (p : Provider) (available : Availability) : Prop where
  named : p.name ≠ ""
  usable : available p.id = true
  styled : ∃ stylesheet, p.stylesheet = some stylesheet ∧ stylesheet ≠ ""

/-- The provider is for the doctype, and can be used. -/
structure Provider.Serves (p : Provider) (available : Availability) (d : Doctype) : Prop where
  stylesheet : p.stylesheet = some d.stylesheet
  usable : available p.id = true

/-- A provider that is offered to a registry, and what can be used at that moment. -/
structure Offer where
  provider : Provider
  available : Availability

variable {p : Provider} {available : Availability} {d : Doctype} {r : Registry}

theorem Provider.refusal?_eq_none : p.refusal? available = none ↔ p.Admissible available := by
  have styled : p.stylesheet.getD "" ≠ "" ↔ ∃ s, p.stylesheet = some s ∧ s ≠ "" := by
    cases p.stylesheet <;> simp
  have checks : p.refusal? available = none ↔
      p.name ≠ "" ∧ available p.id = true ∧ p.stylesheet.getD "" ≠ "" := by
    by_cases named : p.name = ""
    · simp [refusal?, named]
    · by_cases usable : available p.id = true
      · by_cases unstyled : p.stylesheet.getD "" = "" <;> simp [refusal?, named, usable, unstyled]
      · simp [refusal?, named, usable]
  rw [checks, styled]
  constructor
  · rintro ⟨named, usable, styled⟩
    exact ⟨named, usable, styled⟩
  · rintro ⟨named, usable, styled⟩
    exact ⟨named, usable, styled⟩

instance : Decidable (p.Admissible available) := decidable_of_iff _ Provider.refusal?_eq_none

namespace Registry

/-- The registry after providers were offered to it, one after the other. -/
def offerAll (r : Registry) (offers : List Offer) : Registry :=
  offers.foldl (fun r o => (r.register o.available o.provider).2) r

/-- The providers that could be registered when they were offered. -/
def admitted (offers : List Offer) : List Provider :=
  (offers.filter fun o => o.provider.Admissible o.available).map (·.provider)

theorem providers_register (r : Registry) (available : Availability) (p : Provider) :
    (r.register available p).2.providers =
      if p.Admissible available then r.providers ++ [p] else r.providers := by
  unfold register
  split
  · rename_i reason refused
    rw [if_neg]
    rw [← Provider.refusal?_eq_none, refused]
    exact nofun
  · rename_i admissible
    rw [if_pos (Provider.refusal?_eq_none.1 admissible)]

theorem providers_offerAll (r : Registry) (offers : List Offer) :
    (r.offerAll offers).providers = r.providers ++ admitted offers := by
  induction offers generalizing r with
  | nil => simp [offerAll, admitted]
  | cons o offers ih =>
    have rest : (r.offerAll (o :: offers)).providers =
        (r.register o.available o.provider).2.providers ++ admitted offers := ih _
    rw [rest, providers_register]
    by_cases admissible : o.provider.Admissible o.available <;> simp [admitted, admissible]

end Registry

/-- Of some providers, the first that serves a doctype. -/
def FirstServing (providers : List Provider) (available : Availability) (d : Doctype) (p : Provider) :
    Prop :=
  p.Serves available d ∧ ∃ before after, providers = before ++ p :: after ∧
    ∀ q ∈ before, ¬ q.Serves available d

theorem Registry.resolve_eq_some :
    r.resolve available d = some p ↔ FirstServing r.providers available d p := by
  have serves (q : Provider) :
      (q.stylesheet == some d.stylesheet && available q.id) = true ↔ q.Serves available d := by
    rw [Bool.and_eq_true, beq_iff_eq]
    exact ⟨fun h => ⟨h.1, h.2⟩, fun h => ⟨h.1, h.2⟩⟩
  rw [resolve, List.find?_eq_some_iff_append]
  simp only [serves, Bool.not_eq_true', ← Bool.not_eq_true, FirstServing]

end Doctype

section
variable {b : Body} {p : Doctype.Provider} {r : Doctype.Registry} {available : Doctype.Availability}
  {doctype : Doctype}

theorem Body.canApply_iff :
    b.canApply doctype r available = true ↔
      ∃ p, Doctype.FirstServing r.providers available doctype p ∧ p.accepts b = true := by
  simp only [canApply, ← Doctype.Registry.resolve_eq_some]
  cases r.resolve available doctype <;> simp

theorem Body.apply_eq_ok {x : Unit} :
    b.apply doctype r available = .ok x ↔ b.canApply doctype r available = true := by
  unfold apply canApply
  cases r.resolve available doctype with
  | none => simp
  | some p => cases p.accepts b <;> simp [fail]

/-- The three checks of setting a doctype are one. -/
theorem Document.setDoctype_eq (d : Document) :
    d.setDoctype doctype r available =
      if d.entries.canApply doctype r available then (true, { d with doctype }) else (false, d) := by
  by_cases fits : d.entries.canApply doctype r available = true
  · obtain ⟨p, first, -⟩ := Body.canApply_iff.1 fits
    have known : r.knows available doctype = true := by
      rw [Doctype.Registry.knows, Doctype.Registry.resolve_eq_some.2 first, Option.isSome_some]
    have applied : d.entries.apply doctype r available = .ok () := Body.apply_eq_ok.2 fits
    rw [setDoctype, known, fits, applied]
    rfl
  · simp [setDoctype, fits]

end

open Doctype in
/-- A doctype is set if the provider that decides accepts the body, and then nothing else changes.
Whoever asks beforehand is told so, and where it is not set nothing changes at all. -/
theorem Document.setDoctype_offerAll (start : Registry) (offers : List Offer)
    (available : Availability) (d : Document) (doctype : Doctype) :
    ((d.setDoctype doctype (start.offerAll offers) available).1 = true ↔
      ∃ p, FirstServing (start.providers ++ Registry.admitted offers) available doctype p ∧
        p.accepts d.entries = true) ∧
    (d.setDoctype doctype (start.offerAll offers) available).2 =
      (if (d.setDoctype doctype (start.offerAll offers) available).1 then { d with doctype } else d) ∧
    d.entries.canApply doctype (start.offerAll offers) available =
      (d.setDoctype doctype (start.offerAll offers) available).1 ∧
    (d.entries.apply doctype (start.offerAll offers) available = .ok () ↔
      (d.setDoctype doctype (start.offerAll offers) available).1 = true) := by
  have providers := Registry.providers_offerAll start offers
  generalize start.offerAll offers = r at providers ⊢
  rw [d.setDoctype_eq, ← providers, ← Body.canApply_iff, Body.apply_eq_ok]
  cases d.entries.canApply doctype r available <;> simp

section
open Doctype

/-- A provider that refuses the body is not overruled by the next one, unless it cannot be used. -/
example (d : Document) :
    let strict : Provider := ⟨1, "strict", some "page", fun _ => false⟩
    let lenient : Provider := ⟨2, "lenient", some "page", fun _ => true⟩
    let r := Registry.seeded.offerAll [⟨strict, fun _ => true⟩, ⟨lenient, fun _ => true⟩]
    (d.setDoctype ⟨"page"⟩ r fun _ => true).1 = false ∧
      (d.setDoctype ⟨"page"⟩ r fun i => i != 1).1 = true :=
  ⟨rfl, rfl⟩

end
end TabMarkup
