import TabMarkup.Proofs.Reading.Levels
import TabMarkup.Proofs.Markup.Head

/-!
Tags as they are built: under the stock service, and under rules that leave open tags alone,
each line adds to the tags what its mark says and nothing else.
-/
namespace TabMarkup

namespace Scan

/-- The service is the stock one, and the rules take neither open tags nor properties with a
value. -/
structure Setting.Stock (g : Setting) : Prop where
  service : g.service = .standard
  opened : ∀ t : Tag, t.closed = false → g.refineTag t = .ok t
  valued : ∀ p : Property, p.value.isSome → g.refineProperty p = .ok p

variable {g : Setting}

namespace Setting.Stock

theorem tagCallback (hg : g.Stock) (t : Tag) : g.service.tagCallback t = .ok t := by
  rw [hg.service]
  rfl

theorem property (hg : g.Stock) (name : String) (value : Option String) :
    g.service.property name value = Property.new name value := by
  rw [hg.service]
  rfl

theorem propertyCallback (hg : g.Stock) (p : Property) : g.service.propertyCallback p = .ok p := by
  rw [hg.service]
  rfl

theorem documentCallback (hg : g.Stock) (d : Document) : g.service.documentCallback d = .ok d := by
  rw [hg.service]
  rfl

end Setting.Stock

/-! ### Properties -/

theorem ofPairs_concat (ps : List (String × String)) (p : String × String) :
    Property.ofPairs (ps ++ [p]) =
      if p ∈ ps then Property.ofPairs ps
      else Property.ofPairs ps ++ [{ name := p.1, value := some p.2 }] := by
  simp only [Property.ofPairs, List.eraseDups_append, List.removeAll, List.filter_cons, List.filter_nil]
  by_cases h : p ∈ ps <;> simp [h, List.eraseDups_cons]

theorem hasProperty_ofHead (name : String) (ps : List (String × String)) (p : String × String) :
    (Frame.ofHead name ps).opened.hasProperty { name := p.1, value := some p.2 } = decide (p ∈ ps) := by
  rw [Bool.eq_iff_iff]
  simp only [Tag.hasProperty, Frame.opened, Frame.ofHead, Property.ofPairs, Property.same,
    List.any_map, List.any_eq_true, List.mem_eraseDups, Function.comp, Bool.and_eq_true,
    beq_iff_eq, Option.some.injEq, decide_eq_true_eq]
  constructor
  · rintro ⟨q, hq, hn, hv⟩
    have same : q = p := Prod.ext hn hv
    exact same ▸ hq
  · exact fun h => ⟨p, h, rfl, rfl⟩

theorem addProperty_eq_ok (hg : g.Stock) {name tag : String} {ps : List (String × String)}
    {p : String × String} (hp : p.1 ≠ "") {u : Tag} :
    (addProperty g name (Frame.ofHead tag ps).opened p).result = .ok u ↔
      p.2.utf8ByteSize ≤ g.config.maxStringLength ∧ u = (Frame.ofHead tag (ps ++ [p])).opened := by
  have made : g.service.property p.1 (some p.2) = .ok { name := p.1, value := some p.2 } := by
    rw [hg.property]
    simp [Property.new, hp]
  have kept := hg.valued { name := p.1, value := some p.2 } rfl
  have added : (Frame.ofHead tag ps).opened.addProperty { name := p.1, value := some p.2 } =
      .ok (decide (p ∉ ps), (Frame.ofHead tag (ps ++ [p])).opened) := by
    have free : (Frame.ofHead tag ps).opened.refuseShapedProperties "add_property" = .ok () := rfl
    simp only [Tag.addProperty, free, ok_bind, hasProperty_ofHead]
    by_cases h : p ∈ ps
    · simp [h, Frame.opened, Frame.ofHead, ofPairs_concat]
    · simp [h, Frame.opened, Frame.ofHead, ofPairs_concat]
  simp only [addProperty, Setting.property, Setting.propertyCallback, Setting.call,
    Journaled.result_bind, Journaled.result_note, Journaled.result_lift, Journaled.result_noteIf,
    Journaled.result_pure, made, hg.propertyCallback, kept, added, ok_bind, bind_eq_ok,
    Config.checkString, Config.checkStringLength, failIf_eq_ok]
  simp [eq_comm]

theorem addProperties_eq_ok (hg : g.Stock) {name tag : String} {done ps : List (String × String)}
    (hp : ∀ p ∈ ps, p.1 ≠ "") {u : Tag} :
    ps.foldlM (fun t p => (addProperty g name t p).result) (Frame.ofHead tag done).opened = .ok u ↔
      (∀ p ∈ ps, p.2.utf8ByteSize ≤ g.config.maxStringLength) ∧
        u = (Frame.ofHead tag (done ++ ps)).opened := by
  induction ps generalizing done with
  | nil => simp [eq_comm]
  | cons p ps ih =>
    simp only [List.foldlM_cons, bind_eq_ok, addProperty_eq_ok hg (hp p (by simp))]
    have ih := @ih (done ++ [p]) fun q hq => hp q (by simp [hq])
    constructor
    · rintro ⟨_, ⟨short, rfl⟩, rest⟩
      rw [ih] at rest
      simpa [short] using rest
    · rintro ⟨short, rfl⟩
      refine ⟨_, ⟨short p (by simp), rfl⟩, ih.2 ⟨fun q hq => short q (by simp [hq]), by simp⟩⟩

/-- A tag is built from its head if the head can be read and its properties are within the limits. -/
theorem buildTag_eq_ok (hg : g.Stock) {void : Bool} {markup : List Char} {head : Head}
    (hh : Head.parse void markup = .ok head) {t : Tag} :
    (buildTag g head).result = .ok t ↔
      ∃ pairs, parseProperties head.properties = .ok pairs ∧ g.config.Fits pairs ∧
        t = (Frame.ofHead head.name pairs).opened := by
  have named := (Head.isTagName_of_parse hh).1
  have made : g.service.tag head.name = .ok (Frame.ofHead head.name []).opened := by
    rw [hg.service]
    simp [Service.standard, Tag.new, named, Frame.ofHead, Frame.opened, Property.ofPairs]
  simp only [buildTag, Setting.tag, Setting.call, Journaled.result_bind, Journaled.result_note,
    Journaled.result_lift, Journaled.result_foldl, made, ok_bind]
  rw [bind_eq_ok]
  refine exists_congr fun pairs => and_congr_right fun read => ?_
  have keys : ∀ p ∈ pairs, p.1 ≠ "" := fun p hp => (mem_of_parseProperties read p hp).1.1
  simp only [bind_eq_ok, Config.checkProperties, failIf_eq_ok, addProperties_eq_ok hg keys,
    List.nil_append, Config.Fits]
  simp [and_assoc]

end Scan
end TabMarkup
