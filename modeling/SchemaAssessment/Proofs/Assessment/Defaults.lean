/-
Values that a declaration gives to elements with nothing in them. Where the content is
mixed, such a value may stand for it if the group of the type may be left out, as its
particles say. The end tag of the element asks the content model of the group instead,
whether the content may end at its start. No value that may stand is followed by the
finding that the content ends too soon; and where unordered groups are counted, none that
may not stand is spared it.
-/

import SchemaAssessment.Proofs.Assessment.Findings
import SchemaAssessment.Proofs.Content.Omission

namespace SchemaAssessment

namespace Validator

variable {validator : Validator} {type : ComplexType} {group : Group ElementTerm}

/-- A value may stand for mixed content if the group may be left out. -/
theorem suits_of_mixed (mixed : type.content = .mixed) (held : type.contentGroup? = some group)
    (text : String) : validator.suits (.complex type) text = group.isEmptiable := by
  have given : type.group.getD .empty = group := by
    rw [ComplexType.contentGroup?, mixed] at held
    exact Option.some.inj held
  have untyped : validator.valueType? (.complex type) = none := by
    rw [valueType?, mixed]
    rfl
  unfold suits
  rw [untyped, ← given]
  dsimp only
  rw [mixed]
  cases type.group <;> rfl

/-- An element without children is spared the finding that its content ends too soon just if the
content may end at its start. -/
theorem checkContent_incomplete (held : type.contentGroup? = some group) {frame : Frame}
    (atStart : frame.content = (contentModel? (.complex type)).map OpenContent.start)
    (text : String) :
    underRule .incompleteContent (validator.checkContent frame (.complex type) text).2 = [] ↔
      let model := ContentModel.ofGroup ElementTerm.label group
      model.mayEnd model.start = true := by
  have modelled : contentModel? (.complex type) =
      some (ContentModel.ofGroup ElementTerm.label group) := by
    rw [contentModel?, held, Option.map_some]
  obtain ⟨found, ofText, same⟩ := validator.checkContent_found frame (.complex type) text
  have told : underRule .incompleteContent (validator.checkContent frame (.complex type) text).2 =
      checkComplete frame.raw frame.content := by
    rw [same, modelled, Option.isSome_some, if_pos rfl, underRule_append,
      ofText.underRule_eq_nil (by decide), List.nil_append]
    exact (checkComplete_under ..).underRule_eq_self
  rw [told, atStart, modelled, Option.map_some, OpenContent.start, checkComplete]
  simp

/-- If a group may be left out, as its particles say, then the content may end at the start of its
content model; and where unordered groups are counted, only then. The first decides whether a value
may stand for mixed content, the second whether content without children ends too soon. -/
theorem omission_read_alike (group : Group ElementTerm) :
    let model := ContentModel.ofGroup ElementTerm.label group
    (group.isEmptiable = true → model.mayEnd model.start = true) ∧
      (group.CountsUnordered → model.mayEnd model.start = true → group.isEmptiable = true) ∧
      ∀ (validator : Validator) (type : ComplexType), type.contentGroup? = some group →
        (type.content = .mixed → ∀ text,
          validator.suits (.complex type) text = group.isEmptiable) ∧
        ∀ frame text, frame.content = (contentModel? (.complex type)).map OpenContent.start →
          (underRule .incompleteContent (validator.checkContent frame (.complex type) text).2 = [] ↔
            model.mayEnd model.start = true) := by
  intro model
  have covers := ContentModel.covers_start ElementTerm.label group
  exact ⟨covers.kept, covers.exact, fun validator type held =>
    ⟨fun mixed => suits_of_mixed mixed held, fun frame text atStart =>
      checkContent_incomplete held atStart text⟩⟩

/-- What a letter may hold: a note, or two or three times a page and anything else, which may both
be left out; and behind that a choice of nothing. -/
def letterContent : Group ElementTerm :=
  let pages : Group ElementTerm := ⟨.sequence, [.element (.global (.unqualified "page")) ⟨0, none⟩,
    .any { Wildcard.any .lax with occurs := ⟨0, some 2⟩ }], ⟨2, some 3⟩⟩
  ⟨.sequence, [
    .nested ⟨.choice, [.element (.global (.unqualified "note")) .once, .nested pages], .once⟩,
    .nested ⟨.choice, [], .once⟩], ⟨1, none⟩⟩

/-- A value may stand for a letter, and an empty letter does not end too soon. -/
theorem omission_read_alike_letter :
    let model := ContentModel.ofGroup ElementTerm.label letterContent
    let type := ComplexType.ofContent none .mixed (some letterContent)
    let frame : Frame := {
      name := .unqualified "letter"
      content := (contentModel? (.complex type)).map OpenContent.start }
    let validator := initial .nothing none {}
    letterContent.isEmptiable = true ∧ letterContent.CountsUnordered ∧
      type.contentGroup? = some letterContent ∧ type.content = .mixed ∧
      model.mayEnd model.start = true ∧ validator.suits (.complex type) "dear guest" = true ∧
      underRule .incompleteContent
        (validator.checkContent frame (.complex type) "dear guest").2 = [] := by
  intro model type frame validator
  obtain ⟨kept, exact, decides⟩ := omission_read_alike letterContent
  have counts : letterContent.CountsUnordered :=
    ⟨by simp [letterContent, Group.particles, Particle.AreArranged, Particle.IsArranged,
      Group.IsArranged], nofun⟩
  have ends : model.mayEnd model.start = true := by decide +kernel
  have emptiable := exact counts ends
  obtain ⟨ofValue, ofEnd⟩ := decides validator type rfl
  exact ⟨emptiable, counts, rfl, rfl, kept emptiable, (ofValue rfl _).trans emptiable,
    (ofEnd frame _ rfl).mpr ends⟩

/-- A letter of one page, which stands in an unordered group that is not counted. -/
def turnedLetter : Group ElementTerm :=
  ⟨.sequence, [.nested ⟨.all, [.element (.global (.unqualified "page")) .once], .once⟩], .once⟩

example :
    let model := ContentModel.ofGroup ElementTerm.label turnedLetter
    turnedLetter.isEmptiable = false ∧ model.mayEnd model.start = true := by
  decide +kernel

end Validator

end SchemaAssessment
