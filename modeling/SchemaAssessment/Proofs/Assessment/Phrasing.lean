/-
One document may be told in different events. Text comes in as many pieces as the reader
likes, some of them empty, and between them come comments, processing instructions, and
the borders of entities and of sections of character data. A validator adds up text and
passes over the rest, so that events that say the same lead to the same: the other
events have the same outcomes, with the same validators behind them, and the run finds
the same.
-/

import Mathlib.Logic.Relation
import SchemaAssessment.Proofs.Assessment.Transparency

namespace SchemaAssessment

namespace Event

/-- Markup that says nothing of elements and their text. -/
def isNoise : Event → Bool
  | .comment _ | .instruction .. | .startCData | .endCData | .startEntity _ | .endEntity _ => true
  | _ => false

/-- Text, or noise: what may be told in another way. -/
def isLoose : Event → Bool
  | .characters _ => true
  | event => event.isNoise

/-- One change to events that leaves alone what they say: text is told in two pieces, or an empty
piece of text or some noise is added. -/
inductive Rephrases : List Event → List Event → Prop where
  | split (before after : List Event) (first second : String) :
      Rephrases (before ++ .characters (first ++ second) :: after)
        (before ++ .characters first :: .characters second :: after)
  | blank (before after : List Event) :
      Rephrases (before ++ after) (before ++ .characters "" :: after)
  | noise (before after : List Event) (event : Event) (isNoise : event.isNoise = true) :
      Rephrases (before ++ after) (before ++ event :: after)

/-- Events that say the same: any number of changes leads from one to the other, forth or back. -/
def SaysTheSame : List Event → List Event → Prop := Relation.EqvGen Rephrases

/-- Something that changes do not touch is the same for all events that say the same. -/
theorem SaysTheSame.value {Value : Sort*} {value : List Event → Value}
    (agrees : ∀ {left right}, Rephrases left right → value left = value right)
    {left right : List Event} (same : SaysTheSame left right) : value left = value right := by
  induction same with
  | rel left right change => exact agrees change
  | refl events => rfl
  | symm left right _ ofSame => exact ofSame.symm
  | trans left middle right _ _ ofFirst ofSecond => exact ofFirst.trans ofSecond

theorem isNoise_isLoose {event : Event} (isNoise : event.isNoise = true) :
    event.isLoose = true := by
  cases event <;> first | rfl | cases isNoise

theorem isLoose_isFlat {event : Event} (isLoose : event.isLoose = true) :
    event.isFlat = true := by
  cases event <;> first | rfl | cases isLoose

end Event

open Event

namespace Validator

/-! ### Outcomes one by one -/

/-- The outcomes of events in turn, whether or not some fail. -/
def outcomes (validator : Validator) : List Event → List (Event × Outcome)
  | [] => []
  | event :: rest => (event, validator.step event) :: (validator.step event).validator.outcomes rest

/-- The validator behind some events, whether or not some fail. -/
def behind (validator : Validator) (events : List Event) : Validator :=
  events.foldl (fun validator event => (validator.step event).validator) validator

/-- The outcomes of the events that are not loose: of the tags above all. Each says which findings
are told, which events are passed on, a supplied text among them, and what the validator is
behind it, with the open elements. -/
def firmOutcomes (validator : Validator) (events : List Event) : List (Event × Outcome) :=
  (validator.outcomes events).filter fun entry => !entry.1.isLoose

theorem outcomes_append (validator : Validator) (first rest : List Event) :
    validator.outcomes (first ++ rest) =
      validator.outcomes first ++ (validator.behind first).outcomes rest := by
  induction first generalizing validator with
  | nil => rfl
  | cons event others ofOthers => exact congrArg (_ :: ·) (ofOthers _)

theorem firmOutcomes_append (validator : Validator) (first rest : List Event) :
    validator.firmOutcomes (first ++ rest) =
      validator.firmOutcomes first ++ (validator.behind first).firmOutcomes rest := by
  rw [firmOutcomes, outcomes_append, List.filter_append]
  rfl

/-- A loose event shows in the validator behind it at most. -/
theorem firmOutcomes_loose (validator : Validator) {event : Event}
    (isLoose : event.isLoose = true) (rest : List Event) :
    validator.firmOutcomes (event :: rest) =
      (validator.step event).validator.firmOutcomes rest := by
  rw [firmOutcomes, outcomes, List.filter_cons_of_neg (by simp [isLoose])]
  rfl

/-! ### Text in pieces -/

theorem step_noise (validator : Validator) {event : Event} (isNoise : event.isNoise = true) :
    (validator.step event).validator = validator := by
  cases event <;> first | rfl | cases isNoise

/-- One change leaves the outcomes of all events alone that are not loose. -/
theorem firmOutcomes_of_rephrases (validator : Validator) {left right : List Event}
    (change : Rephrases left right) :
    validator.firmOutcomes left = validator.firmOutcomes right := by
  cases change with
  | split before after first second =>
    rw [firmOutcomes_append, firmOutcomes_append, firmOutcomes_loose _ rfl,
      firmOutcomes_loose _ rfl, firmOutcomes_loose _ rfl]
    have together := (validator.behind before).addText_addText first second
    exact congrArg (fun next => _ ++ next.firmOutcomes after) together.symm
  | blank before after =>
    rw [firmOutcomes_append, firmOutcomes_append, firmOutcomes_loose _ rfl]
    have same := (validator.behind before).addText_empty
    exact congrArg (fun next => _ ++ next.firmOutcomes after) same.symm
  | noise before after event isNoise =>
    rw [firmOutcomes_append, firmOutcomes_append, firmOutcomes_loose _ (isNoise_isLoose isNoise),
      step_noise _ isNoise]

/-! ### What a run finds -/

/-- The findings of some outcomes, up to the first failure, and that failure. -/
def foundIn : List (Event × Outcome) → List Diagnostic × Option Failure
  | [] => ([], none)
  | (_, outcome) :: rest =>
    match outcome.failure with
    | some failure => (outcome.diagnostics, some failure)
    | none => (outcome.diagnostics ++ (foundIn rest).1, (foundIn rest).2)

theorem run_foundIn (validator : Validator) (events : List Event) :
    ((validator.run events).diagnostics, (validator.run events).failure) =
      foundIn (validator.outcomes events) := by
  induction events generalizing validator with
  | nil => rfl
  | cons event rest ofRest =>
    rw [run, outcomes, foundIn]
    cases failed : (validator.step event).failure with
    | some failure => simp only [failed]
    | none => simp only [← ofRest]

/-- A loose event neither finds anything nor fails. -/
theorem step_loose (validator : Validator) {event : Event} (isLoose : event.isLoose = true) :
    (validator.step event).diagnostics = [] ∧ (validator.step event).failure = none := by
  obtain ⟨-, failure, -, diagnostics⟩ := validator.step_flat (isLoose_isFlat isLoose)
  exact ⟨diagnostics, failure⟩

/-- What is found shows in the outcomes of the events that are not loose. -/
theorem foundIn_firmOutcomes (validator : Validator) (events : List Event) :
    foundIn (validator.firmOutcomes events) = foundIn (validator.outcomes events) ∧
      (validator.firmOutcomes events).flatMap (fun entry => entry.2.diagnostics) =
        (validator.outcomes events).flatMap (fun entry => entry.2.diagnostics) := by
  induction events generalizing validator with
  | nil => exact ⟨rfl, rfl⟩
  | cons event rest ofRest =>
    obtain ⟨found, all⟩ := ofRest (validator.step event).validator
    cases isLoose : event.isLoose with
    | true =>
      obtain ⟨nothing, passes⟩ := validator.step_loose isLoose
      rw [firmOutcomes_loose _ isLoose, found, all, outcomes, foundIn, List.flatMap_cons, passes,
        nothing]
      exact ⟨rfl, rfl⟩
    | false =>
      have firm : validator.firmOutcomes (event :: rest) =
          (event, validator.step event) ::
            (validator.step event).validator.firmOutcomes rest := by
        rw [firmOutcomes, outcomes, List.filter_cons_of_pos (by simp [isLoose])]
        rfl
      rw [firm, outcomes, foundIn, foundIn, List.flatMap_cons, List.flatMap_cons, found, all]
      exact ⟨rfl, rfl⟩

/-- In whatever state a validator is, and whatever grammars it knows or can find, events that say
the same lead to the same. Every event that is not loose, as every start tag and end tag, has
the same outcome: the same findings, the same events passed on with a supplied text among them,
and the same validator behind it with the same open elements. The findings are the same in all,
and a run up to the first failure finds the same and fails alike. -/
theorem outcomes_of_saysTheSame (validator : Validator) {left right : List Event}
    (same : SaysTheSame left right) :
    validator.firmOutcomes left = validator.firmOutcomes right ∧
      (validator.outcomes left).flatMap (fun entry => entry.2.diagnostics) =
        (validator.outcomes right).flatMap (fun entry => entry.2.diagnostics) ∧
      (validator.run left).diagnostics = (validator.run right).diagnostics ∧
      (validator.run left).failure = (validator.run right).failure := by
  have firm : validator.firmOutcomes left = validator.firmOutcomes right :=
    same.value validator.firmOutcomes_of_rephrases
  obtain ⟨foundLeft, allLeft⟩ := validator.foundIn_firmOutcomes left
  obtain ⟨foundRight, allRight⟩ := validator.foundIn_firmOutcomes right
  have found : ((validator.run left).diagnostics, (validator.run left).failure) =
      ((validator.run right).diagnostics, (validator.run right).failure) := by
    rw [run_foundIn, run_foundIn, ← foundLeft, ← foundRight, firm]
  obtain ⟨diagnostics, failure⟩ := Prod.mk.inj found
  exact ⟨firm, by rw [← allLeft, ← allRight, firm], diagnostics, failure⟩

/-- A box with a title, a card that is misplaced, and another card. The text of the title and what
is inside of the second card are told in the given events. -/
def box (title card : List Event) : List Event :=
  [.startDocument, .startElement (plain "box") [], .startElement (plain "title") []] ++ title ++
    [.endElement (plain "title"), .startElement (plain "card") [], .endElement (plain "card"),
      .startElement (plain "card") []] ++ card ++ [.endElement (plain "card")]

/-- A title is told in two pieces, and a card that is blank holds a comment and text without any
characters. The card is supplied with its text in either case. -/
theorem outcomes_of_saysTheSame_box :
    let whole := box [.characters "AB"] []
    let pieces := box [.characters "A", .characters "B"] [.comment "blank", .characters ""]
    SaysTheSame whole pieces ∧ ofCards.firmOutcomes whole = ofCards.firmOutcomes pieces ∧
      (ofCards.firmOutcomes whole).getLast?.map (fun entry => entry.2.events) =
        some [.characters "dear guest", .endElement (plain "card")] ∧
      (ofCards.run pieces).diagnostics = (ofCards.run whole).diagnostics ∧
      (ofCards.run whole).diagnostics.map Diagnostic.rule = [.invalidChild] := by
  intro whole pieces
  let before := (box [] []).take 3
  let between := (box [.characters "A", .characters "B"] []).take 9
  have cut := Rephrases.split before ((box [] []).drop 3) "A" "B"
  have filled := Rephrases.blank between [.endElement (plain "card")]
  have noted := Rephrases.noise between [.characters "", .endElement (plain "card")]
    (.comment "blank") rfl
  have same : SaysTheSame whole pieces :=
    ((Relation.EqvGen.rel _ _ cut).trans _ _ _ (.rel _ _ filled)).trans _ _ _ (.rel _ _ noted)
  obtain ⟨firm, -, diagnostics, -⟩ := outcomes_of_saysTheSame ofCards same
  exact ⟨same, firm, by decide +kernel, diagnostics.symm, by decide +kernel⟩

end Validator

end SchemaAssessment
