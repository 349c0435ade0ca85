/-
The states that a validator can come to: it begins with some grammars and a
configuration, takes events in any order, also behind one that failed, and may be given
another feature or a further grammar at any time. In all of them the engine of identity
constraints is in order, and a subtree that is passed through was opened above.
-/

import SchemaAssessment.Proofs.Assessment.Nesting

namespace SchemaAssessment.Validator

/-- A state that a validator can come to. -/
inductive Reachable : Validator → Prop where
  | initial (registry : Registry) (source : Option GrammarSource)
      (configuration : Configuration) : Reachable (.initial registry source configuration)
  | step {validator : Validator} (reachable : validator.Reachable) (event : Event) :
      Reachable (validator.step event).validator
  | setFeature {validator changed : Validator} (reachable : validator.Reachable) {name : String}
      {value : Bool} (done : validator.setFeature name value = .ok changed) : Reachable changed
  | addGrammar {validator : Validator} (reachable : validator.Reachable) (grammar : Grammar) :
      Reachable (validator.addGrammar grammar)

theorem Reachable.run {validator : Validator} (reachable : validator.Reachable)
    (events : List Event) : (validator.run events).validator.Reachable := by
  induction events generalizing validator with
  | nil => exact reachable
  | cons event rest ofRest =>
    rw [Validator.run]
    dsimp only
    split
    · exact reachable.step event
    · exact ofRest (reachable.step event)

/-- A feature changes the configuration alone. -/
theorem eq_of_setFeature {validator changed : Validator} {name : String} {value : Bool}
    (done : validator.setFeature name value = .ok changed) :
    ∃ configuration, changed = { validator with configuration } := by
  unfold Validator.setFeature at done
  cases feature : Feature.ofName name with
  | error failure =>
    rw [feature] at done
    cases done
  | ok found =>
    rw [feature] at done
    obtain rfl := Except.ok.inj done
    exact ⟨_, rfl⟩

/-- A step keeps the engine of identity constraints in order. -/
theorem isTidy_step {validator : Validator} (tidy : validator.identities.IsTidy) (event : Event) :
    (validator.step event).validator.identities.IsTidy := by
  by_cases within : event.isWithin = true
  · rw [(validator.step_identities within).1]
    exact tidy.readAll _
  · cases event with
    | startDocument => exact IdentityEngine.isTidy_idle
    | endDocument => exact IdentityEngine.isTidy_idle
    | _ => exact absurd rfl within

theorem Reachable.isTidy {validator : Validator} (reachable : validator.Reachable) :
    validator.identities.IsTidy := by
  induction reachable with
  | initial registry source configuration => exact IdentityEngine.isTidy_idle
  | step reachable event tidy => exact isTidy_step tidy event
  | setFeature reachable done tidy =>
    obtain ⟨configuration, rfl⟩ := eq_of_setFeature done
    exact tidy
  | addGrammar reachable grammar tidy => exact tidy

theorem Settled.finish {validator : Validator} (settled : validator.Settled)
    (ending : QualifiedName) : (validator.finish ending).validator.Settled := by
  intro depth inside
  have leaves := validator.finish_leaves ending
  rw [leaves.skipDepth] at inside
  split at inside
  · cases inside
  · rename_i above
    rw [isClosing_of_inside inside, beq_iff_eq] at above
    rw [leaves.depth]
    exact Nat.le_pred_of_lt (lt_of_le_of_ne (settled depth inside) above)

/-- A step keeps the subtree that is passed through above. -/
theorem Settled.step {validator : Validator} (settled : validator.Settled) (event : Event) :
    (validator.step event).validator.Settled := by
  by_cases plain : event.isPiece = true
  · exact (validator.step_piece plain).1.settled settled
  · cases event with
    | startElement name attributes =>
      rcases Option.eq_none_or_eq_some (validator.start name attributes).failure with
        passes | ⟨failure, fails⟩
      · exact (validator.start_opening name attributes passes).settled settled
      · rcases validator.start_cases name attributes with
          ⟨-, behind, -⟩ | ⟨-, passed, -⟩ | ⟨-, passes, -⟩
        · rw [Validator.step, behind]
          exact fun depth inside => Nat.le_succ_of_le (settled depth inside)
        · rw [passed] at fails
          cases fails
        · cases passes.symm.trans fails
    | endElement name => exact settled.finish name
    | startDocument => exact nofun
    | endDocument => exact settled
    | _ => exact absurd rfl plain

theorem Reachable.settled {validator : Validator} (reachable : validator.Reachable) :
    validator.Settled := by
  induction reachable with
  | initial registry source configuration => exact nofun
  | step reachable event settled => exact settled.step event
  | setFeature reachable done settled =>
    obtain ⟨configuration, rfl⟩ := eq_of_setFeature done
    exact settled
  | addGrammar reachable grammar settled => exact settled

end SchemaAssessment.Validator
