import DecisionEngine.Euclid.Interpreter

/-!
# Declarative meaning of a routing program

A rule matches when its forest of if statements has a path from a root to a
node without nested statements on which every comparison holds.  This meaning
mentions neither a search nor an order.

The order enters only where a comparison cannot be decided.  `Visits` says
which comparisons the left-to-right search gets to: everything before them was
decided, and decided against a match.  A visited comparison without an answer
ends the evaluation, however many later rules would match.
-/

namespace DecisionEngine.Euclid

open Search

section Meaning

variable (ctx : Context) (globals : Globals)

def Holds (comparison : Comparison) : Prop :=
  evalComparison comparison ctx globals = .ok true

def Fails (comparison : Comparison) : Prop :=
  evalComparison comparison ctx globals = .ok false

/-- The comparisons of a condition up to the one that decides it. -/
def ReachedIn (condition : IfCondition) (comparison : Comparison) : Prop :=
  Reached true (fun other => evalComparison other ctx globals) condition comparison

/-- `path` leads from a root of the forest to a node without nested
statements, and every condition on it holds. -/
inductive MatchPath : List IfStatement → List IfStatement → Prop
  | leaf {forest : List IfStatement} {condition : IfCondition}
      (mem : ⟨condition, none⟩ ∈ forest)
      (holds : ∀ comparison ∈ condition, Holds ctx globals comparison) :
      MatchPath forest [⟨condition, none⟩]
  | node {forest : List IfStatement} {condition : IfCondition}
      {nested path : List IfStatement}
      (mem : ⟨condition, some nested⟩ ∈ forest)
      (holds : ∀ comparison ∈ condition, Holds ctx globals comparison)
      (inner : MatchPath nested path) :
      MatchPath forest (⟨condition, some nested⟩ :: path)

def Matches (forest : List IfStatement) : Prop :=
  ∃ path, MatchPath ctx globals forest path

/-- The statement is decided and does not match: a comparison of its condition
fails before any undecidable one, or the condition holds and every nested
statement is refuted in turn. -/
inductive Refuted : IfStatement → Prop
  | condition {condition : IfCondition} {nested : Option (List IfStatement)}
      {comparison : Comparison}
      (reached : ReachedIn ctx globals condition comparison)
      (fails : Fails ctx globals comparison) :
      Refuted ⟨condition, nested⟩
  | nested {condition : IfCondition} {nested : List IfStatement}
      (holds : ∀ comparison ∈ condition, Holds ctx globals comparison)
      (refuted : ∀ stmt ∈ nested, Refuted stmt) :
      Refuted ⟨condition, some nested⟩

/-- The left-to-right search through the forest gets to `comparison`. -/
inductive Visits : List IfStatement → Comparison → Prop
  | condition {forest earlier later : List IfStatement} {condition : IfCondition}
      {nested : Option (List IfStatement)} {comparison : Comparison}
      (split : forest = earlier ++ ⟨condition, nested⟩ :: later)
      (refuted : ∀ stmt ∈ earlier, Refuted ctx globals stmt)
      (reached : ReachedIn ctx globals condition comparison) :
      Visits forest comparison
  | nested {forest earlier later : List IfStatement} {condition : IfCondition}
      {nested : List IfStatement} {comparison : Comparison}
      (split : forest = earlier ++ ⟨condition, some nested⟩ :: later)
      (refuted : ∀ stmt ∈ earlier, Refuted ctx globals stmt)
      (holds : ∀ other ∈ condition, Holds ctx globals other)
      (visits : Visits nested comparison) :
      Visits forest comparison

/-- The search through the forest ends at an undecidable comparison. -/
def Aborts (forest : List IfStatement) (failure : InterpreterError) : Prop :=
  ∃ comparison, Visits ctx globals forest comparison ∧
    evalComparison comparison ctx globals = .error failure

def Undecided (forest : List IfStatement) : Prop :=
  ∃ failure, Aborts ctx globals forest failure

end Meaning

/-! ## Conditions -/

variable {ctx : Context} {globals : Globals}

variable (condition : IfCondition)

theorem evalIfCondition_eq_true_iff :
    evalIfCondition condition ctx globals = .ok true ↔
      ∀ comparison ∈ condition, Holds ctx globals comparison :=
  scan_eq_go_iff _

theorem evalIfCondition_eq_false_iff :
    evalIfCondition condition ctx globals = .ok false ↔
      ∃ comparison, ReachedIn ctx globals condition comparison ∧
        Fails ctx globals comparison :=
  scan_eq_iff_of_ne (by simp)

variable (failure : InterpreterError)

theorem evalIfCondition_eq_error_iff :
    evalIfCondition condition ctx globals = .error failure ↔
      ∃ comparison, ReachedIn ctx globals condition comparison ∧
        evalComparison comparison ctx globals = .error failure :=
  scan_eq_iff_of_ne (by simp)

/-! ## Statements -/

theorem evalIfStatement_none :
    evalIfStatement ctx globals ⟨condition, none⟩ =
      evalIfCondition condition ctx globals := by
  rw [evalIfStatement]

theorem evalIfStatement_some_of_holds {condition : IfCondition}
    (holds : ∀ comparison ∈ condition, Holds ctx globals comparison)
    (nested : List IfStatement) :
    evalIfStatement ctx globals ⟨condition, some nested⟩ =
      evalRuleStatements ctx globals nested := by
  rw [evalIfStatement, (evalIfCondition_eq_true_iff condition).mpr holds]

theorem evalIfStatement_of_not_true {condition : IfCondition}
    (decided : evalIfCondition condition ctx globals ≠ .ok true)
    (nested : Option (List IfStatement)) :
    evalIfStatement ctx globals ⟨condition, nested⟩ =
      evalIfCondition condition ctx globals := by
  cases nested with
  | none => exact evalIfStatement_none condition
  | some nested =>
      rw [evalIfStatement]
      split
      · contradiction
      · next equal => exact equal.symm
      · next equal => exact equal.symm

variable (forest : List IfStatement)

/-- The loop over alternatives is a short-circuit disjunction. -/
theorem evalRuleStatements_eq_scan :
    evalRuleStatements ctx globals forest =
      scan false (evalIfStatement ctx globals) forest := by
  induction forest with
  | nil => rw [evalRuleStatements, scan_nil]
  | cons stmt rest ih =>
      rw [evalRuleStatements]
      cases outcome : evalIfStatement ctx globals stmt with
      | error failure => rw [scan_cons_of_stop (by simp [outcome]), outcome]
      | ok result =>
          cases result with
          | false => rw [scan_cons_of_go outcome, ih]
          | true => rw [scan_cons_of_stop (by simp [outcome]), outcome]

/-- A statement evaluates to false exactly when it is refuted. -/
theorem evalIfStatement_eq_false_iff (stmt : IfStatement) :
    evalIfStatement ctx globals stmt = .ok false ↔ Refuted ctx globals stmt := by
  induction stmt using IfStatement.induction with
  | leaf condition =>
      rw [evalIfStatement_none, evalIfCondition_eq_false_iff]
      constructor
      · rintro ⟨comparison, reached, fails⟩
        exact .condition reached fails
      · intro refuted
        cases refuted with
        | condition reached fails => exact ⟨_, reached, fails⟩
  | node condition nested ih =>
      by_cases holds : ∀ comparison ∈ condition, Holds ctx globals comparison
      · rw [evalIfStatement_some_of_holds holds, evalRuleStatements_eq_scan,
          scan_eq_go_iff]
        constructor
        · intro rejected
          exact .nested holds fun stmt stmtMem =>
            (ih stmt stmtMem).mp (rejected stmt stmtMem)
        · intro refuted stmt stmtMem
          cases refuted with
          | condition reached fails =>
              have passes := holds _ reached.mem
              rw [Fails, passes] at fails
              simp at fails
          | nested _ refuted => exact (ih stmt stmtMem).mpr (refuted stmt stmtMem)
      · have decided := mt (evalIfCondition_eq_true_iff condition).mp holds
        rw [evalIfStatement_of_not_true decided, evalIfCondition_eq_false_iff]
        constructor
        · rintro ⟨comparison, reached, fails⟩
          exact .condition reached fails
        · intro refuted
          cases refuted with
          | condition reached fails => exact ⟨_, reached, fails⟩
          | nested holding _ => exact absurd holding holds

theorem evalRuleStatements_eq_false_iff :
    evalRuleStatements ctx globals forest = .ok false ↔
      ∀ stmt ∈ forest, Refuted ctx globals stmt := by
  rw [evalRuleStatements_eq_scan, scan_eq_go_iff]
  exact forall₂_congr fun stmt _ => evalIfStatement_eq_false_iff stmt

/-- The search gets to a comparison inside the first statement that is not
refuted. -/
theorem visits_iff (comparison : Comparison) :
    Visits ctx globals forest comparison ↔
      ∃ stmt, Reached false (evalIfStatement ctx globals) forest stmt ∧
        Visits ctx globals [stmt] comparison := by
  have passed_iff : ∀ earlier : List IfStatement,
      (∀ stmt ∈ earlier, evalIfStatement ctx globals stmt = .ok false) ↔
        ∀ stmt ∈ earlier, Refuted ctx globals stmt := fun earlier =>
    forall₂_congr fun stmt _ => evalIfStatement_eq_false_iff stmt
  constructor
  · intro visits
    cases visits with
    | condition split refuted reached =>
        exact ⟨_, ⟨_, _, split, (passed_iff _).mpr refuted⟩,
          .condition (List.nil_append _).symm (by simp) reached⟩
    | nested split refuted holds visits =>
        exact ⟨_, ⟨_, _, split, (passed_iff _).mpr refuted⟩,
          .nested (List.nil_append _).symm (by simp) holds visits⟩
  · rintro ⟨stmt, ⟨earlier, later, split, passed⟩, visits⟩
    have refuted := (passed_iff earlier).mp passed
    cases visits with
    | @condition _ before after condition nested _ single _ reached =>
        have stmt_eq : stmt = ⟨condition, nested⟩ := by
          have member : (⟨condition, nested⟩ : IfStatement) ∈ [stmt] := by simp [single]
          exact (List.mem_singleton.mp member).symm
        subst stmt_eq
        exact .condition split refuted reached
    | @nested _ before after condition nested _ single _ holds visits =>
        have stmt_eq : stmt = ⟨condition, some nested⟩ := by
          have member : (⟨condition, some nested⟩ : IfStatement) ∈ [stmt] := by
            simp [single]
          exact (List.mem_singleton.mp member).symm
        subst stmt_eq
        exact .nested split refuted holds visits

/-- The comparisons visited inside one statement. -/
theorem visits_singleton_iff (nested : Option (List IfStatement)) (comparison : Comparison) :
    Visits ctx globals [⟨condition, nested⟩] comparison ↔
      ReachedIn ctx globals condition comparison ∨
        (∀ other ∈ condition, Holds ctx globals other) ∧
          ∃ inner, nested = some inner ∧ Visits ctx globals inner comparison := by
  constructor
  · intro visits
    cases visits with
    | @condition _ before after condition' nested' _ single _ reached =>
        have member : (⟨condition', nested'⟩ : IfStatement) ∈
            [(⟨condition, nested⟩ : IfStatement)] := by simp [single]
        obtain ⟨rfl, rfl⟩ := IfStatement.mk.inj (List.mem_singleton.mp member)
        exact Or.inl reached
    | @nested _ before after condition' inner _ single _ holds visits =>
        have member : (⟨condition', some inner⟩ : IfStatement) ∈
            [(⟨condition, nested⟩ : IfStatement)] := by simp [single]
        obtain ⟨rfl, rfl⟩ := IfStatement.mk.inj (List.mem_singleton.mp member)
        exact Or.inr ⟨holds, inner, rfl, visits⟩
  · rintro (reached | ⟨holds, inner, rfl, visits⟩)
    · exact .condition (List.nil_append _).symm (by simp) reached
    · exact .nested (List.nil_append _).symm (by simp) holds visits

/-- A statement fails with the error of the undecidable comparison that the
search in it gets to. -/
theorem evalIfStatement_eq_error_iff (stmt : IfStatement) (failure : InterpreterError) :
    evalIfStatement ctx globals stmt = .error failure ↔
      Aborts ctx globals [stmt] failure := by
  induction stmt using IfStatement.induction with
  | leaf condition =>
      rw [evalIfStatement_none, evalIfCondition_eq_error_iff]
      simp [Aborts, visits_singleton_iff]
  | node condition nested ih =>
      by_cases holds : ∀ comparison ∈ condition, Holds ctx globals comparison
      · have condition_decided : ∀ comparison, ReachedIn ctx globals condition comparison →
            evalComparison comparison ctx globals ≠ .error failure := by
          intro comparison reached erred
          have passes : evalComparison comparison ctx globals = .ok true :=
            holds comparison reached.mem
          rw [passes] at erred
          simp at erred
        have nested_iff : evalRuleStatements ctx globals nested = .error failure ↔
            Aborts ctx globals nested failure := by
          rw [evalRuleStatements_eq_scan, scan_eq_iff_of_ne (by simp)]
          constructor
          · rintro ⟨stmt, reached, erred⟩
            obtain ⟨comparison, visits, undecidable⟩ := (ih stmt reached.mem).mp erred
            exact ⟨comparison, (visits_iff nested comparison).mpr ⟨stmt, reached, visits⟩,
              undecidable⟩
          · rintro ⟨comparison, visits, undecidable⟩
            obtain ⟨stmt, reached, inner⟩ := (visits_iff nested comparison).mp visits
            exact ⟨stmt, reached,
              (ih stmt reached.mem).mpr ⟨comparison, inner, undecidable⟩⟩
        rw [evalIfStatement_some_of_holds holds, nested_iff]
        constructor
        · rintro ⟨comparison, visits, undecidable⟩
          exact ⟨comparison, (visits_singleton_iff _ _ _).mpr
            (Or.inr ⟨holds, nested, rfl, visits⟩), undecidable⟩
        · rintro ⟨comparison, visits, undecidable⟩
          rcases (visits_singleton_iff _ _ _).mp visits with
            reached | ⟨_, inner, equal, visits⟩
          · exact absurd undecidable (condition_decided comparison reached)
          · obtain rfl := Option.some.inj equal
            exact ⟨comparison, visits, undecidable⟩
      · have decided := mt (evalIfCondition_eq_true_iff condition).mp holds
        rw [evalIfStatement_of_not_true decided, evalIfCondition_eq_error_iff]
        simp [Aborts, visits_singleton_iff, holds]

theorem evalRuleStatements_eq_error_iff (failure : InterpreterError) :
    evalRuleStatements ctx globals forest = .error failure ↔
      Aborts ctx globals forest failure := by
  rw [evalRuleStatements_eq_scan, scan_eq_iff_of_ne (by simp)]
  constructor
  · rintro ⟨stmt, reached, erred⟩
    obtain ⟨comparison, visits, undecidable⟩ :=
      (evalIfStatement_eq_error_iff stmt failure).mp erred
    exact ⟨comparison, (visits_iff forest comparison).mpr ⟨stmt, reached, visits⟩,
      undecidable⟩
  · rintro ⟨comparison, visits, undecidable⟩
    obtain ⟨stmt, reached, inner⟩ := (visits_iff forest comparison).mp visits
    exact ⟨stmt, reached,
      (evalIfStatement_eq_error_iff stmt failure).mpr ⟨comparison, inner, undecidable⟩⟩

/-! ## Paths -/

theorem MatchPath.mono {forest larger path : List IfStatement}
    (included : ∀ stmt ∈ forest, stmt ∈ larger)
    (matched : MatchPath ctx globals forest path) :
    MatchPath ctx globals larger path := by
  cases matched with
  | leaf mem holds => exact .leaf (included _ mem) holds
  | node mem holds inner => exact .node (included _ mem) holds inner

/-- The root of a matching path is not refuted. -/
theorem MatchPath.exists_not_refuted {forest path : List IfStatement}
    (matched : MatchPath ctx globals forest path) :
    ∃ stmt ∈ forest, ¬ Refuted ctx globals stmt := by
  have no_failure : ∀ {condition : IfCondition} {comparison : Comparison},
      (∀ other ∈ condition, Holds ctx globals other) →
      ReachedIn ctx globals condition comparison → ¬ Fails ctx globals comparison := by
    intro condition comparison holds reached fails
    have passes := holds comparison reached.mem
    rw [Fails, passes] at fails
    simp at fails
  induction matched with
  | leaf mem holds =>
      refine ⟨_, mem, ?_⟩
      intro refuted
      cases refuted with
      | condition reached fails => exact no_failure holds reached fails
  | node mem holds inner ih =>
      refine ⟨_, mem, ?_⟩
      obtain ⟨stmt, stmtMem, standing⟩ := ih
      intro refuted
      cases refuted with
      | condition reached fails => exact no_failure holds reached fails
      | nested _ refuted => exact standing (refuted stmt stmtMem)

theorem matches_of_evalIfStatement {stmt : IfStatement}
    (accepted : evalIfStatement ctx globals stmt = .ok true) :
    Matches ctx globals [stmt] := by
  induction stmt using IfStatement.induction with
  | leaf condition =>
      rw [evalIfStatement_none, evalIfCondition_eq_true_iff] at accepted
      exact ⟨_, .leaf List.mem_cons_self accepted⟩
  | node condition nested ih =>
      by_cases holds : ∀ comparison ∈ condition, Holds ctx globals comparison
      · rw [evalIfStatement_some_of_holds holds, evalRuleStatements_eq_scan,
          scan_eq_iff_of_ne (by simp)] at accepted
        obtain ⟨stmt, reached, stmtAccepted⟩ := accepted
        obtain ⟨path, matched⟩ := ih stmt reached.mem stmtAccepted
        have inner : MatchPath ctx globals nested path := by
          refine matched.mono ?_
          intro other otherMem
          rw [List.mem_singleton.mp otherMem]
          exact reached.mem
        exact ⟨_, .node List.mem_cons_self holds inner⟩
      · have decided := mt (evalIfCondition_eq_true_iff condition).mp holds
        rw [evalIfStatement_of_not_true decided] at accepted
        exact absurd accepted decided

/-- The search accepts exactly the forests with a matching path in which it
gets to no undecidable comparison. -/
theorem evalRuleStatements_eq_true_iff :
    evalRuleStatements ctx globals forest = .ok true ↔
      Matches ctx globals forest ∧ ¬ Undecided ctx globals forest := by
  constructor
  · intro accepted
    constructor
    · rw [evalRuleStatements_eq_scan, scan_eq_iff_of_ne (by simp)] at accepted
      obtain ⟨stmt, reached, stmtAccepted⟩ := accepted
      obtain ⟨path, matched⟩ := matches_of_evalIfStatement stmtAccepted
      refine ⟨path, matched.mono ?_⟩
      intro other otherMem
      rw [List.mem_singleton.mp otherMem]
      exact reached.mem
    · rintro ⟨failure, aborts⟩
      rw [(evalRuleStatements_eq_error_iff forest failure).mpr aborts] at accepted
      simp at accepted
  · rintro ⟨⟨path, matched⟩, decided⟩
    cases outcome : evalRuleStatements ctx globals forest with
    | error failure =>
        exact absurd ⟨failure, (evalRuleStatements_eq_error_iff _ _).mp outcome⟩ decided
    | ok result =>
        cases result with
        | true => rfl
        | false =>
            obtain ⟨stmt, stmtMem, standing⟩ := matched.exists_not_refuted
            exact absurd ((evalRuleStatements_eq_false_iff forest).mp outcome stmt stmtMem)
              standing

/-! ## Rules and programs -/

/-- The search leaves the rule behind: it is decided and has no matching
path. -/
def Passed (ctx : Context) (globals : Globals) (rule : Rule) : Prop :=
  ¬ Undecided ctx globals rule.statements ∧ ¬ Matches ctx globals rule.statements

theorem evalRule_eq_false_iff (rule : Rule) :
    evalRule rule ctx globals = .ok false ↔ Passed ctx globals rule := by
  have accepted_iff := @evalRuleStatements_eq_true_iff ctx globals rule.statements
  have erred_iff := @evalRuleStatements_eq_error_iff ctx globals rule.statements
  rw [evalRule, Passed]
  cases outcome : evalRuleStatements ctx globals rule.statements with
  | error failure =>
      have undecided : Undecided ctx globals rule.statements :=
        ⟨failure, (erred_iff failure).mp outcome⟩
      simp [undecided]
  | ok result =>
      have decided : ¬ Undecided ctx globals rule.statements := by
        rintro ⟨failure, aborts⟩
        rw [(erred_iff failure).mpr aborts] at outcome
        simp at outcome
      rw [outcome] at accepted_iff
      cases result with
      | true => simp [(accepted_iff.mp rfl).1]
      | false =>
          have unmatched : ¬ Matches ctx globals rule.statements := fun matched =>
            absurd (accepted_iff.mpr ⟨matched, decided⟩) (by simp)
          simp [decided, unmatched]

variable (program : Program)

/-- `rule` stands in the program behind passed rules only. -/
def ReachesRule (ctx : Context) (rule : Rule) : Prop :=
  ∃ earlier later, program.rules = earlier ++ rule :: later ∧
    ∀ other ∈ earlier, Passed ctx program.globals other

theorem ReachesRule.mem {program : Program} {rule : Rule}
    (reaches : ReachesRule program ctx rule) : rule ∈ program.rules := by
  obtain ⟨earlier, later, split, -⟩ := reaches
  simp [split]

/-- `rule` is the first rule of the program that matches, and the search finds
its match. -/
def FirstMatch (ctx : Context) (rule : Rule) : Prop :=
  ReachesRule program ctx rule ∧ Matches ctx program.globals rule.statements ∧
    ¬ Undecided ctx program.globals rule.statements

def NoMatch (ctx : Context) : Prop :=
  ∀ rule ∈ program.rules, Passed ctx program.globals rule

/-- What the program has to return, read off the first rule that the search
does not leave behind. -/
inductive Decision (sample : WeightedIndex) (program : Program) (ctx : Context) :
    Except InterpreterError BackendOutput → Prop
  | matched {rule : Rule} (first : FirstMatch program ctx rule) :
      Decision sample program ctx (backendOutput sample (some rule.name) rule.output)
  | aborted {rule : Rule} {failure : InterpreterError}
      (reaches : ReachesRule program ctx rule)
      (aborts : Aborts ctx program.globals rule.statements failure) :
      Decision sample program ctx (.error failure)
  | unmatched (passed : NoMatch program ctx) :
      Decision sample program ctx (backendOutput sample none program.defaultSelection)

variable (sample : WeightedIndex)

/-- The loop over the rules returns the decision of every program that begins
with passed rules and goes on with the remaining ones. -/
theorem decision_evalRules (program : Program) (ctx : Context) (earlier remaining : List Rule)
    (split : program.rules = earlier ++ remaining)
    (passed : ∀ rule ∈ earlier, Passed ctx program.globals rule) :
    Decision sample program ctx
      (evalRules sample ctx program.globals program.defaultSelection remaining) := by
  induction remaining generalizing earlier with
  | nil =>
      rw [evalRules]
      refine .unmatched ?_
      simpa [NoMatch, split] using passed
  | cons rule rest ih =>
      have reaches : ReachesRule program ctx rule := ⟨earlier, rest, split, passed⟩
      rw [evalRules]
      cases outcome : evalRule rule ctx program.globals with
      | error failure =>
          exact .aborted reaches ((evalRuleStatements_eq_error_iff _ _).mp outcome)
      | ok result =>
          cases result with
          | true =>
              exact .matched ⟨reaches, (evalRuleStatements_eq_true_iff _).mp outcome⟩
          | false =>
              refine ih (earlier ++ [rule]) (by simp [split]) ?_
              intro other otherMem
              rcases List.mem_append.mp otherMem with otherMem | otherMem
              · exact passed other otherMem
              · rw [List.mem_singleton.mp otherMem]
                exact (evalRule_eq_false_iff rule).mp outcome

theorem evalRules_of_passed (defaultSelection : Output) {earlier : List Rule}
    (passed : ∀ rule ∈ earlier, Passed ctx globals rule) (remaining : List Rule) :
    evalRules sample ctx globals defaultSelection (earlier ++ remaining) =
      evalRules sample ctx globals defaultSelection remaining := by
  induction earlier with
  | nil => rfl
  | cons rule rest ih =>
      have rejected := (evalRule_eq_false_iff rule).mpr (passed rule List.mem_cons_self)
      rw [List.cons_append, evalRules, rejected]
      exact ih fun other otherMem => passed other (List.mem_cons_of_mem rule otherMem)

theorem decision_evalProgram (program : Program) (ctx : Context) :
    Decision sample program ctx (evalProgram sample program ctx) :=
  decision_evalRules sample program ctx [] program.rules rfl (by simp)

/-- The decision is unique, and it is what the interpreter returns. -/
theorem decision_iff (program : Program)
    (outcome : Except InterpreterError BackendOutput) :
    Decision sample program ctx outcome ↔ evalProgram sample program ctx = outcome := by
  constructor
  · intro decision
    cases decision with
    | @matched rule first =>
        obtain ⟨⟨earlier, later, split, passed⟩, found⟩ := first
        have accepted : evalRule rule ctx program.globals = .ok true :=
          (evalRuleStatements_eq_true_iff _).mpr found
        rw [evalProgram, split, evalRules_of_passed _ _ passed, evalRules, accepted]
    | @aborted rule failure reaches aborts =>
        obtain ⟨earlier, later, split, passed⟩ := reaches
        have erred : evalRule rule ctx program.globals = .error failure :=
          (evalRuleStatements_eq_error_iff _ _).mpr aborts
        rw [evalProgram, split, evalRules_of_passed _ _ passed, evalRules, erred]
    | unmatched passed =>
        have exhausted := evalRules_of_passed sample program.defaultSelection passed []
        rw [evalProgram, ← List.append_nil program.rules, exhausted, evalRules]
  · rintro rfl
    exact decision_evalProgram sample program ctx

theorem backendOutput_eq_ok_iff (ruleName : Option String) (output : Output)
    (result : BackendOutput) :
    backendOutput sample ruleName output = .ok result ↔
      ∃ evaluated, evaluateOutput sample output = .ok evaluated ∧
        result = ⟨ruleName, output, evaluated⟩ := by
  rw [backendOutput]
  cases evaluateOutput sample output with
  | error reason => simp
  | ok evaluated => simp [eq_comm]

theorem backendOutput_eq_error_iff (ruleName : Option String) (output : Output)
    (failure : InterpreterError) :
    backendOutput sample ruleName output = .error failure ↔
      ∃ reason, evaluateOutput sample output = .error reason ∧
        failure = ⟨.outputEvaluationFailed reason, []⟩ := by
  rw [backendOutput]
  cases evaluateOutput sample output with
  | error reason => simp [eq_comm]
  | ok evaluated => simp

/-- The program ends with an invalid comparison exactly when the search ends at
one. -/
theorem evalProgram_eq_invalidComparison_iff (program : Program)
    (metadata : Metadata) :
    evalProgram sample program ctx = .error ⟨.invalidComparison, metadata⟩ ↔
      ∃ rule, ReachesRule program ctx rule ∧
        Aborts ctx program.globals rule.statements ⟨.invalidComparison, metadata⟩ := by
  rw [← decision_iff]
  constructor
  · intro decision
    generalize outcome_eq : (Except.error ⟨.invalidComparison, metadata⟩ :
      Except InterpreterError BackendOutput) = outcome at decision
    cases decision with
    | matched first =>
        obtain ⟨reason, -, equal⟩ := (backendOutput_eq_error_iff _ _ _ _).mp outcome_eq.symm
        simp at equal
    | @aborted rule other reaches aborts =>
        obtain rfl := Except.error.inj outcome_eq
        exact ⟨rule, reaches, aborts⟩
    | unmatched passed =>
        obtain ⟨reason, -, equal⟩ := (backendOutput_eq_error_iff _ _ _ _).mp outcome_eq.symm
        simp at equal
  · rintro ⟨rule, reaches, aborts⟩
    exact .aborted reaches aborts

/-- First-match semantics.  The interpreter returns the output of the first
matching rule under that rule's name, or the default selection when every rule
is decided against; it fails exactly when the left-to-right search gets to an
undecidable comparison before a match, or the output it has to evaluate fails. -/
theorem evalProgram_firstMatch (program : Program) (ctx : Context) :
    (∀ result, evalProgram sample program ctx = .ok result ↔
      (∃ rule evaluated, FirstMatch program ctx rule ∧
        evaluateOutput sample rule.output = .ok evaluated ∧
        result = ⟨some rule.name, rule.output, evaluated⟩) ∨
      (NoMatch program ctx ∧ ∃ evaluated,
        evaluateOutput sample program.defaultSelection = .ok evaluated ∧
        result = ⟨none, program.defaultSelection, evaluated⟩)) ∧
    (∀ failure, evalProgram sample program ctx = .error failure ↔
      (∃ rule, ReachesRule program ctx rule ∧
        Aborts ctx program.globals rule.statements failure) ∨
      (∃ rule reason, FirstMatch program ctx rule ∧
        evaluateOutput sample rule.output = .error reason ∧
        failure = ⟨.outputEvaluationFailed reason, []⟩) ∨
      (NoMatch program ctx ∧ ∃ reason,
        evaluateOutput sample program.defaultSelection = .error reason ∧
        failure = ⟨.outputEvaluationFailed reason, []⟩)) := by
  constructor
  · intro result
    rw [← decision_iff]
    constructor
    · intro decision
      generalize outcome_eq : (Except.ok result : Except InterpreterError BackendOutput) =
        outcome at decision
      cases decision with
      | @matched rule first =>
          obtain ⟨evaluated, evaluates, equal⟩ :=
            (backendOutput_eq_ok_iff _ _ _ _).mp outcome_eq.symm
          exact Or.inl ⟨rule, evaluated, first, evaluates, equal⟩
      | aborted reaches aborts => simp at outcome_eq
      | unmatched passed =>
          exact Or.inr ⟨passed, (backendOutput_eq_ok_iff _ _ _ _).mp outcome_eq.symm⟩
    · rintro (⟨rule, evaluated, first, evaluates, equal⟩ | ⟨passed, evaluated⟩)
      · rw [← (backendOutput_eq_ok_iff _ _ _ _).mpr ⟨evaluated, evaluates, equal⟩]
        exact .matched first
      · rw [← (backendOutput_eq_ok_iff _ _ _ _).mpr evaluated]
        exact .unmatched passed
  · intro failure
    rw [← decision_iff]
    constructor
    · intro decision
      generalize outcome_eq : (Except.error failure : Except InterpreterError BackendOutput) =
        outcome at decision
      cases decision with
      | @matched rule first =>
          obtain ⟨reason, evaluates, equal⟩ :=
            (backendOutput_eq_error_iff _ _ _ _).mp outcome_eq.symm
          exact Or.inr (Or.inl ⟨rule, reason, first, evaluates, equal⟩)
      | @aborted rule other reaches aborts =>
          obtain rfl := Except.error.inj outcome_eq
          exact Or.inl ⟨rule, reaches, aborts⟩
      | unmatched passed =>
          exact Or.inr (Or.inr
            ⟨passed, (backendOutput_eq_error_iff _ _ _ _).mp outcome_eq.symm⟩)
    · rintro (⟨rule, reaches, aborts⟩ | ⟨rule, reason, first, evaluates, equal⟩ |
        ⟨passed, evaluated⟩)
      · exact .aborted reaches aborts
      · rw [← (backendOutput_eq_error_iff _ _ _ _).mpr ⟨reason, evaluates, equal⟩]
        exact .matched first
      · rw [← (backendOutput_eq_error_iff _ _ _ _).mpr evaluated]
        exact .unmatched passed

end DecisionEngine.Euclid
