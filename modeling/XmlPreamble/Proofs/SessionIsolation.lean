import XmlPreamble.Interface.Session

/-!
# Isolation of the detectors of a session

Callers share a session: one makes a detector, another feeds a different one, a third hands over
arguments of the wrong kind, a fourth fails while it holds a lock.  What matters to one detector is
very little of this.  Its history is what happened behind its making, and of its history only its
own chunks and the ends of its own input count, as long as nobody has poisoned it.

Main statements:

- `Session.step_cases`: all that a step can do;
- `Session.step_of_input`, `Session.step_of_untouched`, `Session.step_of_poisons`: what a step does
  to one detector;
- `Step.history?_eq_some_iff`, `Session.reply_of_making`: a history starts behind the call that
  gave the reference away;
- `Session.run_detectors`: every detector is what its history made of a fresh one;
- `Session.reply_as_if_alone`: a detector answers as if it were alone with its own input.
-/

namespace XmlPreamble.Interface

open Detection

/-- One thing that happens in a session. -/
inductive Step where
  /-- A function is called. -/
  | call (openFile : OpenFile) (function : Function) (arguments : List Term)
  /-- A caller fails while it holds the lock of a detector. -/
  | poison (detector : Nat)

/-- What changes a detector. -/
inductive Input where
  /-- One more chunk. -/
  | chunk (data : Bytes)
  /-- The end of the input. -/
  | ending

/-- The detector behind an input. -/
def Input.apply (detector : Detector) : Input → Detector
  | chunk data => (detector.feed data).1
  | ending => detector.finish.1

/-- A detector that nobody shares, behind the given inputs. -/
def alone (inputs : List Input) : Detector :=
  inputs.foldl Input.apply .fresh

/-- The word by which callers know a mode, or that there is none yet. -/
def decisionAtom : Option Mode → Term
  | none => .atom "pending"
  | some .none => .atom "none"
  | some .auto => .atom "auto"
  | some .dtd => .atom "dtd"
  | some .xsd => .atom "xsd"

theorem ofDecision_eq_decisionAtom
    (decision : Option Mode) :
    Term.ofDecision decision = decisionAtom decision := by
  rcases decision with _ | _ | _ | _ | _ <;> rfl

/-- What can be asked of a detector. -/
inductive Question where
  /-- What it answers to an input. -/
  | input (input : Input)
  /-- How it stands. -/
  | status

namespace Question

/-- The request that asks a question of a detector. -/
def request (index : Nat) : Question → Request
  | input (.chunk data) => .feed index data
  | input .ending => .finish index
  | status => .status index

/-- The answer of a detector that nobody shares. -/
def answer (detector : Detector) : Question → Term
  | input (.chunk data) => decisionAtom (detector.feed data).1.decision
  | input .ending => decisionAtom (some detector.finish.1.answer)
  | status =>
      .tuple
        [.atom (if detector.decision.isSome then "true" else "false"),
          .int detector.buffer.length, .int detector.bytesSeen]

/-- The detector behind a question. -/
def next (detector : Detector) : Question → Detector
  | input given => given.apply detector
  | status => detector

/-- The detector behind a question that is asked of it under its lock. -/
def through (shared : Shared) (question : Question) : Shared :=
  (shared.use fun detector => ((), question.next detector)).2

/-- The requests to a detector are the questions that are asked of it. -/
theorem target?_eq_some_iff
    {request : Request}
    {index : Nat} :
    request.target? = some index ↔
      ∃ question : Question, request = question.request index := by
  constructor
  · intro htarget
    cases request with
    | feed other chunk =>
        cases htarget
        exact ⟨.input (.chunk chunk), rfl⟩
    | finish other =>
        cases htarget
        exact ⟨.input .ending, rfl⟩
    | status other =>
        cases htarget
        exact ⟨.status, rfl⟩
    | detect | detectCode | detectBatch | detectFile | detectFiles | make =>
        cases htarget
  · rintro ⟨question, rfl⟩
    rcases question with (_ | _) | _ <;> rfl

end Question

namespace Step

/-- What a step asks for, if it is a call whose arguments are of the right kinds. -/
def request? : Step → Option Request
  | call _ function arguments => Request.ofTerms? function arguments
  | poison _ => none

/-- Whether a step makes a detector. -/
def makes (step : Step) : Bool :=
  step.request? = some .make

/-- What a step brings to a detector. -/
def input? (index : Nat) (step : Step) : Option Input :=
  match step.request? with
  | some (.feed other chunk) => if other = index then some (.chunk chunk) else none
  | some (.finish other) => if other = index then some .ending else none
  | _ => none

/-- Whether a step poisons a detector. -/
def poisons (index : Nat) : Step → Bool
  | call _ _ _ => false
  | poison other => other = index

/-- The history of a detector: the steps behind its making, if it was made. -/
def history? : Nat → List Step → Option (List Step)
  | _, [] => none
  | index, step :: steps =>
      if step.makes then
        match index with
        | 0 => some steps
        | before + 1 => history? before steps
      else
        history? index steps

section Inputs

theorem request?_of_input?
    {index : Nat}
    {step : Step}
    {input : Input}
    (hinput : step.input? index = some input) :
    step.request? = some ((Question.input input).request index) := by
  rw [input?] at hinput
  split at hinput
  · rename_i other chunk hrequest
    simp only [Option.ite_none_right_eq_some, Option.some.injEq] at hinput
    obtain ⟨rfl, rfl⟩ := hinput
    exact hrequest
  · rename_i other hrequest
    simp only [Option.ite_none_right_eq_some, Option.some.injEq] at hinput
    obtain ⟨rfl, rfl⟩ := hinput
    exact hrequest
  · cases hinput

/-- A step that asks something of a detector and brings nothing to it asks how it stands. -/
theorem eq_status_of_input?
    {index : Nat}
    {step : Step}
    {question : Question}
    (hinput : step.input? index = none)
    (hrequest : step.request? = some (question.request index)) :
    question = .status := by
  rcases question with (_ | _) | _
  · simp [input?, hrequest, Question.request] at hinput
  · simp [input?, hrequest, Question.request] at hinput
  · rfl

end Inputs

section Histories

/-- The history of a detector goes on with the steps that come later. -/
theorem history?_append
    {index : Nat}
    {early history : List Step}
    (hmade : history? index early = some history)
    (late : List Step) :
    history? index (early ++ late) = some (history ++ late) := by
  fun_induction history? index early with
  | case1 => cases hmade
  | case2 step steps hmakes =>
      cases hmade
      simp [history?, hmakes]
  | case3 step steps hmakes before ih =>
      simpa [history?, hmakes] using ih hmade
  | case4 index step steps hmakes ih =>
      simpa [history?, hmakes] using ih hmade

/-- What happens before a detector is made and makes no other is not in its history. -/
theorem history?_insert
    {index : Nat}
    {early : List Step}
    {step : Step}
    (hnot : history? index early = none)
    (hmakes : step.makes = false)
    (late : List Step) :
    history? index (early ++ step :: late) = history? index (early ++ late) := by
  fun_induction history? index early with
  | case1 index => simp [history?, hmakes]
  | case2 => cases hnot
  | case3 first steps hfirst before ih =>
      simpa [history?, hfirst] using ih hnot
  | case4 index first steps hfirst ih =>
      simpa [history?, hfirst] using ih hnot

/-- A history starts behind the call that made the detector, which is numbered by the calls of
this kind that came before. -/
theorem history?_eq_some_iff
    {index : Nat}
    {steps history : List Step} :
    history? index steps = some history ↔
      ∃ before making, steps = before ++ making :: history ∧ making.makes = true ∧
        before.countP makes = index := by
  constructor
  · intro hmade
    fun_induction history? index steps with
    | case1 => cases hmade
    | case2 step steps hmakes =>
        cases hmade
        exact ⟨[], step, rfl, hmakes, rfl⟩
    | case3 step steps hmakes index ih =>
        obtain ⟨before, making, rfl, hmaking, rfl⟩ := ih hmade
        exact ⟨step :: before, making, rfl, hmaking, by simp [hmakes]⟩
    | case4 index step steps hmakes ih =>
        obtain ⟨before, making, rfl, hmaking, rfl⟩ := ih hmade
        exact ⟨step :: before, making, rfl, hmaking, by simp [hmakes]⟩
  · rintro ⟨before, making, rfl, hmaking, rfl⟩
    induction before with
    | nil => simp [history?, hmaking]
    | cons step before ih =>
        by_cases hmakes : step.makes = true
        · simpa [history?, hmakes] using ih
        · simpa [history?, hmakes] using ih

end Histories

end Step

namespace Session

/-- The session behind one step. -/
def step (session : Session) : Step → Session
  | .call openFile function arguments => (session.call openFile function arguments).2
  | .poison index => session.poison index

/-- The session behind some steps. -/
def run (session : Session) (steps : List Step) : Session :=
  steps.foldl step session

/-- The answer to a call as the caller gets it: a term, or the term that is raised. -/
def reply (openFile : OpenFile) (session : Session) (function : Function)
    (arguments : List Term) : Except Term Term :=
  (session.call openFile function arguments).1.mapError Refusal.term

section Steps

variable {session : Session}
variable {index : Nat}

theorem step_of_request
    (session : Session)
    {step : Step}
    {request : Request}
    (hrequest : step.request? = some request) :
    ∃ openFile : OpenFile, session.step step = (session.answer openFile request).2 := by
  cases step with
  | call openFile function arguments =>
      have htaken : Request.ofTerms? function arguments = some request := hrequest
      exact ⟨openFile, by simp [Session.step, call, htaken]⟩
  | poison => cases hrequest

/-- A step that makes a detector puts it behind the ones there are. -/
theorem step_of_makes
    {step : Step}
    (hmakes : step.makes = true) :
    (session.step step).detectors = session.detectors ++ [.fresh] := by
  have hrequest : step.request? = some .make := by
    simpa [Step.makes] using hmakes
  obtain ⟨openFile, hstep⟩ := step_of_request session hrequest
  rw [hstep]
  rfl

/-- A question changes the detector of which it is asked, and no other. -/
theorem answer_detectors_of_question
    {shared : Shared}
    (hentry : session.detectors[index]? = some shared)
    (openFile : OpenFile)
    (question : Question) :
    (session.answer openFile (question.request index)).2.detectors =
      session.detectors.set index (question.through shared) := by
  rcases question with (data | _) | _
  all_goals
    cases shared <;>
      simp [Question.request, Question.through, Question.next, Input.apply, answer, useDetector,
        hentry, Shared.feed, Shared.finish, Shared.status, Shared.use_sound, Shared.use_poisoned]

/-- A question of a sound detector is answered as if nobody shared the detector. -/
theorem answer_of_sound
    {detector : Detector}
    (hentry : session.detectors[index]? = some (.sound detector))
    (openFile : OpenFile)
    (question : Question) :
    (session.answer openFile (question.request index)).1 = .ok (question.answer detector) := by
  rcases question with (data | _) | _
  · simp [Question.request, Question.answer, ← ofDecision_eq_decisionAtom, answer, useDetector,
      hentry, Shared.feed, Shared.use_sound]
  · simp [Question.request, Question.answer, ← ofDecision_eq_decisionAtom, answer, useDetector,
      hentry, Shared.finish, Shared.use_sound, Term.ofDecision]
  · simp [Question.request, Question.answer, answer, useDetector, hentry, Shared.status,
      Shared.use_sound, statusTerm, Term.ofBool, Term.ofNat]

/-- A question of a detector that was never made is refused. -/
theorem answer_of_unmade
    (hentry : session.detectors[index]? = none)
    (openFile : OpenFile)
    (question : Question) :
    (session.answer openFile (question.request index)).1 = .error .badArgument := by
  rcases question with (data | _) | _
  all_goals
    simp [Question.request, answer, useDetector, hentry]

/-- A step that brings an input to a detector changes it as the input does. -/
theorem step_of_input
    {shared : Shared}
    (hentry : session.detectors[index]? = some shared)
    {step : Step}
    {input : Input}
    (hinput : step.input? index = some input) :
    (session.step step).detectors[index]? = some ((Question.input input).through shared) := by
  have hlt : index < session.detectors.length := (List.getElem?_eq_some_iff.1 hentry).1
  obtain ⟨openFile, hstep⟩ := step_of_request session (Step.request?_of_input? hinput)
  rw [hstep, answer_detectors_of_question hentry]
  exact List.getElem?_set_self hlt

/-- All that a step can do: a request is answered, a detector is poisoned, or nothing happens. -/
theorem step_cases
    (session : Session)
    (step : Step) :
    (∃ openFile request, step.request? = some request ∧
      session.step step = (session.answer openFile request).2) ∨
    (∃ other, step = .poison other ∧
      session.step step =
        { session with detectors := session.detectors.set other .poisoned }) ∨
    session.step step = session := by
  cases step with
  | call openFile function arguments =>
      cases hrequest : (Step.call openFile function arguments).request? with
      | none =>
          right
          right
          rw [Session.step, call_of_not_request openFile session hrequest]
      | some request =>
          left
          obtain ⟨openFile, hstep⟩ := step_of_request session hrequest
          exact ⟨openFile, request, rfl, hstep⟩
  | poison other =>
      right
      cases hentry : session.detectors[other]? with
      | none =>
          right
          rw [Session.step, poison, hentry]
      | some shared =>
          left
          have hpoison : shared.poison.2 = .poisoned := by
            cases shared <;> rfl
          refine ⟨other, rfl, ?_⟩
          rw [Session.step, poison, hentry]
          simp only [hpoison]

/-- A step that brings no input to a detector and does not poison it leaves it as it is. -/
theorem step_of_untouched
    {shared : Shared}
    (hentry : session.detectors[index]? = some shared)
    {step : Step}
    (hinput : step.input? index = none)
    (hpoisons : step.poisons index = false) :
    (session.step step).detectors[index]? = some shared := by
  have hlt : index < session.detectors.length := (List.getElem?_eq_some_iff.1 hentry).1
  rcases step_cases session step with
    ⟨openFile, request, hrequest, hstep⟩ | ⟨other, rfl, hstep⟩ | hstep
  · rw [hstep]
    by_cases htarget : request.target? = some index
    · -- The detector is asked how it stands: everything else would be an input.
      obtain ⟨question, rfl⟩ := Question.target?_eq_some_iff.1 htarget
      obtain rfl := Step.eq_status_of_input? hinput hrequest
      rw [answer_detectors_of_question hentry, List.getElem?_set_self hlt]
      cases shared <;> rfl
    · rw [answer_detectors_of_ne openFile session request hlt htarget]
      exact hentry
  · have hne : other ≠ index := by
      simpa [Step.poisons] using hpoisons
    rw [hstep, List.getElem?_set_ne hne]
    exact hentry
  · rw [hstep]
    exact hentry

/-- A caller that fails while it holds the lock of a detector poisons it. -/
theorem step_of_poisons
    {shared : Shared}
    (hentry : session.detectors[index]? = some shared)
    {step : Step}
    (hpoisons : step.poisons index = true) :
    (session.step step).detectors[index]? = some .poisoned := by
  have hlt : index < session.detectors.length := (List.getElem?_eq_some_iff.1 hentry).1
  cases step with
  | call => cases hpoisons
  | poison other =>
      obtain rfl : other = index := by
        simpa [Step.poisons] using hpoisons
      have hpoison : shared.poison.2 = .poisoned := by
        cases shared <;> rfl
      simp only [Session.step, poison, hentry, hpoison]
      exact List.getElem?_set_self hlt

theorem useDetector_length
    {α : Type}
    (session : Session)
    (index : Nat)
    (action : Shared → Except Poisoned α × Shared)
    (render : α → Term) :
    (session.useDetector index action render).2.detectors.length = session.detectors.length := by
  rw [useDetector]
  split
  · rfl
  · simp only
    split <;> exact List.length_set

/-- A step that makes no detector leaves as many as there are. -/
theorem step_length_of_not_makes
    (session : Session)
    {step : Step}
    (hmakes : step.makes = false) :
    (session.step step).detectors.length = session.detectors.length := by
  rcases step_cases session step with
    ⟨openFile, request, hrequest, hstep⟩ | ⟨other, -, hstep⟩ | hstep
  · rw [hstep]
    cases request with
    | make => simp [Step.makes, hrequest] at hmakes
    | feed index chunk => exact useDetector_length session _ _ _
    | finish index => exact useDetector_length session _ _ _
    | status index => exact useDetector_length session _ _ _
    | detect | detectCode | detectBatch | detectFile | detectFiles => rfl
  · rw [hstep]
    exact List.length_set
  · rw [hstep]

end Steps

section Runs

/-- The detectors of a run are those that it finds and those that it makes. -/
theorem run_length
    (session : Session)
    (steps : List Step) :
    (session.run steps).detectors.length =
      session.detectors.length + steps.countP Step.makes := by
  induction steps generalizing session with
  | nil => rfl
  | cons first steps ih =>
      rw [run, List.foldl_cons, ← run, ih]
      by_cases hmakes : first.makes = true
      · rw [step_of_makes hmakes]
        simp [hmakes]
        omega
      · rw [step_length_of_not_makes session (by simpa using hmakes)]
        simp [hmakes]

/-- What its history makes of a detector. -/
def behind (index : Nat) (history : List Step) : Shared :=
  if history.any (Step.poisons index) then
    .poisoned
  else
    .sound (alone (history.filterMap (Step.input? index)))

variable {session : Session}
variable {index : Nat}

/-- A poisoned detector stays poisoned. -/
theorem run_of_poisoned
    (hentry : session.detectors[index]? = some .poisoned)
    (steps : List Step) :
    (session.run steps).detectors[index]? = some .poisoned := by
  induction steps generalizing session with
  | nil => exact hentry
  | cons first steps ih =>
      apply ih
      by_cases hpoisons : first.poisons index = true
      · exact step_of_poisons hentry hpoisons
      · cases hinput : first.input? index with
        | none => exact step_of_untouched hentry hinput (by simpa using hpoisons)
        | some input => exact step_of_input hentry hinput

/-- A sound detector takes in its own inputs one after the other, until it is poisoned. -/
theorem run_of_sound
    {detector : Detector}
    (hentry : session.detectors[index]? = some (.sound detector))
    (steps : List Step) :
    (session.run steps).detectors[index]? =
      some (if steps.any (Step.poisons index) then
        .poisoned
      else
        .sound ((steps.filterMap (Step.input? index)).foldl Input.apply detector)) := by
  induction steps generalizing session detector with
  | nil => exact hentry
  | cons first steps ih =>
      rw [run, List.foldl_cons, ← run]
      by_cases hpoisons : first.poisons index = true
      · rw [run_of_poisoned (step_of_poisons hentry hpoisons) steps]
        simp [hpoisons]
      · have hsound : first.poisons index = false := by simpa using hpoisons
        cases hinput : first.input? index with
        | none =>
            rw [ih (step_of_untouched hentry hinput hsound)]
            simp [hsound, hinput]
        | some input =>
            rw [ih (step_of_input hentry hinput)]
            simp [hsound, hinput, Question.next]

/-- The detectors that a run finds or makes: the first that it makes comes behind those it finds. -/
theorem run_detectors_of_length
    {before : Nat}
    (hlength : session.detectors.length + before = index)
    (steps : List Step) :
    (session.run steps).detectors[index]? =
      (Step.history? before steps).map (behind index) := by
  fun_induction Step.history? before steps generalizing session with
  | case1 before =>
      have hle : session.detectors.length ≤ index := by omega
      simpa [run] using hle
  | case2 step steps hmakes =>
      have hentry : (session.step step).detectors[index]? = some .fresh := by
        rw [step_of_makes hmakes, ← hlength]
        exact List.getElem?_concat_length
      exact run_of_sound hentry steps
  | case3 step steps hmakes before ih =>
      apply ih
      rw [step_of_makes hmakes, List.length_append, List.length_singleton]
      omega
  | case4 before step steps hmakes ih =>
      apply ih
      rw [step_length_of_not_makes session (by simpa using hmakes)]
      exact hlength

/-- Every detector of a session is what its history makes of it. -/
theorem run_detectors
    (index : Nat)
    (steps : List Step) :
    (start.run steps).detectors[index]? = (Step.history? index steps).map (behind index) :=
  run_detectors_of_length (Nat.zero_add index) steps

end Runs

section Replies

/-- The reference to a new detector counts the detectors that were made before. -/
theorem reply_of_making
    (openFile : OpenFile)
    (before : List Step) :
    (start.run before).reply openFile .streamingNew [] =
      .ok (.detector (before.countP Step.makes)) := by
  have hlength : (start.run before).detectors.length = before.countP Step.makes :=
    (run_length start before).trans (Nat.zero_add _)
  rw [← hlength]
  rfl

/-- What a caller gets who asks a question of a detector with the given history. -/
def replyBehind (index : Nat) (question : Question) (history : List Step) : Except Term Term :=
  if history.any (Step.poisons index) then
    .error (.atom "mutex_poisoned")
  else
    .ok (question.answer (alone (history.filterMap (Step.input? index))))

/-- The answer to a question comes from the history of the detector of which it is asked. -/
theorem reply_of_history
    (openFile : OpenFile)
    (steps : List Step)
    {function : Function}
    {arguments : List Term}
    {index : Nat}
    {question : Question}
    (hasked : Request.ofTerms? function arguments = some (question.request index)) :
    (start.run steps).reply openFile function arguments =
      match Step.history? index steps with
      | none => .error (.atom "badarg")
      | some history => replyBehind index question history := by
  have hentry := run_detectors index steps
  simp only [reply, call, hasked]
  cases hmade : Step.history? index steps with
  | none =>
      rw [hmade] at hentry
      rw [answer_of_unmade hentry]
      rfl
  | some history =>
      rw [hmade, Option.map_some] at hentry
      change _ = replyBehind index question history
      rw [replyBehind]
      by_cases hpoisoned : history.any (Step.poisons index) = true
      · rw [behind, if_pos hpoisoned] at hentry
        have htarget : (question.request index).target? = some index :=
          Question.target?_eq_some_iff.2 ⟨question, rfl⟩
        rw [answer_of_poisoned openFile _ htarget hentry, if_pos hpoisoned]
        rfl
      · rw [behind, if_neg hpoisoned] at hentry
        rw [answer_of_sound hentry, if_neg hpoisoned]
        rfl

/-- What a detector is not concerned with does not show in its later answers. -/
theorem replyBehind_insert
    {index : Nat}
    {step : Step}
    (hinput : step.input? index = none)
    (hpoisons : step.poisons index = false)
    (question : Question)
    (early late : List Step) :
    replyBehind index question (early ++ step :: late) =
      replyBehind index question (early ++ late) := by
  simp [replyBehind, hinput, hpoisons]

/-- A detector answers as if it were alone with its own chunks and the ends of its own input, until
it is poisoned, and from then on it refuses every question.  What is left out of a session without
touching the detector is not missed by it.  Its history is what comes behind the call that gave the
reference to it away. -/
theorem reply_as_if_alone
    (steps : List Step)
    (openFile : OpenFile)
    {function : Function}
    {arguments : List Term}
    {index : Nat}
    {question : Question}
    (hasked : Request.ofTerms? function arguments = some (question.request index)) :
    (start.run steps).reply openFile function arguments =
        (match Step.history? index steps with
        | none => .error (.atom "badarg")
        | some history =>
            if history.any (Step.poisons index) then
              .error (.atom "mutex_poisoned")
            else
              .ok (question.answer (alone (history.filterMap (Step.input? index))))) ∧
      (∀ early step late, steps = early ++ step :: late →
        step.input? index = none →
        step.poisons index = false →
        (step.makes = true → Step.history? index early ≠ none) →
        (start.run steps).reply openFile function arguments =
          (start.run (early ++ late)).reply openFile function arguments) ∧
      ∀ history, Step.history? index steps = some history →
        ∃ before making, steps = before ++ making :: history ∧ making.makes = true ∧
          (start.run before).reply openFile .streamingNew [] = .ok (.detector index) := by
  refine ⟨reply_of_history openFile steps hasked, ?_, ?_⟩
  · rintro early step late rfl hinput hpoisons hmakes
    rw [reply_of_history openFile _ hasked, reply_of_history openFile _ hasked]
    cases hmade : Step.history? index early with
    | none =>
        have hnot : step.makes = false :=
          Bool.eq_false_iff.2 fun hmaking => hmakes hmaking hmade
        rw [Step.history?_insert hmade hnot late]
    | some history =>
        rw [Step.history?_append hmade, Step.history?_append hmade]
        exact replyBehind_insert hinput hpoisons question history late
  · intro history hmade
    obtain ⟨before, making, rfl, hmakes, rfl⟩ := Step.history?_eq_some_iff.1 hmade
    exact ⟨before, making, rfl, hmakes, reply_of_making openFile before⟩

/-- The second of two detectors is fed, the first is poisoned, and a chunk comes without a detector:
the second takes the next chunk for the next line of its own comment, whether or not the first was
poisoned, and the first refuses. -/
theorem reply_as_if_alone_beside_poisoned :
    let noFiles : OpenFile := fun _ => .error (.ofKind .notFound)
    let opening := Text.Utf8.encode "<!-- a\n".toList
    let closing := Text.Utf8.encode "-->\n<!DOCTYPE r>\n".toList
    let early : List Step :=
      [.call noFiles .streamingNew [], .call noFiles .streamingNew [],
        .call noFiles .streamingFeed [.detector 1, .binary opening]]
    let late : List Step := [.call noFiles .streamingFeed [.binary opening]]
    let session := start.run (early ++ .poison 0 :: late)
    let arguments := [Term.detector 1, .binary closing]
    session.reply noFiles .streamingFeed arguments = .ok (.atom "dtd") ∧
      (start.run (early ++ late)).reply noFiles .streamingFeed arguments = .ok (.atom "dtd") ∧
      session.reply noFiles .streamingFeed [.detector 1, .binary opening] =
        .ok (.atom "pending") ∧
      session.reply noFiles .streamingFinish [.detector 1] = .ok (.atom "xsd") ∧
      session.reply noFiles .streamingStatus [.detector 1] =
        .ok (.tuple [.atom "false", .int 0, .int 7]) ∧
      session.reply noFiles .streamingStatus [.detector 0] = .error (.atom "mutex_poisoned") := by
  intro noFiles opening closing early late session arguments
  have hasked : Request.ofTerms? .streamingFeed arguments =
      some ((Question.input (.chunk closing)).request 1) := rfl
  have hopening : Request.ofTerms? .streamingFeed [.detector 1, .binary opening] =
      some ((Question.input (.chunk opening)).request 1) := rfl
  have hending : Request.ofTerms? .streamingFinish [.detector 1] =
      some ((Question.input .ending).request 1) := rfl
  have hstatus : ∀ index, Request.ofTerms? .streamingStatus [.detector index] =
      some (Question.status.request index) := fun _ => rfl
  have hmade : (Step.poison 0).makes = true → Step.history? 1 early ≠ none := by
    intro hmakes
    cases hmakes
  have hclosed : ((alone [.chunk opening]).feed closing).1.decision = some .dtd := by
    decide +kernel
  have hopen : ((alone [.chunk opening]).feed opening).1.decision = none := by
    decide +kernel
  have hended : some (alone [.chunk opening]).finish.1.answer = some .xsd := by
    decide +kernel
  have hstands : Question.status.answer (alone [.chunk opening]) =
      .tuple [.atom "false", .int 0, .int 7] := by
    have hundecided : (alone [.chunk opening]).decision = none := by decide +kernel
    have hbuffer : (alone [.chunk opening]).buffer = [] := by decide +kernel
    have hseen : (alone [.chunk opening]).bytesSeen = 7 := by decide +kernel
    rw [Question.answer, hundecided, hbuffer, hseen]
    rfl
  let steps := early ++ .poison 0 :: late
  obtain ⟨hreply, hsame, -⟩ := reply_as_if_alone steps noFiles hasked
  have hdtd : session.reply noFiles .streamingFeed arguments = .ok (.atom "dtd") :=
    hreply.trans (congrArg (Except.ok ∘ decisionAtom) hclosed)
  refine ⟨hdtd, ?_, ?_, ?_, ?_, ?_⟩
  · exact (hsame early (.poison 0) late rfl rfl rfl hmade).symm.trans hdtd
  · exact (reply_as_if_alone steps noFiles hopening).1.trans
      (congrArg (Except.ok ∘ decisionAtom) hopen)
  · exact (reply_as_if_alone steps noFiles hending).1.trans
      (congrArg (Except.ok ∘ decisionAtom) hended)
  · exact (reply_as_if_alone steps noFiles (hstatus 1)).1.trans (congrArg Except.ok hstands)
  · exact (reply_as_if_alone steps noFiles (hstatus 0)).1

end Replies

end Session

end XmlPreamble.Interface
