import MemShell.Event

/-!
# Runs

A component is a step function: from a state and an input it gives an answer and the next state.
A run feeds it a list of inputs, one after the other, each to the state that those before it led to
(`steps`). What one step preserves a whole run preserves (`invariant`, `invariant_of_allowed` where
only some inputs are considered and `invariant_of_met` where that depends on the state that an input
meets) and with it every state on the way (`forall_mem_steps`), a
summary of the state that is kept up to date by the events of each step is kept up to date by the
events of a run (`foldl_events`), and two components that agree step by step along a relation give
the same answers along every run (`simulation`).
-/

namespace MemShell.Run

variable {σ τ ι α : Type}

/-- The state after all inputs. -/
def state (step : σ → ι → Outcome σ α) (s : σ) : List ι → σ
  | [] => s
  | input :: inputs => state step (step s input).state inputs

/-- The answers to the inputs, in order. -/
def answers (step : σ → ι → Outcome σ α) (s : σ) : List ι → List α
  | [] => []
  | input :: inputs => (step s input).value :: answers step (step s input).state inputs

/-- The inputs, each with the state that it met. -/
def steps (step : σ → ι → Outcome σ α) (s : σ) : List ι → List (σ × ι)
  | [] => []
  | input :: inputs => (s, input) :: steps step (step s input).state inputs

/-- The events of all inputs, oldest first. -/
def events (step : σ → ι → Outcome σ α) (s : σ) : List ι → List Event
  | [] => []
  | input :: inputs => (step s input).events ++ events step (step s input).state inputs

variable {step : σ → ι → Outcome σ α}

@[simp] theorem state_nil (s : σ) : state step s [] = s := rfl

@[simp] theorem state_cons (s : σ) (input : ι) (inputs : List ι) :
    state step s (input :: inputs) = state step (step s input).state inputs := rfl

theorem state_append (s : σ) (inputs others : List ι) :
    state step s (inputs ++ others) = state step (state step s inputs) others := by
  induction inputs generalizing s with
  | nil => rfl
  | cons input inputs ih => exact ih (step s input).state

theorem answers_append (s : σ) (inputs others : List ι) :
    answers step s (inputs ++ others) =
      answers step s inputs ++ answers step (state step s inputs) others := by
  induction inputs generalizing s with
  | nil => rfl
  | cons input inputs ih => exact congrArg ((step s input).value :: ·) (ih (step s input).state)

theorem steps_append (s : σ) (inputs others : List ι) :
    steps step s (inputs ++ others) =
      steps step s inputs ++ steps step (state step s inputs) others := by
  induction inputs generalizing s with
  | nil => rfl
  | cons input inputs ih => exact congrArg ((s, input) :: ·) (ih (step s input).state)

/-- The steps of a run have its inputs. -/
theorem mem_of_mem_steps {s : σ} {inputs : List ι} {met : σ × ι} (h : met ∈ steps step s inputs) :
    met.2 ∈ inputs := by
  induction inputs generalizing s with
  | nil => cases h
  | cons input inputs ih =>
    rcases List.mem_cons.1 h with rfl | h
    · exact List.mem_cons_self
    · exact List.mem_cons_of_mem input (ih h)

/-- What every step preserves whose input is allowed in the state that it meets holds after every
run of such steps. -/
theorem invariant_of_met {P : σ → Prop} {Allowed : σ → ι → Prop}
    (hstep : ∀ s input, Allowed s input → P s → P (step s input).state) {s : σ} (h : P s)
    {inputs : List ι} (hmet : ∀ met ∈ steps step s inputs, Allowed met.1 met.2) :
    P (state step s inputs) := by
  induction inputs generalizing s with
  | nil => exact h
  | cons input inputs ih =>
    obtain ⟨hinput, hrest⟩ := List.forall_mem_cons.1 hmet
    exact ih (hstep s input hinput h) hrest

/-- What every allowed step preserves holds after every run of allowed steps. -/
theorem invariant_of_allowed {P : σ → Prop} {Allowed : ι → Prop}
    (hstep : ∀ s input, Allowed input → P s → P (step s input).state) {s : σ} (h : P s)
    {inputs : List ι} (hinputs : ∀ input ∈ inputs, Allowed input) : P (state step s inputs) :=
  invariant_of_met hstep h fun met hmem => hinputs met.2 (mem_of_mem_steps hmem)

/-- What every step preserves holds after every run. -/
theorem invariant {P : σ → Prop} (hstep : ∀ s input, P s → P (step s input).state) {s : σ}
    (h : P s) (inputs : List ι) : P (state step s inputs) :=
  invariant_of_allowed (fun s input (_ : True) => hstep s input) h fun _ _ => trivial

/-- What every allowed step preserves holds of every state on the way. -/
theorem forall_mem_steps {P : σ → Prop} {Allowed : ι → Prop}
    (hstep : ∀ s input, Allowed input → P s → P (step s input).state) {s : σ} (h : P s)
    {inputs : List ι} (hinputs : ∀ input ∈ inputs, Allowed input) :
    ∀ met ∈ steps step s inputs, P met.1 := by
  induction inputs generalizing s with
  | nil => exact List.forall_mem_nil _
  | cons input inputs ih =>
    obtain ⟨hinput, hrest⟩ := List.forall_mem_cons.1 hinputs
    exact List.forall_mem_cons.2 ⟨h, ih (hstep s input hinput h) hrest⟩

/-- What is true of the answer of every step where `P` holds is true of all answers of a run. -/
theorem forall_mem_answers {P : σ → Prop} {Q : α → Prop}
    (hstep : ∀ s input, P s → P (step s input).state ∧ Q (step s input).value) {s : σ} (h : P s)
    (inputs : List ι) : ∀ answer ∈ answers step s inputs, Q answer := by
  induction inputs generalizing s with
  | nil => exact List.forall_mem_nil Q
  | cons input inputs ih =>
    obtain ⟨hnext, hanswer⟩ := hstep s input h
    exact List.forall_mem_cons.2 ⟨hanswer, ih hnext⟩

/-- If, where `P` holds, the events of a step tell how a summary of the state changes, then the
events of a run do. -/
theorem foldl_events {P : σ → Prop} {summary : σ → τ} {note : τ → Event → τ}
    (hP : ∀ s input, P s → P (step s input).state)
    (hstep : ∀ s input, P s →
      (step s input).events.foldl note (summary s) = summary (step s input).state)
    {s : σ} (h : P s) (inputs : List ι) :
    (events step s inputs).foldl note (summary s) = summary (state step s inputs) := by
  induction inputs generalizing s with
  | nil => rfl
  | cons input inputs ih =>
    rw [events, List.foldl_append, hstep s input h]
    exact ih (hP s input h)

/-- Two components whose related states give equal answers and stay related give equal answers
along every run. -/
theorem simulation {other : τ → ι → Outcome τ α} {R : σ → τ → Prop}
    (hstep : ∀ s t input, R s t → (step s input).value = (other t input).value ∧
      R (step s input).state (other t input).state)
    {s : σ} {t : τ} (h : R s t) (inputs : List ι) :
    answers step s inputs = answers other t inputs ∧
      R (state step s inputs) (state other t inputs) := by
  induction inputs generalizing s t with
  | nil => exact ⟨rfl, h⟩
  | cons input inputs ih =>
    obtain ⟨hvalue, hnext⟩ := hstep s t input h
    obtain ⟨hanswers, hend⟩ := ih hnext
    refine ⟨?_, hend⟩
    rw [answers, answers, hvalue, hanswers]

end MemShell.Run
