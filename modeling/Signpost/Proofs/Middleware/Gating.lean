import Signpost.Router.Route

/-!
# Middleware gates a handler

A responder calls the middleware of its chain in order, each with the response as the one before it
left it, up to the first that does not let the request pass; and it calls its handler if there is
no such one (`DynamicResponder.Gated`).  `DynamicResponder.answerNoting` answers like
`DynamicResponder.answer` and notes what is called on the way.
-/

namespace Signpost

/-- A function that a responder calls, with the response that it is given. -/
inductive ResponderCall where
  | middleware (m : Middleware) (given : DynamicResponse)
  | handler (h : Handler) (given : DynamicResponse)

def ResponderCall.middleware? : ResponderCall → Option Middleware
  | middleware m _ => some m
  | handler _ _ => none

/-! ## Chains -/

namespace MiddlewareChain

/-- Run a chain, and note what is called. -/
def runNoting :
    MiddlewareChain → Request → DynamicResponse → List ResponderCall × Verdict × DynamicResponse
  | [], _, response => ([], .pass, response)
  | m :: rest, request, response =>
    match m request response with
    | (.pass, next) =>
      let (calls, result) := runNoting rest request next
      (.middleware m response :: calls, result)
    | halted => ([.middleware m response], halted)

section Cons

variable {m : Middleware} {request : Request} {given next : DynamicResponse} {verdict : Verdict}

theorem run_cons_of_pass (first : m request given = (.pass, next)) (rest : MiddlewareChain) :
    run (m :: rest) request given = run rest request next := by
  rw [run, first]

theorem runNoting_cons_of_pass (first : m request given = (.pass, next)) (rest : MiddlewareChain) :
    runNoting (m :: rest) request given =
      (.middleware m given :: (runNoting rest request next).1,
        (runNoting rest request next).2) := by
  rw [runNoting, first]

theorem run_cons_of_halt (first : m request given = (verdict, next)) (halts : verdict ≠ .pass)
    (rest : MiddlewareChain) : run (m :: rest) request given = (verdict, next) := by
  rw [run, first]
  cases verdict with
  | pass => exact absurd rfl halts
  | stop => rfl
  | fail e => rfl

theorem runNoting_cons_of_halt (first : m request given = (verdict, next))
    (halts : verdict ≠ .pass) (rest : MiddlewareChain) :
    runNoting (m :: rest) request given = ([.middleware m given], verdict, next) := by
  rw [runNoting, first]
  cases verdict with
  | pass => exact absurd rfl halts
  | stop => rfl
  | fail e => rfl

end Cons

theorem runNoting_snd (chain : MiddlewareChain) (request : Request) (given : DynamicResponse) :
    (chain.runNoting request given).2 = chain.run request given := by
  induction chain generalizing given with
  | nil => rfl
  | cons m rest ih =>
    rcases first : m request given with ⟨verdict, next⟩
    by_cases halts : verdict = .pass
    · rw [halts] at first
      rw [runNoting_cons_of_pass first, run_cons_of_pass first, ih]
    · rw [runNoting_cons_of_halt first halts, run_cons_of_halt first halts]

/-- A chain lets a request pass, from one response to another: each middleware is called once, with
the response as the one before it left it. -/
inductive Passes (request : Request) :
    DynamicResponse → MiddlewareChain → List ResponderCall → DynamicResponse → Prop
  | nil (response : DynamicResponse) : Passes request response [] [] response
  | cons {m : Middleware} {rest : MiddlewareChain} {given next last : DynamicResponse}
    {calls : List ResponderCall} :
    m request given = (.pass, next) → Passes request next rest calls last →
    Passes request given (m :: rest) (.middleware m given :: calls) last

/-- A chain is run: all of it, or up to the first middleware that does not let the request pass. -/
inductive Ran (request : Request) (given : DynamicResponse) (chain : MiddlewareChain) :
    List ResponderCall → Verdict × DynamicResponse → Prop
  | passed {calls : List ResponderCall} {last : DynamicResponse} :
    Passes request given chain calls last → Ran request given chain calls (.pass, last)
  | halted {before : MiddlewareChain} {m : Middleware} {rest : MiddlewareChain}
    {calls : List ResponderCall} {response left : DynamicResponse} {verdict : Verdict} :
    chain = before ++ m :: rest → Passes request given before calls response →
    m request response = (verdict, left) → verdict ≠ .pass →
    Ran request given chain (calls ++ [.middleware m response]) (verdict, left)

variable {request : Request} {given next last : DynamicResponse} {chain rest : MiddlewareChain}
  {calls : List ResponderCall} {m : Middleware}

theorem Passes.filterMap_calls (passes : Passes request given chain calls last) :
    calls.filterMap ResponderCall.middleware? = chain := by
  induction passes with
  | nil => rfl
  | cons _ _ ih => rw [List.filterMap_cons, ResponderCall.middleware?, ih]

/-- One more middleware in front lets the request pass. -/
theorem Ran.cons {result : Verdict × DynamicResponse} (first : m request given = (.pass, next))
    (ran : Ran request next rest calls result) :
    Ran request given (m :: rest) (.middleware m given :: calls) result := by
  cases ran with
  | passed passes => exact .passed (.cons first passes)
  | halted split passes last halts =>
    rw [split]
    exact .halted (List.cons_append ..).symm (.cons first passes) last halts

/-- What is noted of a run is how the chain is run. -/
theorem ran_runNoting (chain : MiddlewareChain) (request : Request) (given : DynamicResponse) :
    Ran request given chain (chain.runNoting request given).1
      (chain.runNoting request given).2 := by
  -- On the chain, from whatever response the middleware before has left.
  induction chain generalizing given with
  | nil => exact .passed (.nil given)
  | cons m rest ih =>
    rcases first : m request given with ⟨verdict, next⟩
    by_cases halts : verdict = .pass
    · rw [halts] at first
      rw [runNoting_cons_of_pass first]
      exact (ih next).cons first
    · rw [runNoting_cons_of_halt first halts]
      exact .halted (List.nil_append _).symm (.nil given) first halts

end MiddlewareChain

/-! ## Responders -/

namespace DynamicResponder

/-- What the response to a request starts out as. -/
def start (r : DynamicResponder) (parameters : List String) : DynamicResponse :=
  { DynamicResponse.ofTemplate r.route.template with parameters }

/-- Answer a request, and note what is called. -/
def answerNoting (r : DynamicResponder) (request : Request) (parameters : List String) :
    List ResponderCall × Except ResponseError DynamicResponse :=
  match r.middleware.runNoting request (r.start parameters) with
  | (calls, .pass, response) =>
    (calls ++ [.handler r.handler response], r.handler request response)
  | (calls, .stop, response) => (calls, .ok response)
  | (calls, .fail e, _) => (calls, .error e.toResponseError)

/-- What a responder calls from a response on, and what it answers: its handler after all of its
middleware, or what the first middleware says that does not let the request pass. -/
inductive Gated (r : DynamicResponder) (request : Request) (given : DynamicResponse) :
    List ResponderCall → Except ResponseError DynamicResponse → Prop
  | handled {calls : List ResponderCall} {response : DynamicResponse} :
    MiddlewareChain.Passes request given r.middleware calls response →
    Gated r request given (calls ++ [.handler r.handler response]) (r.handler request response)
  | stopped {before : MiddlewareChain} {m : Middleware} {rest : MiddlewareChain}
    {calls : List ResponderCall} {response left : DynamicResponse} :
    r.middleware = before ++ m :: rest →
    MiddlewareChain.Passes request given before calls response →
    m request response = (.stop, left) →
    Gated r request given (calls ++ [.middleware m response]) (.ok left)
  | failed {before : MiddlewareChain} {m : Middleware} {rest : MiddlewareChain}
    {calls : List ResponderCall} {response left : DynamicResponse} {e : MiddlewareError} :
    r.middleware = before ++ m :: rest →
    MiddlewareChain.Passes request given before calls response →
    m request response = (.fail e, left) →
    Gated r request given (calls ++ [.middleware m response]) (.error e.toResponseError)

variable {r : DynamicResponder} {request : Request} {parameters : List String}

theorem answerNoting_snd (r : DynamicResponder) (request : Request) (parameters : List String) :
    (r.answerNoting request parameters).2 = r.answer request parameters := by
  have ran := MiddlewareChain.runNoting_snd r.middleware request (r.start parameters)
  rcases noted : r.middleware.runNoting request (r.start parameters) with ⟨calls, verdict, response⟩
  rw [noted] at ran
  rw [answerNoting, noted]
  dsimp only [answer, start] at ran ⊢
  rw [← ran]
  cases verdict with
  | pass => rfl
  | stop => rfl
  | fail e => rfl

/-- The middleware that is called stands at the front of the chain, in the same order. -/
theorem Gated.called_isPrefix {given : DynamicResponse} {calls : List ResponderCall}
    {result : Except ResponseError DynamicResponse} (gated : r.Gated request given calls result) :
    calls.filterMap ResponderCall.middleware? <+: r.middleware := by
  cases gated with
  | handled passes =>
    rw [List.filterMap_append, passes.filterMap_calls]
    exact ⟨[], by simp [ResponderCall.middleware?]⟩
  | stopped split passes _ | failed split passes _ =>
    rw [List.filterMap_append, passes.filterMap_calls, split]
    exact ⟨_, by simp [ResponderCall.middleware?]; rfl⟩

/-- What is noted of an answer is how it comes about. -/
theorem gated_answerNoting (r : DynamicResponder) (request : Request) (parameters : List String) :
    r.Gated request (r.start parameters) (r.answerNoting request parameters).1
      (r.answer request parameters) := by
  have ran := MiddlewareChain.ran_runNoting r.middleware request (r.start parameters)
  rw [← answerNoting_snd, answerNoting]
  generalize r.middleware.runNoting request (r.start parameters) = noted at ran ⊢
  obtain ⟨calls, verdict, response⟩ := noted
  cases ran with
  | passed passes => exact .handled passes
  | halted split passes last halts =>
    cases verdict with
    | pass => exact absurd rfl halts
    | stop => exact .stopped split passes last
    | fail e => exact .failed split passes last

end DynamicResponder

end Signpost
