import Signpost.Proofs.Middleware.Overrides
import Signpost.Proofs.Response.Guarded
import Signpost.Proofs.Router.Identity
import Signpost.Proofs.Router.MiddlewareOrder
import Signpost.Proofs.Router.OneResponse

/-!
# In which version a request is answered

A route is compiled with its template in the version of the route, and no rule that the
library supplies changes that version (`CompileSettings.version_finish`).  A request gets to
a route of its own version only: by the line that a fixed path is found under, which ends in
the version, or by a comparison (`DynamicRoute.version_of_takes`).  So what a request
resolves to answers in the version of the request (`RouterPlan.answersIn_of_build`).
-/

namespace Signpost

/-! ## Rules and versions -/

/-- The rules that the library supplies. -/
inductive StaticRule.Supplied : StaticRule → Prop
  | override (o : HeadOverride) : Supplied o.rule
  | security (policy : SecurityPolicy) (filter : RouteFilter) : Supplied (policy.rule filter)

theorem ResponseHead.version_setAll (h : ResponseHead) (headers : List (HeaderName × String)) :
    (h.setAll headers).version = h.version := by
  induction headers generalizing h with
  | nil => rfl
  | cons header rest ih => exact ih (h.set header.1 header.2)

theorem HeadOverride.version_edit (o : HeadOverride) (head : ResponseHead) :
    (o.edit head).version = head.version :=
  ResponseHead.version_setAll _ o.headers

namespace StaticRule

theorem Supplied.version_edit {rule : StaticRule} (supplied : rule.Supplied) (t : RouteTemplate) :
    (rule.edit t).head.version = t.head.version := by
  cases supplied with
  | override o => exact o.version_edit t.head
  | security policy filter => exact HeadOverride.version_edit _ t.head

theorem Supplied.version_apply {rule : StaticRule} (supplied : rule.Supplied) (method : Method)
    (t : RouteTemplate) : (rule.apply method t).head.version = t.head.version := by
  unfold apply
  split
  · exact supplied.version_edit t
  · rfl

theorem version_applyAll {rules : List StaticRule} (supplied : ∀ rule ∈ rules, rule.Supplied)
    (method : Method) (t : RouteTemplate) :
    (applyAll rules method t).head.version = t.head.version := by
  induction rules generalizing t with
  | nil => rfl
  | cons rule rest ih =>
    rw [List.forall_mem_cons] at supplied
    rw [applyAll_cons, ih supplied.2, supplied.1.version_apply]

end StaticRule

section Finished

variable {c : CompileSettings} (supplied : ∀ rule ∈ c.rules, rule.Supplied)

include supplied

/-- A finished template has the version of its route, whatever it was declared with. -/
theorem CompileSettings.version_finish (version : Version) (method : Method) (t : RouteTemplate) :
    (c.finish version method t).head.version = version :=
  StaticRule.version_applyAll supplied method _

theorem StaticRoute.version_placed (r : StaticRoute) (base : List String) :
    (r.placed c base).template.head.version = (r.placed c base).version :=
  CompileSettings.version_finish supplied r.version r.method r.template

theorem DynamicResponder.version_start (r : DynamicResponder) (base : List String)
    (chain : MiddlewareChain) (parameters : List String) :
    ((r.placed c base chain).start parameters).head.version =
      (r.placed c base chain).route.version :=
  CompileSettings.version_finish supplied r.route.version r.route.method r.route.template

end Finished

/-! ## Requests and routes -/

section Requests

variable {bytes : Octets} {request : Request}

/-- The line that a request is looked up by ends in its version. -/
theorem Request.version_of_key (read : parse bytes = .ok (some request)) {mode : CaseMode}
    {method : Method} {path : Octets} {version : Version}
    (line : mode.key request.startLine = mode.key (lineOf method path version)) :
    request.version = version := by
  rw [(parse_canonical read).1, key_lineOf_eq_iff] at line
  exact line.2.1

theorem StaticRoute.version_of_key (read : Request.parse bytes = .ok (some request))
    {r : StaticRoute} (line : r.mode.key request.startLine = r.startLine) :
    request.version = r.version := by
  rw [r.startLine_eq] at line
  exact Request.version_of_key read line

/-- A route takes requests of its own version, on each of the three ways to find it. -/
theorem DynamicRoute.version_of_takes (read : Request.parse bytes = .ok (some request))
    {r : DynamicRoute} (taken : r.takes request = true) : request.version = r.version := by
  unfold takes at taken
  split at taken
  · rw [beq_iff_eq, r.lineKey_eq] at taken
    exact Request.version_of_key read taken.symm
  · rw [Bool.and_eq_true, accepts, Bool.and_eq_true, beq_iff_eq, beq_iff_eq] at taken
    exact taken.1.2.symm

end Requests

/-! ## Answers -/

theorem RouteTemplate.exists_statusLine_of_compile {t : RouteTemplate}
    {response : RenderedResponse} (compiled : t.compile = .ok response) (date : Octets) :
    ∃ rest, response.wire date = t.head.status.line t.head.version ++ rest := by
  rcases wire_of_compile compiled date with ⟨body, whole⟩
  rw [whole, Status.line]
  simp only [List.append_assoc _ Octets.crlf]
  exact Octets.exists_joined_headEnd _ _ body

theorem MiddlewareChain.exists_runNoting_cons (m : Middleware) (rest : MiddlewareChain)
    (request : Request) (given : DynamicResponse) :
    ∃ calls, (runNoting (m :: rest) request given).1 = .middleware m given :: calls := by
  rcases first : m request given with ⟨verdict, next⟩
  by_cases halts : verdict = .pass
  · rw [halts] at first
    rw [runNoting_cons_of_pass first]
    exact ⟨_, rfl⟩
  · rw [runNoting_cons_of_halt first halts]
    exact ⟨[], rfl⟩

namespace DynamicResponder

/-- What is called first: the first middleware, or the handler where there is none. -/
def firstCall (r : DynamicResponder) (given : DynamicResponse) : ResponderCall :=
  match r.middleware with
  | [] => .handler r.handler given
  | m :: _ => .middleware m given

theorem exists_calls (r : DynamicResponder) (request : Request) (parameters : List String) :
    ∃ calls, (r.answerNoting request parameters).1 = r.firstCall (r.start parameters) :: calls := by
  unfold answerNoting firstCall
  cases r.middleware with
  | nil => exact ⟨[], rfl⟩
  | cons m rest =>
    rcases MiddlewareChain.exists_runNoting_cons m rest request (r.start parameters) with
      ⟨calls, noted⟩
    rcases ran : MiddlewareChain.runNoting (m :: rest) request (r.start parameters) with
      ⟨called, verdict, response⟩
    rw [ran] at noted
    dsimp only at noted
    rw [noted]
    cases verdict with
    | pass => exact ⟨calls ++ [.handler r.handler response], rfl⟩
    | stop => exact ⟨calls, rfl⟩
    | fail e => exact ⟨calls, rfl⟩

end DynamicResponder

/-- What a request resolves to answers in a version.  A fixed response is written with the version
in its status line; a responder gives the first function that it calls a response of the
version. -/
inductive Router.AnswersIn (r : Router) (request : Request) (version : Version) : Resolved → Prop
  | fixed {response : RenderedResponse} {tier : RouteTier} {status : Status} {rest : Octets} :
    response.wire r.date = status.line version ++ rest →
    (∀ s, Router.Reports (some (response.wire r.date)) s (r.attempt request s)) →
    AnswersIn r request version (.fixed response tier)
  | dynamic {found : DynamicMatch} {tier : RouteTier} {given : DynamicResponse}
    {calls : List ResponderCall} :
    (found.responder.answerNoting request found.parameters).1 =
      found.responder.firstCall given :: calls →
    given.head.version = version →
    AnswersIn r request version (.dynamic found tier)

/-- A fixed response that is found is what an attempt writes. -/
theorem Router.reports_fixed {r : Router} {request : Request} {response : RenderedResponse}
    {tier : RouteTier} (resolved : r.table.resolve? request = some (.fixed response tier))
    (s : Socket) : Router.Reports (some (response.wire r.date)) s (r.attempt request s) := by
  have own : r.ownWire? request = some (response.wire r.date) := by
    rw [ownWire?, resolved]
  rcases r.attempt_reports request s with reports | ⟨none, _⟩
  · rwa [own] at reports
  · rw [own] at none
    cases none

/-- A route answers the requests that it takes in their version. -/
theorem RouteLevel.AnsweredBy.answersIn {c : CompileSettings} {base : List String}
    {chain : MiddlewareChain} {level : RouteLevel} {r : Router} {bytes : Octets}
    {request : Request} {found : Resolved} (answered : AnsweredBy c base chain level request found)
    (supplied : ∀ rule ∈ c.rules, rule.Supplied)
    (read : Request.parse bytes = .ok (some request))
    (resolved : r.table.resolve? request = some found) :
    r.AnswersIn request request.version found := by
  cases answered with
  | @fixed route response mem checked compiled line =>
    have asked : request.version = (route.placed c base).version :=
      StaticRoute.version_of_key (r := route.placed c base) read line
    rcases RouteTemplate.exists_statusLine_of_compile compiled r.date with ⟨rest, whole⟩
    rw [route.version_placed supplied, ← asked] at whole
    exact .fixed whole (Router.reports_fixed resolved)
  | @dynamic responder mem taken =>
    have asked : request.version = (responder.placed c base chain).route.version :=
      DynamicRoute.version_of_takes read taken
    rcases DynamicResponder.exists_calls (responder.placed c base chain) request
      (DynamicStore.matchOf (responder.placed c base chain) request.segments).parameters
      with ⟨calls, called⟩
    refine .dynamic called ?_
    rw [asked]
    exact responder.version_start supplied base chain _

namespace RouterPlan

variable {p : RouterPlan} {r : Router} {bytes : Octets} {request : Request}

/-- Whatever version a template was declared with, a request that finds a route is answered in its
own version. -/
theorem answersIn_of_build (built : p.build = .ok r) (supplied : ∀ rule ∈ p.rules, rule.Supplied)
    (read : Request.parse bytes = .ok (some request)) :
    ∀ found, r.table.resolve? request = some found →
      r.AnswersIn request request.version found := by
  intro found resolved
  rcases RouteTable.exists_table_of_resolve? resolved with ⟨t, inside, own⟩
  rcases exists_nested_of_build built inside with ⟨path, level, nested, fills⟩
  exact (fills.answeredBy own).answersIn supplied read resolved

/-- A plan with routes of the older version in a group.  Their templates are declared with the
other version, and rules are applied to them. -/
def olderPlan : RouterPlan where
  routes :=
    RouteLevel.root.addGroup
      (((RouteLevel.group "/api").addStatic {
        version := .http10
        path := "/old"
        mode := .insensitive
        template := .text "old" }).addDynamic {
          route := { version := .http10, path := [.literal "users", .parameter "id"] }
          handler := fun _ response => .ok response })
  rules :=
    [SecurityPolicy.rule {} {},
      HeadOverride.rule { filter := { versions := [.http10] }, status := some ⟨203⟩ }]
  date := []

def olderFixedRead : Request := .bare .get (Octets.ofText "/API/OLD") .http10

def olderMemberRead : Request := .bare .get (Octets.ofText "/api/users/7") .http10

/-- Whether one request finds a fixed response and another one a responder. -/
def findsBoth (r : Router) (fixed member : Request) : Bool :=
  match r.table.resolve? fixed, r.table.resolve? member with
  | some (.fixed _ _), some (.dynamic _ _) => true
  | _, _ => false

theorem answersIn_of_build_olderPlan :
    ∃ r response tier found tier', olderPlan.build = .ok r ∧
      r.table.resolve? olderFixedRead = some (.fixed response tier) ∧
      r.AnswersIn olderFixedRead .http10 (.fixed response tier) ∧
      r.table.resolve? olderMemberRead = some (.dynamic found tier') ∧
      r.AnswersIn olderMemberRead .http10 (.dynamic found tier') := by
  have supplied : ∀ rule ∈ olderPlan.rules, rule.Supplied := by
    rw [olderPlan, List.forall_mem_cons, List.forall_mem_singleton]
    exact ⟨.security {} {}, .override _⟩
  have fixed : Request.parse
      (Request.lineOf .get (Octets.ofText "/API/OLD") .http10 ++ Octets.headEnd) =
        .ok (some olderFixedRead) := Request.parse_bare rfl (by decide) (by decide) .get .http10
  have member : Request.parse
      (Request.lineOf .get (Octets.ofText "/api/users/7") .http10 ++ Octets.headEnd) =
        .ok (some olderMemberRead) := Request.parse_bare rfl (by decide) (by decide) .get .http10
  have succeeds : olderPlan.builds (findsBoth · olderFixedRead olderMemberRead) = true := by
    decide +kernel
  obtain ⟨r, built, finds⟩ := exists_of_builds succeeds
  rw [findsBoth] at finds
  split at finds
  · next response tier found tier' first second =>
    exact ⟨r, response, tier, found, tier', built, first,
      answersIn_of_build built supplied fixed _ first, second,
      answersIn_of_build built supplied member _ second⟩
  · cases finds

end RouterPlan

end Signpost
