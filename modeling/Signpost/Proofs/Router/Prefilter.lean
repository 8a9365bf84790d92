import Signpost.Proofs.Router.Origin

/-!
# Groups that are passed over would have had no answer

A group is asked only if a request has its base.  `RouteTable.resolveAnywhere?` asks every group.
Both find the same in a router that was built (`RouterPlan.resolve?_eq_resolveAnywhere?`): what is
found in any table comes from a route behind the bases of all tables around it, and such a route
takes only requests that have these bases.
-/

namespace Signpost

open RouteTable (coversSegments_of_append)

theorem RouteTable.HasTable.trans {t u v : RouteTable} (outer : t.HasTable u)
    (inner : u.HasTable v) : t.HasTable v := by
  induction outer with
  | self => exact inner
  | group mem _ ih => exact .group mem (ih inner)

/-- What a route of a level answers has the base of the level. -/
theorem RouteLevel.AnsweredBy.covered {c : CompileSettings} {base : List String}
    {chain : MiddlewareChain} {level : RouteLevel} {request : Request} {found : Resolved}
    (answered : AnsweredBy c base chain level request found) {bytes : Octets}
    (parsed : Request.parse bytes = .ok (some request))
    (segment : ∀ s ∈ base, RoutePath.IsSegment s) :
    RouteTable.coversSegments base request.segments = true := by
  cases answered with
  | fixed _ checked _ line => exact coversSegments_of_startLine parsed segment checked line
  | dynamic _ taken => exact coversSegments_of_takes parsed segment taken

/-! ## A lookup that asks every group -/

namespace RouteTable

/-- What answers a request on a level or in its groups, whatever their bases. -/
def resolveAnywhere? (t : RouteTable) (request : Request) : Option Resolved :=
  t.resolveThrough? (fun _ _ => true) request

variable {request : Request}

/-- Every table in a table that has an answer has its base in the request. -/
def Covered (request : Request) (t : RouteTable) : Prop :=
  ∀ g, t.HasTable g → (g.resolveAnywhere? request).isSome → g.covers request = true

mutual

/-- Where all answers are covered, passing over the groups that are not changes nothing. -/
theorem resolve?_eq_of_covered :
    ∀ (t : RouteTable), t.Covered request → t.resolve? request = t.resolveAnywhere? request
  | ⟨base, statics, sensitive, insensitive, groups⟩, covered => by
    have below := resolveIn?_eq_of_covered groups fun g mem u there => covered u (.group mem there)
    rw [resolve?_eq, resolveAnywhere?, resolveThrough?, below]

theorem resolveIn?_eq_of_covered :
    ∀ (tables : List RouteTable), (∀ t ∈ tables, t.Covered request) →
      resolveIn? tables request = resolveThroughIn? (fun _ _ => true) tables request
  | [], _ => rfl
  | t :: rest, covered => by
    have own := covered t List.mem_cons_self
    have first := resolve?_eq_of_covered t own
    have later := resolveIn?_eq_of_covered rest fun g mem => covered g (List.mem_cons_of_mem t mem)
    rw [resolveIn?_cons, resolveThroughIn?, if_pos rfl, ← resolveAnywhere?, first, later]
    split
    · rfl
    · next uncovered =>
      -- A group that is passed over has no answer.
      cases found : t.resolveAnywhere? request with
      | none => rfl
      | some resolved => exact absurd (own t (.self t) (by rw [found]; rfl)) uncovered

end

end RouteTable

namespace RouterPlan

variable {p : RouterPlan} {r : Router} {bytes : Octets} {request : Request}

/-- What any table in a table of a router finds has the base of the latter. -/
theorem covers_of_resolveAnywhere? (built : p.build = .ok r)
    (parsed : Request.parse bytes = .ok (some request)) {g u : RouteTable}
    (outer : r.table.HasTable g) (inner : g.HasTable u)
    (found : (u.resolveAnywhere? request).isSome) : g.covers request = true := by
  obtain ⟨resolved, found⟩ := Option.isSome_iff_exists.mp found
  obtain ⟨v, inmost, own⟩ := RouteTable.exists_table_of_resolveThrough? u found
  obtain ⟨path, level, nested, fills⟩ := exists_nested_of_build built outer
  obtain ⟨more, last, below, filled⟩ := fills.exists_nested (inner.trans inmost)
  have segment : ∀ s ∈ (p.routes.base ++ path.flatMap RouteLevel.base) ++
      more.flatMap RouteLevel.base, RoutePath.IsSegment s := by
    intro s mem
    rw [List.mem_append, List.mem_append] at mem
    rcases mem with (root | above) | after
    · exact p.routes.base_segments s root
    · exact RouteLevel.isSegment_of_mem_flatMap above
    · exact RouteLevel.isSegment_of_mem_flatMap after
  have covered := (filled.answeredBy own).covered parsed segment
  rw [RouteTable.covers, fills.base_eq]
  exact coversSegments_of_append covered

/-- In a router that was built, asking only the groups whose base a request has finds what asking
all of them finds, on every level.  Where any table has an answer, all tables around it and the
table itself have their base in the request. -/
theorem resolve?_eq_resolveAnywhere? (built : p.build = .ok r)
    (parsed : Request.parse bytes = .ok (some request)) :
    (∀ t, r.table.HasTable t → t.resolve? request = t.resolveAnywhere? request) ∧
      ∀ g u, r.table.HasTable g → g.HasTable u → (u.resolveAnywhere? request).isSome →
        g.covers request = true := by
  constructor
  · intro t inside
    refine RouteTable.resolve?_eq_of_covered t fun g there found => ?_
    exact covers_of_resolveAnywhere? built parsed (inside.trans there) (.self g) found
  · intro g u outer inner found
    exact covers_of_resolveAnywhere? built parsed outer inner found

/-- The users of the router are found in a group. -/
theorem resolve?_eq_resolveAnywhere?_userPlan :
    Request.parse userRequest = .ok (some userRead) ∧
      ∃ r, userPlan.build = .ok r ∧ (r.table.resolveOwn? userRead).isNone ∧
        (r.table.resolveAnywhere? userRead).isSome ∧
        r.table.resolve? userRead = r.table.resolveAnywhere? userRead := by
  have parsed : Request.parse userRequest = .ok (some userRead) := rfl
  have found : userPlan.builds (fun r => (r.table.resolveOwn? userRead).isNone &&
      (r.table.resolveAnywhere? userRead).isSome) = true := by
    decide +kernel
  obtain ⟨r, built, found⟩ := exists_of_builds found
  rw [Bool.and_eq_true] at found
  refine ⟨parsed, r, built, found.1, found.2, ?_⟩
  exact (resolve?_eq_resolveAnywhere? built parsed).1 r.table (.self r.table)

end RouterPlan

end Signpost
