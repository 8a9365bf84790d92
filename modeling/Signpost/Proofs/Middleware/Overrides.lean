import Signpost.Middleware.Security

/-!
# What overrides leave in a head

A head may have several values under one name (`ResponseHead.values`).  An
override leaves one under each name that it sets, and all values under every
other name.  A security policy sets no name twice, so its rule puts each of its
headers on a head exactly once; later overrides may change the values, but not
how many there are (`SecurityPolicy.secured_applyAll`).
-/

namespace Signpost

namespace ResponseHead

/-- All values under a name, in order. -/
def values (h : ResponseHead) (name : HeaderName) : List String :=
  (h.headers.filter fun header => header.1 == name).map Prod.snd

/-- Make each of some values the only one under its name. -/
def setAll (h : ResponseHead) (headers : List (HeaderName × String)) : ResponseHead :=
  headers.foldl (fun h header => h.set header.1 header.2) h

variable {h : ResponseHead} {name other : HeaderName} {value : String}
  {headers : List (HeaderName × String)}

theorem values_set : (h.set name value).values other =
    if other = name then [value] else h.values other := by
  rw [values, set, append, remove, List.filter_append, List.map_append, List.filter_filter]
  by_cases same : other = name
  · have none : ∀ header ∈ h.headers, ¬(header.1 == other && header.1 != name) = true := by
      simp [same]
    rw [if_pos same, List.filter_eq_nil_iff.mpr none]
    simp [same]
  · have kept : ∀ header ∈ h.headers,
        (header.1 == other && header.1 != name) = (header.1 == other) := by
      intro header _
      by_cases own : header.1 = other
      · simp [own, same]
      · simp [own]
    rw [if_neg same, List.filter_congr kept]
    simp [values, Ne.symm same]

theorem values_setAll_of_not_mem (absent : name ∉ headers.map Prod.fst) :
    (h.setAll headers).values name = h.values name := by
  induction headers generalizing h with
  | nil => rfl
  | cons header rest ih =>
    rw [List.map_cons, List.mem_cons, not_or] at absent
    have below := ih (h := h.set header.1 header.2) absent.2
    rw [values_set, if_neg absent.1] at below
    exact below

/-- A header whose name no other one has is the only one under it. -/
theorem values_setAll_of_mem (distinct : (headers.map Prod.fst).Nodup)
    (mem : (name, value) ∈ headers) : (h.setAll headers).values name = [value] := by
  induction headers generalizing h with
  | nil => cases mem
  | cons header rest ih =>
    rw [List.map_cons, List.nodup_cons] at distinct
    rcases List.mem_cons.mp mem with rfl | later
    · have below := values_setAll_of_not_mem (h := h.set name value) distinct.1
      rw [values_set, if_pos rfl] at below
      exact below
    · exact ih distinct.2 later

/-- Where there is one value there stays one. -/
theorem exists_value_setAll (headers : List (HeaderName × String))
    (one : ∃ value, h.values name = [value]) :
    ∃ value, (h.setAll headers).values name = [value] := by
  induction headers generalizing h with
  | nil => exact one
  | cons header rest ih =>
    apply ih
    rw [values_set]
    split
    · exact ⟨_, rfl⟩
    · exact one

end ResponseHead

namespace StaticRule

theorem applyAll_append (before after : List StaticRule) (method : Method) (t : RouteTemplate) :
    applyAll (before ++ after) method t = applyAll after method (applyAll before method t) :=
  List.foldl_append

theorem applyAll_cons (rule : StaticRule) (rules : List StaticRule) (method : Method)
    (t : RouteTemplate) : applyAll (rule :: rules) method t =
      applyAll rules method (rule.apply method t) := rfl

end StaticRule

namespace HeadOverride

variable {o : HeadOverride} {method : Method} {t : RouteTemplate} {name : HeaderName}

/-- An override leaves the headers of other names as they are. -/
theorem values_apply_of_not_mem (absent : name ∉ o.headers.map Prod.fst) :
    (o.rule.apply method t).head.values name = t.head.values name := by
  unfold StaticRule.apply
  split
  · exact ResponseHead.values_setAll_of_not_mem absent
  · rfl

theorem exists_value_apply (o : HeadOverride) (method : Method)
    (one : ∃ value, t.head.values name = [value]) :
    ∃ value, (o.rule.apply method t).head.values name = [value] := by
  unfold StaticRule.apply
  split
  · exact ResponseHead.exists_value_setAll o.headers one
  · exact one

/-- Overrides in a row leave one value where there is one, and that value where none of them sets
the name. -/
theorem exists_value_applyAll (overrides : List HeadOverride) {value : String}
    (one : t.head.values name = [value]) :
    ∃ last, (StaticRule.applyAll (overrides.map rule) method t).head.values name = [last] ∧
      ((∀ o ∈ overrides, name ∉ o.headers.map Prod.fst) → last = value) := by
  induction overrides generalizing t value with
  | nil => exact ⟨value, one, fun _ => rfl⟩
  | cons o rest ih =>
    rw [List.map_cons, StaticRule.applyAll_cons]
    obtain ⟨next, there⟩ := exists_value_apply o method ⟨value, one⟩
    obtain ⟨last, final, kept⟩ := ih there
    refine ⟨last, final, ?_⟩
    intro absent
    rw [List.forall_mem_cons] at absent
    rw [values_apply_of_not_mem absent.1, one] at there
    rw [kept absent.2, List.singleton_inj.mp there]

end HeadOverride

namespace SecurityPolicy

variable {policy : SecurityPolicy} {method : Method} {t : RouteTemplate}

/-- What a policy says under each name, in the order the headers are set. -/
def entries (policy : SecurityPolicy) : List (StandardHeader × Option String) :=
  [(.contentSecurityPolicy, policy.contentSecurity), (.xFrameOptions, policy.frameOptions.value?),
    (.xContentTypeOptions, if policy.noSniff then some "nosniff" else none),
    (.xXssProtection, if policy.xssProtection then some "1; mode=block" else none),
    (.strictTransportSecurity, policy.transport.map TransportSecurity.value),
    (.referrerPolicy, policy.referrer), (.permissionsPolicy, policy.permissions),
    (.crossOriginOpenerPolicy, policy.crossOriginOpener),
    (.crossOriginEmbedderPolicy, policy.crossOriginEmbedder),
    (.crossOriginResourcePolicy, policy.crossOriginResource)]

/-- The headers of entries, where they have a value. -/
def headersOf (entries : List (StandardHeader × Option String)) : List (HeaderName × String) :=
  entries.flatMap fun entry => entry.2.toList.map fun value => (.standard entry.1, value)

theorem headers_eq (policy : SecurityPolicy) : policy.headers = headersOf policy.entries := by
  simp [headers, headersOf, entries]

theorem names_sublist (entries : List (StandardHeader × Option String)) :
    ((headersOf entries).map Prod.fst).Sublist (entries.map (.standard ·.1)) := by
  induction entries with
  | nil => exact List.Sublist.slnil
  | cons entry rest ih =>
    obtain ⟨name, value?⟩ := entry
    cases value? with
    | none => exact ih.cons _
    | some value => exact ih.cons_cons _

theorem names_nodup (policy : SecurityPolicy) : (policy.headers.map Prod.fst).Nodup := by
  rw [headers_eq]
  apply (names_sublist policy.entries).nodup
  simp [entries]

/-- A head has each header of a policy exactly once, and with the value of the policy. -/
def Secures (policy : SecurityPolicy) (head : ResponseHead) : Prop :=
  ∀ header ∈ policy.headers, head.values header.1 = [header.2]

/-- Without a filter, the rule of a policy secures every head. -/
theorem secures_apply : policy.Secures ((policy.rule {}).apply method t).head := by
  intro header mem
  exact ResponseHead.values_setAll_of_mem policy.names_nodup mem

/-- Where the rule of a policy stands among other rules, it secures what they have left of a
template.  If only overrides come after it, its headers stay the only ones of their names, and they
keep the values that none of these sets. -/
theorem secured_applyAll (before after : List StaticRule) (policy : SecurityPolicy)
    (method : Method) (t : RouteTemplate) :
    (∃ secured, policy.Secures secured.head ∧
      StaticRule.applyAll (before ++ policy.rule {} :: after) method t =
        StaticRule.applyAll after method secured) ∧
    ∀ overrides : List HeadOverride, after = overrides.map HeadOverride.rule →
      ∀ header ∈ policy.headers, ∃ value,
        (StaticRule.applyAll (before ++ policy.rule {} :: after) method t).head.values header.1 =
          [value] ∧
        ((∀ o ∈ overrides, header.1 ∉ o.headers.map Prod.fst) → value = header.2) := by
  have secured : policy.Secures
      ((policy.rule {}).apply method (StaticRule.applyAll before method t)).head := secures_apply
  rw [StaticRule.applyAll_append, StaticRule.applyAll_cons]
  refine ⟨⟨_, secured, rfl⟩, ?_⟩
  intro overrides last header mem
  rw [last]
  exact HeadOverride.exists_value_applyAll overrides (secured header mem)

end SecurityPolicy

end Signpost
