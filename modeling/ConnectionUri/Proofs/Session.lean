import ConnectionUri.Proofs.Settings.Layers
import ConnectionUri.Session

/-!
# Sharing in a session

Until the settings get a new policy the parser reads theirs, lists that change included; after that it
keeps the policy it had (`Session.shares_until_replaced`). Requests that only ask leave no trace, and
they are answered as a parser answers them that was just made.
-/

set_option autoImplicit false

namespace ConnectionUri.Session

variable {session : Session} {request : Request} {policy : ParameterPolicy}

/-!
## Requests
-/

namespace Request

/-- Whether a request only asks. -/
def asks : Request → Bool
  | .configuration _ | .parse _ | .displayName _ | .permits _ => true
  | .set _ _ | .append _ _ | .replace _ => false

/-- What a parser with a policy answers to a question. -/
inductive Answers : Request → ParameterPolicy → Reply → Prop where
  | configuration (uri : Value) (policy : ParameterPolicy) :
      Answers (.configuration uri) policy (.configuration (Connection.configuration policy uri))
  | parse (uri : Value) (policy : ParameterPolicy) :
      Answers (.parse uri) policy (.outcome (Connection.parse policy uri).result)
  | displayName (uri : Value) (policy : ParameterPolicy) :
      Answers (.displayName uri) policy
        (.displayName ((Connection.configuration policy uri).map Configuration.displayName))
  | permits (name : Text) (policy : ParameterPolicy) :
      Answers (.permits name) policy (.permitted (policy.permits name))

/-- A list of the policy is assigned texts, or anything is added to it. -/
inductive Edits : Request → ParameterPolicy → ParameterPolicy → Prop where
  | set {name : Text} {field : Field} (named : Field.ofName? name = some field) (texts : List Text)
      (policy : ParameterPolicy) :
      Edits (.set name (.list (texts.map .text))) policy
        (field.update (fun _ => texts.map .text) policy)
  | append {name : Text} {field : Field} (named : Field.ofName? name = some field) (value : Value)
      (policy : ParameterPolicy) :
      Edits (.append name value) policy (field.update (· ++ [value]) policy)

/-- The settings get a policy whose fields pass their checks. -/
inductive Replaces : Request → ParameterPolicy → Prop where
  | replace {fields : Mapping} {policy : ParameterPolicy}
      (checked : Settings.checkPolicyFields [] fields = .ok policy) :
      Replaces (.replace (.mapping fields)) policy

/-- A change names no list, or its value does not pass the checks. -/
inductive Fails : Request → Prop where
  | set {name : Text} {field : Field} {value : Value} (named : Field.ofName? name = some field)
      (mixed : ∀ texts : List Text, value ≠ .list (texts.map .text)) : Fails (.set name value)
  | unknown {name : Text} (value : Value) (unnamed : Field.ofName? name = none)
      (isPublic : isPrivate name = false) : Fails (.set name value)
  | append {name : Text} (value : Value) (unnamed : Field.ofName? name = none) :
      Fails (.append name value)
  | replace {value : Value} (invalid : ∀ policy, ¬ (Request.replace value).Replaces policy) :
      Fails (.replace value)

end Request

/-!
## Single steps
-/

/-- What a request can do to a session, and how it is answered. -/
inductive Step (session : Session) : Request → Session → Reply → Prop where
  | asked {request : Request} (asks : request.asks = true) :
      Step session request session ((start session.parserPolicy).serve request).2
  | edited {request : Request} {policy : ParameterPolicy}
      (edits : request.Edits session.current policy) :
      Step session request { session with current := policy } .changed
  | ignored {name : Text} (value : Value) (unnamed : Field.ofName? name = none)
      (hidden : isPrivate name = true) : Step session (.set name value) session .changed
  | replaced {request : Request} {policy : ParameterPolicy} (replaces : request.Replaces policy) :
      Step session request ⟨policy, some session.parserPolicy⟩ .changed
  | refused {request : Request} (fails : request.Fails) (problems : List Settings.Problem) :
      Step session request session (.refused problems)
  | failed {request : Request} (fails : request.Fails) (error : ChangeError) :
      Step session request session (.failed error)

theorem serve_asks (asks : request.asks = true) :
    session.serve request = (session, ((start session.parserPolicy).serve request).2) := by
  cases request with
  | configuration | parse | displayName | permits => rfl
  | set | append | replace => cases asks

theorem answers_start (policy : ParameterPolicy) (asks : request.asks = true) :
    request.Answers policy ((start policy).serve request).2 := by
  cases request with
  | configuration uri => exact .configuration uri policy
  | parse uri => exact .parse uri policy
  | displayName uri => exact .displayName uri policy
  | permits name => exact .permits name policy
  | set | append | replace => cases asks

theorem serve_edits (edits : request.Edits session.current policy) :
    session.serve request = ({ session with current := policy }, .changed) := by
  cases edits with
  | @set name field named texts =>
      have checked : Settings.checkTexts [.field name] (.list (texts.map .text)) = .ok texts :=
        Settings.checkTexts_eq_ok_iff.mpr rfl
      simp only [serve, set, named, checked]
      rfl
  | append named => simp only [serve, append, named]

theorem serve_replaces (replaces : request.Replaces policy) :
    session.serve request = (⟨policy, some session.parserPolicy⟩, .changed) := by
  cases replaces with
  | replace checked =>
      simp only [serve, replace, checked]
      rfl

theorem serve_set_step (session : Session) (name : Text) (value : Value) :
    Step session (.set name value) (session.serve (.set name value)).1
      (session.serve (.set name value)).2 := by
  cases named : Field.ofName? name with
  | none =>
      cases hidden : isPrivate name with
      | true =>
          -- A private name is no list, so the assignment succeeds and no list changes.
          simp only [serve, set, named, hidden]
          exact .ignored value named hidden
      | false =>
          simp only [serve, set, named, hidden]
          exact .refused (.unknown value named hidden) _
  | some field =>
      cases checked : Settings.checkTexts [.field name] value with
      | ok texts =>
          cases Settings.checkTexts_eq_ok_iff.mp checked
          have edits : (Request.set name (.list (texts.map .text))).Edits session.current _ :=
            .set named texts session.current
          rw [serve_edits edits]
          exact .edited edits
      | error problems =>
          simp only [serve, set, named, checked]
          refine .refused (.set named fun texts same => ?_) problems
          rw [Settings.checkTexts_eq_ok_iff.mpr same] at checked
          cases checked

theorem serve_append_step (session : Session) (name : Text) (value : Value) :
    Step session (.append name value) (session.serve (.append name value)).1
      (session.serve (.append name value)).2 := by
  cases named : Field.ofName? name with
  | none =>
      simp only [serve, named]
      exact .failed (.append value named) _
  | some field =>
      simp only [serve, named]
      exact .edited (.append named value session.current)

theorem serve_replace_step (session : Session) (value : Value) :
    Step session (.replace value) (session.serve (.replace value)).1
      (session.serve (.replace value)).2 := by
  cases value with
  | mapping fields =>
      cases checked : Settings.checkPolicyFields [] fields with
      | ok policy =>
          rw [serve_replaces (.replace checked)]
          exact .replaced (.replace checked)
      | error problems =>
          simp only [serve, replace, checked]
          refine .refused (.replace ?_) problems
          intro policy replaces
          cases replaces with
          | replace valid =>
              rw [valid] at checked
              cases checked
  | null | boolean | integer | real | text | list =>
      refine .failed (.replace ?_) _
      intro policy replaces
      cases replaces

theorem serve_step (session : Session) (request : Request) :
    Step session request (session.serve request).1 (session.serve request).2 := by
  cases request with
  | configuration | parse | displayName | permits => exact .asked rfl
  | set name value => exact serve_set_step session name value
  | append name value => exact serve_append_step session name value
  | replace value => exact serve_replace_step session value

namespace Request

theorem Fails.not_edits {edited : ParameterPolicy} (fails : request.Fails) :
    ¬ request.Edits policy edited := by
  intro edits
  cases edits with
  | set named texts =>
      cases fails with
      | set _ mixed => exact mixed texts rfl
      | unknown _ unnamed => simp [unnamed] at named
  | append named =>
      cases fails with
      | append _ unnamed => simp [unnamed] at named

theorem Fails.not_replaces (fails : request.Fails) : ¬ request.Replaces policy := by
  intro replaces
  cases fails with
  | replace invalid => exact invalid policy replaces
  | set | unknown | append => cases replaces

end Request

namespace Step

variable {next : Session} {reply : Reply}

theorem kept_of_not_replaces (step : Step session request next reply)
    (stays : ∀ policy, ¬ request.Replaces policy) : next.kept = session.kept := by
  cases step with
  | asked | edited | ignored | refused | failed => rfl
  | replaced replaces => exact absurd replaces (stays _)

theorem kept_of_kept (step : Step session request next reply) (kept : session.kept = some policy) :
    next.kept = some policy := by
  cases step with
  | asked | edited | ignored | refused | failed => exact kept
  | replaced => simp [parserPolicy, kept]

theorem eq_of_not_changed (step : Step session request next reply) (unsuccessful : reply ≠ .changed) :
    next = session := by
  cases step with
  | asked | ignored | refused | failed => rfl
  | edited | replaced => exact absurd rfl unsuccessful

theorem not_changed_of_fails (step : Step session request next reply) (fails : request.Fails) :
    reply ≠ .changed := by
  cases step with
  | refused | failed => nofun
  | asked asks => cases fails <;> cases asks
  | edited edits => exact absurd edits fails.not_edits
  | replaced replaces => exact absurd replaces fails.not_replaces
  | ignored _ unnamed hidden =>
      cases fails with
      | set named => simp [unnamed] at named
      | unknown _ _ isPublic => simp [hidden] at isPublic

end Step

/-!
## Runs
-/

section Runs

variable {requests : List Request}

theorem serveAll_cons (session : Session) (request : Request) (rest : List Request) :
    session.serveAll (request :: rest) =
      (((session.serve request).1.serveAll rest).1,
        (session.serve request).2 :: ((session.serve request).1.serveAll rest).2) := rfl

theorem serveAll_append (session : Session) (first second : List Request) :
    session.serveAll (first ++ second) =
      (((session.serveAll first).1.serveAll second).1,
        (session.serveAll first).2 ++ ((session.serveAll first).1.serveAll second).2) := by
  induction first generalizing session with
  | nil => rfl
  | cons request rest ih => simp [serveAll_cons, ih]

theorem length_serveAll (session : Session) (requests : List Request) :
    (session.serveAll requests).2.length = requests.length := by
  induction requests generalizing session with
  | nil => rfl
  | cons request rest ih => simp [serveAll_cons, ih]

/-- The answer that a request gets within a run. -/
theorem getElem?_serveAll (session : Session) (before : List Request) (request : Request)
    (later : List Request) :
    (session.serveAll (before ++ request :: later)).2[before.length]? =
      some ((session.serveAll before).1.serve request).2 := by
  have served := length_serveAll session before
  simp [serveAll_append, serveAll_cons, served]

theorem kept_serveAll_of_not_replaces
    (stays : ∀ request ∈ requests, ∀ policy, ¬ request.Replaces policy) :
    (session.serveAll requests).1.kept = session.kept := by
  induction requests generalizing session with
  | nil => rfl
  | cons request rest ih =>
      obtain ⟨first, others⟩ := List.forall_mem_cons.mp stays
      rw [serveAll_cons, ih others]
      exact (session.serve_step request).kept_of_not_replaces first

theorem kept_serveAll_of_kept (kept : session.kept = some policy) (requests : List Request) :
    (session.serveAll requests).1.kept = some policy := by
  induction requests generalizing session with
  | nil => exact kept
  | cons request rest ih => exact ih ((session.serve_step request).kept_of_kept kept)

/-- Questions leave no trace in a run. -/
theorem serveAll_filter_asks (session : Session) (requests : List Request) :
    (session.serveAll requests).1 = (session.serveAll (requests.filter (!·.asks))).1 := by
  induction requests generalizing session with
  | nil => rfl
  | cons request rest ih =>
      cases asks : request.asks with
      | true =>
          have unchanged : (session.serve request).1 = session :=
            congrArg Prod.fst (serve_asks asks)
          simp [serveAll_cons, asks, unchanged, ih]
      | false => simp [serveAll_cons, asks, ih]

end Runs

/-- The session that was started with a policy, after some requests. -/
def after (policy : ParameterPolicy) (requests : List Request) : Session :=
  ((start policy).serveAll requests).1

section After

variable {requests : List Request}

theorem kept_after_of_not_replaces
    (stays : ∀ request ∈ requests, ∀ other, ¬ request.Replaces other) :
    (after policy requests).kept = none :=
  kept_serveAll_of_not_replaces stays

theorem parserPolicy_after_of_not_replaces
    (stays : ∀ request ∈ requests, ∀ other, ¬ request.Replaces other) :
    (after policy requests).parserPolicy = (after policy requests).current := by
  rw [parserPolicy, kept_after_of_not_replaces stays]
  rfl

theorem parserPolicy_after_of_replaces {before later : List Request} {found : ParameterPolicy}
    (stays : ∀ request ∈ before, ∀ other, ¬ request.Replaces other)
    (replaces : request.Replaces found) :
    (after policy (before ++ request :: later)).parserPolicy = (after policy before).current := by
  have kept : ((after policy before).serve request).1.kept = some (after policy before).current := by
    rw [serve_replaces replaces, parserPolicy_after_of_not_replaces stays]
  have atEnd : (after policy (before ++ request :: later)).kept =
      some (after policy before).current := by
    rw [after, serveAll_append, serveAll_cons]
    exact kept_serveAll_of_kept kept later
  simp [parserPolicy, atEnd]

end After

/-- The parser reads the policy of the settings, edits included, up to the first replacement and keeps
that policy for good from then on. A request that asks or does not succeed changes nothing, and an
answer is the one of a parser that was just made from the same policy, which is what that policy makes
of the URI: no earlier question plays a part in it. -/
theorem shares_until_replaced (policy : ParameterPolicy) (requests : List Request) :
    let session := after policy requests
    ((∀ earlier ∈ requests, ∀ other, ¬ earlier.Replaces other) →
      session.parserPolicy = session.current ∧
        ∀ request edited, request.Edits session.current edited →
          (session.serve request).1.current = edited ∧
            (session.serve request).1.parserPolicy = edited) ∧
    (∀ before request later found, requests = before ++ request :: later →
      (∀ earlier ∈ before, ∀ other, ¬ earlier.Replaces other) → request.Replaces found →
        session.parserPolicy = (after policy before).current) ∧
    (∀ request later, request.asks = true →
      (session.serve request).1 = session ∧
        ((start policy).serveAll (requests ++ request :: later)).2[requests.length]? =
          some ((start session.parserPolicy).serve request).2 ∧
        request.Answers session.parserPolicy ((start session.parserPolicy).serve request).2) ∧
    session = after policy (requests.filter (!·.asks)) ∧
    (∀ request, request.Fails → (session.serve request).2 ≠ .changed) ∧
    ∀ request, (session.serve request).2 ≠ .changed → (session.serve request).1 = session := by
  refine ⟨?shared, ?frozen, ?asked, serveAll_filter_asks _ requests, ?failed, ?unchanged⟩
  case shared =>
    intro stays
    refine ⟨parserPolicy_after_of_not_replaces stays, ?_⟩
    intro request edited edits
    simp [serve_edits edits, parserPolicy, kept_after_of_not_replaces stays]
  case frozen =>
    intro before request later found same stays replaces
    rw [same]
    exact parserPolicy_after_of_replaces stays replaces
  case asked =>
    intro request later asks
    have served : (after policy requests).serve request = _ := serve_asks asks
    refine ⟨congrArg Prod.fst served, ?_, answers_start _ asks⟩
    rw [getElem?_serveAll, ← after, served]
  case failed =>
    intro request fails
    exact ((after policy requests).serve_step request).not_changed_of_fails fails
  case unchanged =>
    intro request unsuccessful
    exact ((after policy requests).serve_step request).eq_of_not_changed unsuccessful

theorem shares_until_replaced_by_empty_policy :
    let path := Value.text "path".toList
    let deny := Request.set Settings.deniedField (.list [path])
    let allow := Request.append Settings.allowedField path
    let swap := Request.replace (.mapping [])
    let question := Request.permits "path".toList
    let session := after .unrestricted [deny]
    session.parserPolicy = ⟨[], [path]⟩ ∧
      (session.serve allow).1.parserPolicy = ⟨[path], [path]⟩ ∧
      (after .unrestricted [deny, swap, allow]).parserPolicy = ⟨[], [path]⟩ ∧
      (after .unrestricted [deny, swap, allow]).current = ⟨[path], []⟩ ∧
      ((start .unrestricted).serveAll [deny, question, swap]).2[1]? = some (.permitted false) ∧
      (session.serve (.append "paths".toList path)).1 = session := by
  intro path deny allow swap question session
  have assigns (other : ParameterPolicy) :
      ¬ (Request.set Settings.deniedField (.list [path])).Replaces other := nofun
  have stays : ∀ earlier ∈ [deny], ∀ other, ¬ earlier.Replaces other :=
    List.forall_mem_singleton.mpr assigns
  have edits : allow.Edits session.current ⟨[path], [path]⟩ :=
    @Request.Edits.append _ .allowed rfl path session.current
  have replaces : swap.Replaces .unrestricted := .replace rfl
  obtain ⟨shared, -, asked, -, failed, unchanged⟩ := shares_until_replaced .unrestricted [deny]
  obtain ⟨-, frozen, -⟩ := shares_until_replaced .unrestricted [deny, swap, allow]
  obtain ⟨same, edited⟩ := shared stays
  refine ⟨same, (edited allow _ edits).2, ?_, rfl, ?_, unchanged _ (failed _ (.append path rfl))⟩
  · exact frozen [deny] swap [allow] _ rfl stays replaces
  · exact (asked question [swap] rfl).2.1

end ConnectionUri.Session
