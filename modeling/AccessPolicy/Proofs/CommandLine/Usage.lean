import AccessPolicy.CommandLine.Job
import AccessPolicy.Proofs.Context.Pairs
import AccessPolicy.Proofs.Request

/-!
Which arguments ask for a job, and which job that is.

The mistakes are stated without the order in which they are looked for, and no file has a part in
them.
-/

namespace AccessPolicy

namespace CommandLine

namespace Arguments

/-- The principals that are given, of which there may be one for every kind. -/
def principals (arguments : Arguments) : List Principal :=
  -- An option that is repeated gives its last value.
  PrincipalKind.all.filterMap fun kind =>
    (arguments.value? (.principal kind)).map (Principal.mk kind)

/-- An option is used where it has values. -/
theorem has_eq (arguments : Arguments) (flag : Flag) :
    arguments.has flag = !(arguments.values flag).isEmpty := by
  rw [Bool.eq_iff_iff]
  simp [has, values]

/-- Mistakes in the use of options, each of them enough for there to be no job. -/
inductive Misused (arguments : Arguments) : Prop where
  | policies (count : (arguments.values .policy).length ≠ 1)
  | pair {pair : String} (inside : pair ∈ arguments.values .context)
    (unreadable : ¬ Context.IsPair pair)
  | severalPrincipals (several : 1 < arguments.principals.length)
  | principalAlone (given : arguments.principals ≠ [])
    (actionless : arguments.value? .action = none) (resourceless : arguments.value? .resource = none)
  | incomplete
    (single : (arguments.value? .action).isSome ≠ (arguments.value? .resource).isSome)
  | emptyAction (empty : arguments.value? .action = some "")
  | emptyResource (empty : arguments.value? .resource = some "")
  | emptyPrincipal {principal : Principal} (given : principal ∈ arguments.principals)
    (empty : principal.value = "")

/-- The options for a request fit together, and what they give has a character. -/
structure RequestsRight (arguments : Arguments) : Prop where
  single : arguments.principals.length ≤ 1
  attended : arguments.value? .action = none → arguments.value? .resource = none →
    arguments.principals = []
  together : (arguments.value? .action).isSome = (arguments.value? .resource).isSome
  action : arguments.value? .action ≠ some ""
  resource : arguments.value? .resource ≠ some ""
  principals : ∀ principal ∈ arguments.principals, principal.value ≠ ""

/-- The request that the options give, with a context. -/
def request? (arguments : Arguments) (context : Context) : Option Request :=
  -- Only an action on a resource can be requested.
  match arguments.value? .action, arguments.value? .resource with
  | some action, some resource => some ⟨action, resource, arguments.principals.head?, context⟩
  | _, _ => none

end Arguments

/-- A job has the files, the request and the context that the options give. -/
structure Job.GivenBy (job : Job) (arguments : Arguments) : Prop where
  policy : ∃ text, arguments.values .policy = [text] ∧ job.policy = Path.ofText text
  context : Context.ofPairs (arguments.values .context) = .ok job.context
  request : job.request = arguments.request? job.context
  contextFile : job.contextFile = (arguments.value? .contextFile).map Path.ofText
  config : job.config = (arguments.value? .config).map Path.ofText
  logLevel : job.logLevel = (arguments.value? .logLevel).bind Order.levelOf?

namespace Order

variable {arguments : Arguments} {context : Context} {job : Job}

/-- The draft of a request has the principals that are given. -/
theorem given_draft : (draft arguments context).given =
    arguments.principals.map fun principal => (principal.kind.name, principal.value) := by
  simp only [RequestDraft.given, draft, Arguments.principals, List.filterMap_map,
    List.map_filterMap]
  congr 1
  funext kind
  simp [Function.comp_def]

/-- The draft of a request has the first of the principals that are given, if it is not empty. -/
theorem principal?_draft_eq_ok_iff {principal : Option Principal} :
    (draft arguments context).principal? = .ok principal ↔
      principal = arguments.principals.head? ∧
        ∀ given ∈ arguments.principals.head?, given.value ≠ "" := by
  rw [RequestDraft.principal?, given_draft]
  cases arguments.principals with
  | nil => simp [@eq_comm _ principal]
  | cons first later =>
    simp only [List.map_cons, map_eq_ok_iff, RequestDraft.principalOf_eq_ok_iff, List.head?_cons,
      Option.mem_some_iff, forall_eq']
    constructor
    · intro ⟨found, ⟨filled, same⟩, made⟩
      exact ⟨by rw [← made, same], filled⟩
    · intro ⟨same, filled⟩
      exact ⟨first, ⟨filled, rfl⟩, same.symm⟩

/-- A draft with an action and a resource leads to a request where no value is empty. -/
theorem complete_draft_eq_ok_iff {action resource : String} {request : Request} :
    (draft arguments context).complete action resource = .ok request ↔
      (∀ given ∈ arguments.principals.head?, given.value ≠ "") ∧ action ≠ "" ∧ resource ≠ "" ∧
        request = ⟨action, resource, arguments.principals.head?, context⟩ := by
  unfold RequestDraft.complete
  cases read : (draft arguments context).principal? with
  | error faults =>
    refine iff_of_false (by simp) ?_
    intro ⟨filled, _⟩
    rw [principal?_draft_eq_ok_iff.mpr ⟨rfl, filled⟩] at read
    cases read
  | ok principal =>
    obtain ⟨rfl, filled⟩ := principal?_draft_eq_ok_iff.mp read
    rw [show (draft arguments context).context = context from rfl, Request.make_eq_ok_iff]
    exact ⟨fun made => ⟨filled, made⟩, fun made => made.2⟩

/-- The options lead to a request, or to none, where those for a request are used right. -/
theorem request?_draft_eq_ok_iff {request : Option Request} :
    (draft arguments context).request? = .ok request ↔
      arguments.RequestsRight ∧ request = arguments.request? context := by
  rw [RequestDraft.request?, given_draft, List.length_map]
  have actionGiven : (draft arguments context).action = arguments.value? .action := rfl
  have resourceGiven : (draft arguments context).resource = arguments.value? .resource := rfl
  rw [actionGiven, resourceGiven, Arguments.request?]
  by_cases several : 1 < arguments.principals.length
  · rw [if_pos several]
    exact iff_of_false (by simp) fun right => absurd several (Nat.not_lt.mpr right.1.single)
  · rw [if_neg several]
    have single : arguments.principals.length ≤ 1 := Nat.le_of_not_lt several
    cases action : arguments.value? .action with
    | none =>
      cases resource : arguments.value? .resource with
      | none =>
        cases principals : arguments.principals with
        | nil =>
          have right : arguments.RequestsRight := by constructor <;> simp [*]
          simp [right, @eq_comm _ request]
        | cons first later =>
          refine iff_of_false (by simp) fun right => ?_
          simpa [principals] using right.1.attended action resource
      | some given =>
        refine iff_of_false (by simp) fun right => ?_
        simpa [action, resource] using right.1.together
    | some wanted =>
      cases resource : arguments.value? .resource with
      | none =>
        refine iff_of_false (by simp) fun right => ?_
        simpa [action, resource] using right.1.together
      | some target =>
        -- The only principal is the first one.
        have onlyFirst : ∀ given, given ∈ arguments.principals.head? ↔
            given ∈ arguments.principals := by
          match arguments.principals, single with
          | [], _ => simp
          | [only], _ => simp [@eq_comm _ only]
        dsimp only
        split
        · rename_i made complete
          obtain ⟨filled, present, there, same⟩ := complete_draft_eq_ok_iff.mp complete
          simp only [onlyFirst] at filled
          have right : arguments.RequestsRight := by constructor <;> simp_all
          simp [right, same, @eq_comm _ request]
        · rename_i faults refused
          refine iff_of_false (by simp) fun right => ?_
          have filled : ∀ given ∈ arguments.principals.head?, given.value ≠ "" :=
            fun given first => right.1.principals given ((onlyFirst given).mp first)
          have present : wanted ≠ "" := fun empty => right.1.action (empty ▸ action)
          have there : target ≠ "" := fun empty => right.1.resource (empty ▸ resource)
          rw [complete_draft_eq_ok_iff.mpr ⟨filled, present, there, rfl⟩] at refused
          cases refused

/-- Options lead to the job that they give, where those for a request are used right. -/
theorem jobOf_eq_ok_iff :
    jobOf arguments = .ok job ↔ arguments.RequestsRight ∧ job.GivenBy arguments := by
  unfold jobOf
  split
  · rename_i unnamed
    refine iff_of_false (by simp) fun given => ?_
    obtain ⟨text, only, -⟩ := given.2.policy
    simp [unnamed] at only
  · rename_i several
    refine iff_of_false (by simp) fun given => ?_
    obtain ⟨text, only, -⟩ := given.2.policy
    simp [several] at only
  · rename_i policy named
    simp only [bind_eq_ok_iff, mapError_eq_ok_iff, request?_draft_eq_ok_iff]
    constructor
    · intro ⟨context, paired, request, ⟨right, same⟩, made⟩
      cases made
      exact ⟨right, ⟨policy, named, rfl⟩, paired, same, rfl, rfl, rfl⟩
    · obtain ⟨policyPath, request, context, contextFile, config, logLevel⟩ := job
      intro ⟨right, given⟩
      obtain ⟨⟨text, only, path⟩, paired, same, sources, settings, level⟩ := given
      dsimp only at path paired same sources settings level
      obtain rfl : policy = text := by simpa [named] using only
      exact ⟨context, paired, request, ⟨right, same⟩, by
        rw [path, sources, settings, level]
        rfl⟩

/-- Options that are not misused describe a request rightly, or none. -/
theorem requestsRight_of_not_misused (used : ¬ arguments.Misused) : arguments.RequestsRight where
  single := Nat.le_of_not_lt fun several => used (.severalPrincipals several)
  attended actionless resourceless := by
    by_contra given
    exact used (.principalAlone given actionless resourceless)
  together := by
    by_contra single
    exact used (.incomplete single)
  action empty := used (.emptyAction empty)
  resource empty := used (.emptyResource empty)
  principals _ given empty := used (.emptyPrincipal given empty)

/-- There is a job exactly where no option is misused. -/
theorem exists_jobOf_eq_ok_iff : (∃ job, jobOf arguments = .ok job) ↔ ¬ arguments.Misused := by
  constructor
  · intro ⟨job, made⟩ misused
    obtain ⟨right, given⟩ := jobOf_eq_ok_iff.mp made
    have pairs := Context.exists_ofPairs_eq_ok_iff.mp ⟨job.context, given.context⟩
    cases misused with
    | policies count =>
      obtain ⟨text, only, -⟩ := given.policy
      exact count (by rw [only]; rfl)
    | pair inside unreadable => exact unreadable (pairs _ inside)
    | severalPrincipals several => exact absurd several (Nat.not_lt.mpr right.single)
    | principalAlone given actionless resourceless =>
      exact given (right.attended actionless resourceless)
    | incomplete single => exact single right.together
    | emptyAction empty => exact right.action empty
    | emptyResource empty => exact right.resource empty
    | emptyPrincipal given empty => exact right.principals _ given empty
  · intro used
    have readable : ∀ pair ∈ arguments.values .context, Context.IsPair pair := by
      intro pair inside
      by_contra unreadable
      exact used (.pair inside unreadable)
    obtain ⟨context, paired⟩ := Context.exists_ofPairs_eq_ok_iff.mpr readable
    have one : (arguments.values .policy).length = 1 := by
      by_contra count
      exact used (.policies count)
    obtain ⟨policy, only⟩ := List.length_eq_one_iff.mp one
    let job : Job := {
      policy := Path.ofText policy
      request := arguments.request? context
      context
      contextFile := (arguments.value? .contextFile).map Path.ofText
      config := (arguments.value? .config).map Path.ofText
      logLevel := (arguments.value? .logLevel).bind levelOf? }
    have given : job.GivenBy arguments := ⟨⟨policy, only, rfl⟩, paired, rfl, rfl, rfl, rfl⟩
    exact ⟨job, jobOf_eq_ok_iff.mpr ⟨requestsRight_of_not_misused used, given⟩⟩

/-- Where nothing is wrong with single values, a text is asked for, or else a job. -/
theorem of_eq {disk : Disk} {words : List String} (read : Arguments.of words = .ok arguments)
    (faultless : faultIn? disk arguments = none) :
    Order.of disk words =
      if arguments.has .help then .ok .help
      else if arguments.has .version then .ok .version
      else (jobOf arguments).map Order.work := by
  simp only [Order.of, read, faultless, mapError_ok, Bind.bind, Except.bind, Pure.pure,
    Except.pure]
  split
  · rfl
  · split
    · rfl
    · cases jobOf arguments <;> rfl

/-- Where a job is asked for, it is the one that the options lead to. -/
theorem jobOf_of_work {disk : Disk} {words : List String} (read : Arguments.of words = .ok arguments)
    (asked : Order.of disk words = .ok (.work job)) : jobOf arguments = .ok job := by
  cases faults : faultIn? disk arguments with
  | some fault =>
    simp only [Order.of, read, faults, mapError_ok, Bind.bind, Except.bind] at asked
    split at asked
    · cases asked
    · cases asked
  | none =>
    rw [of_eq read faults] at asked
    split at asked
    · cases asked
    · split at asked
      · cases asked
      · obtain ⟨made, found, same⟩ := map_eq_ok_iff.mp asked
        cases same
        exact found

end Order

end CommandLine

end AccessPolicy
