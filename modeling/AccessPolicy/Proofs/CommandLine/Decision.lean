import AccessPolicy.Proofs.CommandLine.ExitCode
import AccessPolicy.Proofs.CommandLine.Logging
import AccessPolicy.Proofs.Config
import AccessPolicy.Proofs.Context.Tree
import AccessPolicy.Proofs.Evaluation.Noninterference

/-!
The decision that a run prints is that of its policy about a request with all values it is given.

The values come from four places, which are merged at different times. What they come to is said of
the trees in the files and of the pairs in the arguments, with no context in between. How a run logs
has no part in what it prints, as long as the log is apart from the files that are read.
-/

namespace AccessPolicy.CommandLine

namespace Job

/-- The file that the settings for a job are in, if there is one. -/
def settingsPath? (job : Job) (usual : Path) (disk : Disk) : Option Path :=
  -- The usual one need not be there.
  match job.config with
  | some path => some path
  | none => if (disk.bytes? usual).isSome || disk.isFolder usual then some usual else none

/-- The tree in the file with the settings, if there is such a file. -/
def settingsTree? (reserve : Text.Reserve) (job : Job) (usual : Path) (disk : Disk) :
    Option Json :=
  (job.settingsPath? usual disk).bind fun path => (disk.readTree reserve "config" path).toOption

/-- The tree in the file with the context, if there is such a file. -/
def contextTree? (reserve : Text.Reserve) (job : Job) (disk : Disk) : Option Json :=
  job.contextFile.bind fun path => (disk.readTree reserve "context" path).toOption

end Job

/-- The values that trees and pairs give for a name, where a request is about a resource. -/
def valuesFor (settings context : Option Json) (pairs : List String) (resource name : String) :
    List String :=
  -- The context file has values for all resources, and others for this one.
  (settings.toList.flatMap fun tree =>
      Context.valuesAt ["evaluation", "default_context"] tree name) ++
    (context.toList.flatMap fun tree => Context.valuesAt ["global"] tree name ++
      Context.valuesAt ["resources", resource] tree name) ++
    pairs.flatMap fun pair => Context.pairValues pair name

/-- A request is the one that the options describe, with the values of all sources. -/
structure Arguments.Describes (arguments : Arguments) (settings context : Option Json)
    (request : Request) : Prop where
  action : arguments.value? .action = some request.action
  resource : arguments.value? .resource = some request.resource
  principal : arguments.principals = request.principal.toList
  values : ∀ name, (request.context.values? name).getD [] =
    valuesFor settings context (arguments.values .context) request.resource name

namespace Job

variable {reserve : Text.Reserve} {job : Job} {config : Config} {session : Session} {usual : Path}
  {time : String} {disk opened later : Disk} {document : Policy.Document} {request : Request}
  {arguments : Arguments}

/-- The shared context of loaded settings has the values that are in their file. -/
theorem values?_settings (loaded : job.settings reserve usual disk = .ok config) :
    config.defaultContext.Orderly ∧ ∀ name, (config.defaultContext.values? name).getD [] =
      (job.settingsTree? reserve usual disk).toList.flatMap fun tree =>
        Context.valuesAt ["evaluation", "default_context"] tree name := by
  -- Settings come from a file whose tree describes them.
  have fromFile : ∀ path, job.settingsPath? usual disk = some path →
      Config.load reserve disk path = .ok config →
      config.defaultContext.Orderly ∧ ∀ name, (config.defaultContext.values? name).getD [] =
        (job.settingsTree? reserve usual disk).toList.flatMap fun tree =>
          Context.valuesAt ["evaluation", "default_context"] tree name := by
    intro path named read
    obtain ⟨tree, held, described⟩ := Config.load_eq_ok_iff.mp read
    obtain ⟨orderly, values⟩ := Config.values?_ofTree described
    have found : job.settingsTree? reserve usual disk = some tree := by
      simp [settingsTree?, named, held, Except.toOption]
    exact ⟨orderly, fun name => by simp [found, values]⟩
  unfold settings at loaded
  split at loaded
  · rename_i path named
    exact fromFile path (by rw [settingsPath?, named]) loaded
  · rename_i unnamed
    split at loaded
    · rename_i there
      exact fromFile usual (by rw [settingsPath?, unnamed]; exact if_pos there) loaded
    · rename_i missing
      have absent : job.settingsTree? reserve usual disk = none := by
        simp only [settingsTree?, settingsPath?, unnamed, if_neg missing, Option.bind_none]
      cases loaded
      rw [absent]
      exact ⟨Context.orderly_empty, fun name => rfl⟩

/-- The context of a job's file has the values for all resources, and then those for the one. -/
theorem values?_fileContext {resource : String} {given : Context}
    (loaded : job.fileContext reserve resource later = .ok given) :
    given.Orderly ∧ ∀ name, (given.values? name).getD [] =
      (job.contextTree? reserve later).toList.flatMap fun tree =>
        Context.valuesAt ["global"] tree name ++
          Context.valuesAt ["resources", resource] tree name := by
  unfold fileContext at loaded
  split at loaded
  · rename_i unnamed
    cases loaded
    rw [contextTree?, unnamed]
    exact ⟨Context.orderly_empty, fun name => rfl⟩
  · rename_i path named
    obtain ⟨tree, held, described⟩ := Context.load_eq_ok_iff.mp loaded
    obtain ⟨orderly, values⟩ := Context.values?_ofTree described
    have found : job.contextTree? reserve later = some tree := by
      simp [contextTree?, named, held, Except.toOption]
    exact ⟨orderly, fun name => by simp [found, values]⟩

/-- The request that a job evaluates is the one that the options describe. -/
theorem Reaches.describes (asked : Order.jobOf arguments = .ok job)
    (loaded : job.settings reserve usual disk = .ok config)
    (reaches : job.Reaches reserve config opened later document request) :
    arguments.Describes (job.settingsTree? reserve usual disk) (job.contextTree? reserve later)
      request := by
  obtain ⟨right, given⟩ := Order.jobOf_eq_ok_iff.mp asked
  obtain ⟨partialRequest, fileContext, wanted, found, rfl⟩ := reaches.request
  have described := given.request.symm.trans wanted
  unfold Arguments.request? at described
  split at described
  · rename_i action resource actionGiven resourceGiven
    cases described
    obtain ⟨settingsOrderly, settingsValues⟩ := values?_settings loaded
    obtain ⟨fileOrderly, fileValues⟩ := values?_fileContext found
    obtain ⟨pairsOrderly, pairValues⟩ := Context.values?_ofPairs given.context
    refine ⟨actionGiven, resourceGiven, ?_, fun name => ?_⟩
    · -- There is no principal but the first one.
      have single := right.single
      cases principals : arguments.principals with
      | nil => rfl
      | cons first others =>
        cases others with
        | nil => rfl
        | cons second rest => simp [principals] at single
    · rw [Context.values?_merge (by simp [settingsOrderly, fileOrderly, pairsOrderly])]
      simp only [List.flatMap_cons, List.flatMap_nil, List.append_nil, settingsValues, fileValues,
        pairValues, valuesFor, List.append_assoc]
  · cases described

/-- A job that gets to an evaluation ends with what any request that is described leads to. -/
theorem Reaches.ending_of_describes (asked : Order.jobOf arguments = .ok job)
    (loaded : job.settings reserve usual disk = .ok config)
    (reaches : job.Reaches reserve config opened later document request) {described : Request}
    (describes : arguments.Describes (job.settingsTree? reserve usual disk)
      (job.contextTree? reserve later) described) :
    job.ending reserve config opened later = .ofEvaluation (document.evaluate described) := by
  have own := reaches.describes asked loaded
  have action : described.action = request.action :=
    Option.some.inj (describes.action.symm.trans own.action)
  have resource : described.resource = request.resource :=
    Option.some.inj (describes.resource.symm.trans own.resource)
  have principal : described.principal = request.principal := by
    have same := describes.principal.symm.trans own.principal
    cases first : described.principal <;> cases second : request.principal <;> simp_all
  have same : document.evaluate described = document.evaluate request := by
    refine Policy.Document.evaluate_congr action resource principal fun name => ?_
    rw [describes.values, own.values, resource]
  rw [reaches.ending, same]

end Job

/--
A run decides what its policy decides about the request with all values that it is given.

The values under a name are those of the settings, of the context file for all resources and for the
one asked for, and of the pairs, in this order. What is printed is the decision with the statements
behind it, without what steers a terminal, and as long as all of it has an encoding. A run whose log
is unseen prints the same and ends with the same code as one that logs in another way.
-/
theorem result_decides_and_hides_log :
    (∀ (reserve : Text.Reserve) (usual : Path) (call : Call) (arguments : Arguments) (job : Job)
      (config : Config) (session : Session) (document : Policy.Document) (request : Request),
      Arguments.of call.words = .ok arguments → Order.of call.disk call.words = .ok (.work job) →
      job.Starts reserve usual call.time call.disk config session →
      let opened := session.disk
      let later := (session.note (Policy.Document.load reserve opened job.policy).events).disk
      job.Reaches reserve config opened later document request →
      (∃ tree, opened.readTree reserve "policy" job.policy = .ok tree ∧
        (Policy.Document.read tree).result = .ok document) ∧
      (∃ described, arguments.Describes (job.settingsTree? reserve usual call.disk)
        (job.contextTree? reserve later) described) ∧
      ∀ described, arguments.Describes (job.settingsTree? reserve usual call.disk)
        (job.contextTree? reserve later) described →
        (∀ outcome, document.evaluate described = .ok outcome →
          Printable reserve (decisionLines outcome) →
          (call.result reserve usual).exitCode = (if outcome.decision = .allow then 0 else 1) ∧
            (call.result reserve usual).output = printedText (decisionLines outcome)) ∧
        ∀ error, document.evaluate described = .error error →
          (call.result reserve usual).exitCode = 1 ∧ (call.result reserve usual).output = "") ∧
    ∀ (reserve : Text.Reserve) (usual : Path) (first second : Call)
      (arguments others : Arguments),
      first.LogUnseen reserve usual arguments → second.LogUnseen reserve usual others →
      LogsDiffer reserve usual first second arguments others →
      (second.result reserve usual).exitCode = (first.result reserve usual).exitCode ∧
        (second.result reserve usual).output = (first.result reserve usual).output := by
  refine ⟨?_, fun reserve usual first second arguments others unseen otherUnseen differ =>
    differ.result_eq unseen otherUnseen⟩
  intro reserve usual call arguments job config session document request read ordered starts
    opened later reaches
  have asked : Order.jobOf arguments = .ok job := Order.jobOf_of_work read ordered
  have worked : call.result reserve usual = job.proceed config session :=
    (Call.result_of_work ordered).trans starts.run
  refine ⟨Policy.Document.load_eq_ok_iff.mp reaches.policy,
    ⟨request, reaches.describes asked starts.settings⟩, fun described describes => ?_⟩
  have ending := reaches.ending_of_describes asked starts.settings describes
  obtain ⟨code, output⟩ := Job.proceed_ending job config session
  rw [Job.reserve_of_start? starts.log] at code output
  rw [worked, code, output, ending]
  constructor
  · intro outcome decided printable
    rw [decided, Ending.ofEvaluation, Ending.exitCode_of_printable printable,
      Ending.output_of_printable printable]
    exact ⟨by simp [Ending.code, Outcome.isAllowed], rfl⟩
  · intro error undecided
    rw [undecided]
    exact ⟨rfl, rfl⟩

/-- The call that asks for the decision of the project. -/
def projectCall : Call := ⟨someTime, projectDisk, projectWords⟩

/-- The same call with other settings, which name no file for the log, and with a level. -/
def quietCall : Call where
  time := someTime
  disk := projectDisk
  words := ["--policy", "policy.json", "--config", "quiet.json", "--context-file", "context.json",
    "--action", "s3:GetObject", "--resource", "arn:aws:s3:::b/k", "-c", " teaM =ci",
    "--log-level", "Debug"]

/-- The options in its arguments. -/
def quietArguments : Arguments :=
  ⟨[⟨.policy, "policy.json"⟩, ⟨.config, "quiet.json"⟩, ⟨.contextFile, "context.json"⟩,
    ⟨.action, "s3:GetObject"⟩, ⟨.resource, "arn:aws:s3:::b/k"⟩, ⟨.context, " teaM =ci"⟩,
    ⟨.logLevel, "Debug"⟩], []⟩

/-- The job that they ask for. -/
def quietJob : Job :=
  { projectJob with config := some ⟨0, ["quiet.json"]⟩, logLevel := some .debug }

/-- The run with these settings. -/
def quietSession : Session := ⟨.first, someTime, .debug, none, projectDisk, ""⟩

/-- The options lead to the job. -/
theorem jobOf_quietArguments : Order.jobOf quietArguments = .ok quietJob := rfl

/-- The log of the project has no part in what the call reads. -/
theorem logUnseen_projectCall : projectCall.LogUnseen .first absentSettings projectArguments :=
  Call.LogUnseen.of_starts of_projectWords rfl jobOf_projectArguments
    starts_projectJob apart_projectSession (by decide)

/-- The job starts without a log. -/
theorem starts_quietJob : quietJob.Starts .first absentSettings someTime projectDisk
    ⟨.warning, none, ⟨[("team", ["ops"])]⟩⟩ quietSession where
  settings := eq_ok_of_toOption (by decide +kernel)
  log := rfl

/-- Without a file for the log, nothing can be seen of it. -/
theorem logUnseen_quietCall : quietCall.LogUnseen .first absentSettings quietArguments :=
  Call.LogUnseen.of_starts rfl rfl jobOf_quietArguments starts_quietJob (by decide) (by decide)

/-- Every option is listed. -/
theorem Flag.mem_all (flag : Flag) : flag ∈ all := by
  cases flag with
  | principal kind => cases kind <;> decide
  | _ => decide

/-- The two calls differ in how they log alone. -/
theorem logsDiffer_quietCall :
    LogsDiffer .first absentSettings projectCall quietCall projectArguments quietArguments where
  options flag unset unlevelled := by
    have same : ∀ flag ∈ Flag.all, flag ≠ .config → flag ≠ .logLevel →
        quietArguments.values flag = projectArguments.values flag := by
      decide
    exact same flag (Flag.mem_all flag) unset unlevelled
  shared job another asked otherAsked := by
    rw [jobOf_projectArguments] at asked
    rw [jobOf_quietArguments] at otherAsked
    cases asked
    cases otherAsked
    rw [projectCall, quietCall, starts_projectJob.settings, starts_quietJob.settings]
    rfl
  inputs job asked path inside := rfl

/-- The files of the project when the context is read, behind the first lines of the log. -/
def projectLater : Disk :=
  let loading := Policy.Document.load .first projectSession.disk projectJob.policy
  (projectSession.note loading.events).disk

/-- What is logged before the context is read does not keep the job from its request. -/
theorem reaches_projectLater : projectJob.Reaches .first projectConfig projectSession.disk
    projectLater projectDocument projectRequest :=
  reaches_projectJob.of_later (starts_projectJob.bytes?_contextFile apart_projectSession _)

/--
The project is allowed its request, whose values come from the settings, both parts of the context
file and the arguments, and another log does not change that.
-/
theorem result_project :
    (∃ described,
      projectArguments.Describes (projectJob.settingsTree? .first absentSettings projectDisk)
        (projectJob.contextTree? .first projectLater) described ∧
      (described.context.values? "TEAM").getD [] = ["ops", "dev", "web", "ci"]) ∧
    (projectCall.result .first absentSettings).exitCode = 0 ∧
    (projectCall.result .first absentSettings).output = "Allow\n  Deciding statements: Read\n" ∧
    (quietCall.result .first absentSettings).exitCode = 0 ∧
    (quietCall.result .first absentSettings).output = "Allow\n  Deciding statements: Read\n" := by
  obtain ⟨-, -, decides⟩ := result_decides_and_hides_log.1 .first absentSettings projectCall
    projectArguments projectJob projectConfig projectSession projectDocument projectRequest
    of_projectWords of_projectDisk starts_projectJob reaches_projectLater
  have describes := reaches_projectLater.describes jobOf_projectArguments
    starts_projectJob.settings
  have printable : Printable .first (decisionLines ⟨.allow, ["Read"]⟩) := by decide
  obtain ⟨code, output⟩ :=
    (decides projectRequest describes).1 _ evaluate_projectRequest printable
  have text : printedText (decisionLines ⟨.allow, ["Read"]⟩) =
      "Allow\n  Deciding statements: Read\n" := rfl
  rw [text] at output
  obtain ⟨otherCode, otherOutput⟩ := result_decides_and_hides_log.2 .first absentSettings
    projectCall quietCall projectArguments quietArguments logUnseen_projectCall
    logUnseen_quietCall logsDiffer_quietCall
  exact ⟨⟨projectRequest, describes, rfl⟩, code, output, otherCode.trans code,
    otherOutput.trans output⟩

/-- A policy whose statement is identified by a text with a terminal sequence, and settings. -/
def strayDisk (logging : List (String × Json)) : Disk where
  start := ["work"]
  folders := [["work"]]
  files := [
    treeFile ["work", "policy.json"] (.object [("Version", .string "2012-10-17"),
      ("Statement", .array [.object [("Sid", .string "\x1b[1mRead"), ("Effect", .string "Allow"),
        ("Action", .string "s3:*"), ("Resource", .string "*")]])]),
    treeFile ["work", "config.json"] (.object [("logging", .object logging)])]

/-- A call with a policy on the other side of a folder that is not there. -/
def strayCall (logging : List (String × Json)) : Call where
  time := someTime
  disk := strayDisk logging
  words := ["--policy", "logs/../policy.json", "--config", "config.json",
    "--action", "s3:GetObject", "--resource", "arn:aws:s3:::b/k"]

/-- The job that it asks for. -/
def strayJob : Job where
  policy := ⟨0, ["logs", "..", "policy.json"]⟩
  request := some ⟨"s3:GetObject", "arn:aws:s3:::b/k", none, Context.empty⟩
  context := Context.empty
  contextFile := none
  config := some ⟨0, ["config.json"]⟩
  logLevel := none

/-- The setting of a log file in that folder. -/
def strayLog : List (String × Json) := [("log_file", .string "logs/run.jsonl")]

/-- The run of the job without a log. -/
def quietStraySession : Session := ⟨.first, someTime, .warning, none, strayDisk [], ""⟩

/-- The run of the job with its log open. -/
def loggedStraySession : Session where
  reserve := .first
  time := someTime
  level := .warning
  logFile := some ["work", "logs", "run.jsonl"]
  disk := { strayDisk strayLog with
    folders := [["work"], ["work", "logs"]]
    files := (strayDisk strayLog).files ++ [(["work", "logs", "run.jsonl"], [])] }
  error := ""

/-- The job starts without a log. -/
theorem starts_quietStray : strayJob.Starts .first absentSettings someTime (strayDisk [])
    ⟨.warning, none, Context.empty⟩ quietStraySession where
  settings := eq_ok_of_toOption (by decide +kernel)
  log := rfl

/-- The job starts with its log, and this creates the folder. -/
theorem starts_loggedStray : strayJob.Starts .first absentSettings someTime (strayDisk strayLog)
    ⟨.warning, some ⟨0, ["logs", "run.jsonl"]⟩, Context.empty⟩ loggedStraySession where
  settings := eq_ok_of_toOption (by decide +kernel)
  log := rfl

/-- Without the folder the policy is not found. -/
theorem ending_quietStray : strayJob.ending .first ⟨.warning, none, Context.empty⟩
    quietStraySession.disk quietStraySession.disk = .failed := by
  have unfound : quietStraySession.disk.bytes? strayJob.policy = none := rfl
  rw [Job.ending, Policy.Document.load, Disk.readTree, unfound]

/-- With the folder it is found, and it allows the request. -/
theorem decides_loggedStray : strayJob.Decides .first absentSettings someTime (strayDisk strayLog)
    (.ok ⟨.allow, ["\x1b[1mRead"]⟩) := by
  have reaches : strayJob.Reaches .first ⟨.warning, some ⟨0, ["logs", "run.jsonl"]⟩, Context.empty⟩
      loggedStraySession.disk loggedStraySession.disk
      ⟨"2012-10-17", none,
        [⟨0, some "\x1b[1mRead", .allow, .only ["s3:*"], .only ["*"], none, none⟩]⟩
      ⟨"s3:GetObject", "arn:aws:s3:::b/k", none, Context.empty⟩ :=
    ⟨eq_ok_of_toOption (by decide +kernel), _, _, rfl, rfl, rfl⟩
  exact ⟨_, _, starts_loggedStray, _, _, reaches, rfl⟩

/-- A call with a policy whose statement is identified by half of a surrogate pair. -/
def halvedCall : Call where
  time := someTime
  disk := textsDisk
  words := ["--policy", "halved.json", "--action", "s3:GetObject", "--resource", "*"]

/-- This policy allows every request. -/
theorem decides_halved : (textsJob "halved.json" (some anyRequest)).Decides .first absentSettings
    someTime textsDisk (.ok ⟨.allow, [halfText]⟩) := by
  have reaches : (textsJob "halved.json" (some anyRequest)).Reaches .first Config.default
      textsDisk textsDisk halvedDocument anyRequest :=
    ⟨eq_ok_of_toOption (by decide +kernel), _, _, rfl, rfl, rfl⟩
  exact ⟨_, _, starts_textsJob _ _, _, _, reaches, eq_ok_of_toOption (by decide +kernel)⟩

/--
A log file, though it opens and is no input, can turn a failure into a permission.

Opening it creates the folder through which the path of the policy leads. The statement behind the
decision is then not printed as it is identified, but without the sequence for the terminal. One
that is identified by half of a surrogate pair is not printed at all, and the permission turns into
a failure.
-/
theorem strayLog_changes_result :
    Order.of (strayDisk []) (strayCall []).words = .ok (.work strayJob) ∧
    Order.of (strayDisk strayLog) (strayCall strayLog).words = .ok (.work strayJob) ∧
    strayJob.settings .first absentSettings (strayDisk []) = .ok ⟨.warning, none, Context.empty⟩ ∧
    strayJob.settings .first absentSettings (strayDisk strayLog) =
      .ok ⟨.warning, some ⟨0, ["logs", "run.jsonl"]⟩, Context.empty⟩ ∧
    strayJob.LogsApart .first absentSettings someTime (strayDisk []) ∧
    strayJob.LogsApart .first absentSettings someTime (strayDisk strayLog) ∧
    ((strayCall []).result .first absentSettings).exitCode = 1 ∧
    ((strayCall []).result .first absentSettings).output = "" ∧
    ((strayCall strayLog).result .first absentSettings).exitCode = 0 ∧
    strayJob.Decides .first absentSettings someTime (strayDisk strayLog)
      (.ok ⟨.allow, ["\x1b[1mRead"]⟩) ∧
    ((strayCall strayLog).result .first absentSettings).output =
      "Allow\n  Deciding statements: Read\n" ∧
    Order.of halvedCall.disk halvedCall.words =
      .ok (.work (textsJob "halved.json" (some anyRequest))) ∧
    (textsJob "halved.json" (some anyRequest)).Decides .first absentSettings someTime
      halvedCall.disk (.ok ⟨.allow, [halfText]⟩) ∧
    (halvedCall.result .first absentSettings).exitCode = 1 ∧
    (halvedCall.result .first absentSettings).output = "Allow\n" := by
  have quietApart : ∀ path ∈ strayJob.inputs, quietStraySession.Apart path := by decide
  have logApart : ∀ path ∈ strayJob.inputs, loggedStraySession.Apart path := by decide
  have quietAsked : Order.of (strayDisk []) (strayCall []).words = .ok (.work strayJob) :=
    rfl
  have logAsked : Order.of (strayDisk strayLog) (strayCall strayLog).words =
      .ok (.work strayJob) := rfl
  obtain ⟨quietCode, quietOutput⟩ := starts_quietStray.run_ending quietApart
  obtain ⟨logCode, logOutput⟩ := starts_loggedStray.run_ending logApart
  rw [ending_quietStray] at quietCode quietOutput
  rw [starts_loggedStray.decides_iff.mp decides_loggedStray] at logCode logOutput
  rw [Call.result_of_work quietAsked, Call.result_of_work logAsked]
  have printed : printedText (decisionLines ⟨.allow, ["\x1b[1mRead"]⟩) =
      "Allow\n  Deciding statements: Read\n" := rfl
  have printable : Printable .first (decisionLines ⟨.allow, ["\x1b[1mRead"]⟩) := by decide
  rw [Ending.exitCode_of_printable printable] at logCode
  rw [Ending.output_of_printable printable] at logOutput
  have halvedAsked : Order.of halvedCall.disk halvedCall.words =
      .ok (.work (textsJob "halved.json" (some anyRequest))) := rfl
  have halved := (starts_textsJob "halved.json" (some anyRequest)).run_ending
    fun path _ => apart_textsSession path
  rw [(starts_textsJob _ _).decides_iff.mp decides_halved] at halved
  have broken : (Ending.decided ⟨.allow, [halfText]⟩).exitCode .first ⟨0, ["halved.json"]⟩ = 1 ∧
      (Ending.decided ⟨.allow, [halfText]⟩).output .first ⟨0, ["halved.json"]⟩ = "Allow\n" := by
    decide +kernel
  rw [Call.result_of_work halvedAsked]
  exact ⟨quietAsked, logAsked, starts_quietStray.settings, starts_loggedStray.settings,
    starts_quietStray.logsApart quietApart, starts_loggedStray.logsApart logApart, quietCode,
    quietOutput, logCode, decides_loggedStray, logOutput.trans printed, halvedAsked,
    decides_halved, halved.1.trans broken.1, halved.2.trans broken.2⟩

end AccessPolicy.CommandLine
