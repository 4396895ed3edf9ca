import ServerLaunch.Package.Npm
import ServerLaunch.Proofs.Launching

/-!
# Asking a registry

A query for the latest version makes one request, and what the request meets decides how the
query ends. The provisioner makes up for a query that failed by a copy that is there, but only
if the failure says that it is one of a query. So it matters which faults are given that form:
those of the exchange, a refusal and a body that is no document among them, and those of a
value. A fault of the system and a breakdown of the reader leave the query as they are, and no
copy helps. How the reader of a body decodes it is left open here: what it gives comes with the
answer.

A server refuses with a status from 400 to 599. Any other answer is read for a version.

## Main definitions

* `Fault.Foreign`: a fault that a query does not explain.
* `Json.States`: a document states a version.
* `Registry.Queried`: how a query ends, given what its request meets.
* `Registry.Escapes`: what a request meets leaves the query as a fault.

**Main statements.** The rules say how every query ends (`queried_iff`), and a fault leaves a
query exactly if it escapes (`reading_eq_fault_iff`).
-/
namespace ServerLaunch

/-- A fault that belongs neither to an exchange nor to a value: the system reports it, or the
program that asks breaks down. -/
inductive Fault.Foreign : Fault → Prop
  | os (error : OsError) : Foreign (.os error)
  | runtime (message : String) : Foreign (.runtime message)
  | tooDeep (message : String) : Foreign (.tooDeep message)

theorem Fault.foreign_iff {fault : Fault} :
    fault.Foreign ↔ fault.isRequestFault = false ∧ fault.isValueFault = false := by
  constructor
  · rintro (_ | _ | _) <;> exact ⟨rfl, rfl⟩
  · rintro ⟨request, value⟩
    cases fault with
    | os error => exact .os error
    | runtime message => exact .runtime message
    | tooDeep message => exact .tooDeep message
    | value _ | unicode _ => cases value
    | transport _ _ | malformedDocument _ => cases request

/-- What is there is what was found. -/
theorem toOption_eq_some_iff {ε α : Type} {found : Except ε α} {value : α} :
    found.toOption = some value ↔ found = .ok value := by
  cases found <;> simp [Except.toOption]

/-! ## Answers -/

/-- A server refuses with a status of the ranges for errors. -/
def Response.Refuses (r : Response) : Prop := 400 ≤ r.status ∧ r.status < 600

namespace Response

variable {r : Response}

/-- A refusal is a fault of the exchange. -/
theorem accepted_of_refuses (refuses : r.Refuses) (url : String) :
    ∃ message, r.accepted url = .error (.transport .http message) := by
  obtain ⟨floor, ceiling⟩ := refuses
  unfold accepted blame?
  by_cases client : r.status < 500
  · simp [floor, client]
  · simp [client, ceiling, Int.not_lt.1 client]

theorem accepted_of_not_refuses (taken : ¬ r.Refuses) (url : String) :
    r.accepted url = .ok r := by
  have none : blame? r.status = none := by
    unfold Refuses at taken
    simp only [blame?, Bool.and_eq_true, decide_eq_true_eq]
    rw [if_neg (by omega), if_neg (by omega)]
  rw [accepted, none]

end Response

/-- The document that a reply brings from an address, or the fault that keeps it from that. -/
def Reply.document (url : String) (reply : Reply) : Except Fault Json :=
  reply.outcome.bind fun r => (r.accepted url).bind Response.document

theorem Reply.document_of_refused {r : Response} {url : String} {fault : Fault}
    (report : r.accepted url = .error fault) : (Reply.answers r).document url = .error fault := by
  simp [document, outcome, Except.bind, report]

theorem Reply.document_of_taken {r : Response} {url : String} (taken : ¬ r.Refuses) :
    (Reply.answers r).document url = r.document := by
  simp [document, outcome, Except.bind, Response.accepted_of_not_refuses taken]

namespace Json

/-- A document states a version: it is an object, and the last of its members of that name is
the text of the version. -/
def States (document : Json) (version : Version) : Prop :=
  ∃ before after,
    document = .object
        (before ++ (Text.CodePoint.ofText "version", .string version.points) :: after) ∧
      ∀ member ∈ after, member.1 ≠ Text.CodePoint.ofText "version"

/-- A member is found under a name exactly if it is the last one of the name. -/
theorem member?_eq_some_iff {name : String} {document value : Json} :
    document.member? name = some value ↔
      ∃ before after, document = .object (before ++ (Text.CodePoint.ofText name, value) :: after) ∧
        ∀ member ∈ after, member.1 ≠ Text.CodePoint.ofText name := by
  cases document with
  | object members =>
    simp only [member?, List.lookup_eq_some_iff, object.injEq, bne_iff_ne]
    constructor
    · rintro ⟨after, before, split, other⟩
      refine ⟨before.reverse, after.reverse, ?_, fun member inside => ?_⟩
      · simpa using congrArg List.reverse split
      · exact (other member (List.mem_reverse.1 inside)).symm
    · rintro ⟨before, after, rfl, other⟩
      refine ⟨after.reverse, before.reverse, by simp, fun member inside => ?_⟩
      exact (other member (List.mem_reverse.1 inside)).symm
  | null | bool _ | number _ | string _ | array _ => simp [member?]

theorem version?_eq_some_iff {document : Json} {version : Version} :
    document.version? = some version ↔ document.States version := by
  simp only [version?, Option.map_eq_some_iff, Option.bind_eq_some_iff, text?_eq_some_iff]
  constructor
  · rintro ⟨points, ⟨_, found, rfl⟩, rfl⟩
    exact member?_eq_some_iff.1 found
  · intro states
    exact ⟨version.points, ⟨_, member?_eq_some_iff.2 states, rfl⟩, rfl⟩

end Json

namespace Registry

variable {σ : Type} (registry : Registry) (package : String)

/-! ## How a query ends -/

/-- What a query makes of the reply that its request meets. -/
def reading (reply : Reply) : Except Failure Version :=
  match reply.document (registry.latestUrl package) with
  | .error fault => .error (queryFailure package (registry.latestUrl package) fault)
  | .ok document =>
    match document.version?.filter (· != .empty) with
    | some version => .ok version
    | none => .error (QueryFlaw.noVersion.toFailure package (registry.latestUrl package))

/-- Asking for the document takes the next reply. -/
theorem run_document (w : World σ) :
    (registry.document package).run w =
      ⟨(w.nextReply.document (registry.latestUrl package)).mapError .fault,
        { w with replies := w.replies.tail },
        [.request (registry.latestUrl package) registry.timeout]⟩ := by
  simp only [document, Action.run_bind, World.request, Reply.document]
  cases w.nextReply.outcome <;> rfl

/-- A query takes the next reply, whatever it makes of it, and an observer sees the request. -/
theorem run_latest (w : World σ) :
    (registry.latest package).run w =
      ⟨registry.reading package w.nextReply, { w with replies := w.replies.tail },
        [.request (registry.latestUrl package) registry.timeout]⟩ := by
  simp only [latest, Action.run_bind, Action.run_mapFailure, run_document, reading]
  cases w.nextReply.document (registry.latestUrl package) with
  | error fault => rfl
  | ok document =>
    simp only [mapError_ok]
    cases document.version?.filter (· != .empty) <;> rfl

/-- How a query ends, given what its request meets. -/
inductive Queried : Reply → Except Failure Version → Prop
  | raised {fault : Fault} :
      Queried (.fails fault) (.error (queryFailure package (registry.latestUrl package) fault))
  | refused {r : Response} {message : String} (refuses : r.Refuses)
      (report : r.accepted (registry.latestUrl package) = .error (.transport .http message)) :
      Queried (.answers r) (.error ((QueryFlaw.exchange (.transport .http message)).toFailure
        package (registry.latestUrl package)))
  | unread {r : Response} {fault : Fault} (taken : ¬ r.Refuses)
      (body : r.document = .error fault) :
      Queried (.answers r) (.error (queryFailure package (registry.latestUrl package) fault))
  | silent {r : Response} {document : Json} (taken : ¬ r.Refuses)
      (body : r.document = .ok document)
      (unstated : ∀ version, document.States version → version = .empty) :
      Queried (.answers r) (.error (QueryFlaw.noVersion.toFailure package
        (registry.latestUrl package)))
  | stated {r : Response} {document : Json} {version : Version} (taken : ¬ r.Refuses)
      (body : r.document = .ok document) (states : document.States version)
      (telling : version ≠ .empty) :
      Queried (.answers r) (.ok version)

variable {registry package} in
theorem Queried.reading_eq {reply : Reply} {outcome : Except Failure Version}
    (h : registry.Queried package reply outcome) : registry.reading package reply = outcome := by
  cases h with
  | raised => rfl
  | refused _ report =>
    simp [reading, Reply.document_of_refused report, queryFailure, Fault.isRequestFault]
  | unread taken body => simp [reading, Reply.document_of_taken taken, body]
  | @silent r document taken body unstated =>
    have none : document.version?.filter (· != .empty) = none := by
      simpa [Json.version?_eq_some_iff] using unstated
    simp [reading, Reply.document_of_taken taken, body, none]
  | @stated r document version taken body states telling =>
    have some : document.version?.filter (· != .empty) = some version := by
      simp [Json.version?_eq_some_iff.2 states, telling]
    simp [reading, Reply.document_of_taken taken, body, some]

/-- The rules say what a query makes of a reply. -/
theorem queried_iff (reply : Reply) (outcome : Except Failure Version) :
    registry.Queried package reply outcome ↔ registry.reading package reply = outcome := by
  apply iff_eq_of_covered Queried.reading_eq
  cases reply with
  | fails fault => exact ⟨_, .raised⟩
  | answers r =>
    by_cases refuses : r.Refuses
    · obtain ⟨message, report⟩ := Response.accepted_of_refuses refuses (registry.latestUrl package)
      exact ⟨_, .refused refuses report⟩
    · cases body : r.document with
      | error fault => exact ⟨_, .unread refuses body⟩
      | ok document =>
        by_cases stated : ∃ version, document.States version ∧ version ≠ .empty
        · obtain ⟨version, states, telling⟩ := stated
          exact ⟨_, .stated refuses body states telling⟩
        · exact ⟨_, .silent refuses body (by simpa using stated)⟩

/-! ## Faults that leave a query -/

/-- What a request meets leaves the query as a fault: a foreign one is raised, or the reader of
an answer that is taken ends with one. -/
inductive Escapes : Reply → Fault → Prop
  | raised {fault : Fault} (foreign : fault.Foreign) : Escapes (.fails fault) fault
  | unread {r : Response} {fault : Fault} (taken : ¬ r.Refuses)
      (body : r.document = .error fault) (foreign : fault.Foreign) : Escapes (.answers r) fault

/-- A fault of a query is passed on if it is foreign, and reported as the cause otherwise. -/
theorem queryFailure_cases (package url : String) (fault : Fault) :
    (fault.Foreign ∧ queryFailure package url fault = .fault fault) ∨
      (¬ fault.Foreign ∧ ∃ report,
        queryFailure package url fault = .launch (.versionQuery package report (some fault))) := by
  rw [Fault.foreign_iff, queryFailure]
  cases fault.isRequestFault <;> cases fault.isValueFault <;>
    simp [QueryFlaw.toFailure, QueryFlaw.cause?]

theorem queryFailure_eq_fault_iff {package url : String} {fault fault' : Fault} :
    queryFailure package url fault = .fault fault' ↔ fault.Foreign ∧ fault = fault' := by
  rcases queryFailure_cases package url fault with ⟨foreign, same⟩ | ⟨native, _, same⟩
  · simp [same, foreign]
  · simp [same, native]

/-- A query ends with a fault exactly if what its request meets escapes. -/
theorem reading_eq_fault_iff {reply : Reply} {fault : Fault} :
    registry.reading package reply = .error (.fault fault) ↔ Escapes reply fault := by
  rw [← queried_iff]
  constructor
  · generalize ended : (Except.error (.fault fault) : Except Failure Version) = outcome
    intro h
    cases h with
    | raised =>
      obtain ⟨foreign, rfl⟩ := queryFailure_eq_fault_iff.1 (Except.error.inj ended).symm
      exact .raised foreign
    | refused _ _ | silent _ _ _ | stated _ _ _ _ => cases ended
    | unread taken body =>
      obtain ⟨foreign, rfl⟩ := queryFailure_eq_fault_iff.1 (Except.error.inj ended).symm
      exact .unread taken body foreign
  · intro escapes
    cases escapes with
    | raised foreign =>
      rw [← queryFailure_eq_fault_iff.2 ⟨foreign, rfl⟩]
      exact .raised
    | unread taken body foreign =>
      rw [← queryFailure_eq_fault_iff.2 ⟨foreign, rfl⟩]
      exact .unread taken body

/-- A query gives a version or reports a failure of its own, unless it ends with a fault. -/
theorem reading_cases (reply : Reply) :
    (∃ version, registry.reading package reply = .ok version) ∨
      (∃ report cause?, registry.reading package reply =
        .error (.launch (.versionQuery package report cause?))) ∨
      ∃ fault, registry.reading package reply = .error (.fault fault) := by
  have h := (registry.queried_iff package reply _).2 rfl
  generalize registry.reading package reply = outcome at h ⊢
  cases h with
  | raised | unread _ _ =>
    rcases queryFailure_cases package (registry.latestUrl package) _ with
      ⟨_, same⟩ | ⟨_, report, same⟩
    · exact .inr (.inr ⟨_, congrArg Except.error same⟩)
    · exact .inr (.inl ⟨report, _, congrArg Except.error same⟩)
  | refused _ _ | silent _ _ _ => exact .inr (.inl ⟨_, _, rfl⟩)
  | stated _ _ _ _ => exact .inl ⟨_, rfl⟩

/-- With a copy that is there, a query without a version gives the copy, unless what its request
meets escapes. -/
theorem outcome_ensured_of_reading (npm : Npm) {server : String} {workspace : Workspace}
    {reporter? : Option (Reporter σ)} {s : Session σ} {asked : World σ}
    (queries : Queries server workspace reporter? s asked)
    (copy : asked.disk.isFile workspace.entryScript = .ok true)
    (failed : ∀ version, registry.reading Server.package asked.nextReply ≠ .ok version) :
    let given :=
      ((ensureInstalled server workspace (Npm.source registry npm) reporter?).run s).outcome
    (given = .ok workspace.entryScript ↔ ∀ fault, ¬ Escapes asked.nextReply fault) ∧
      ∀ fault, given = .error (.fault fault) ↔ Escapes asked.nextReply fault := by
  intro given
  have asks : ((Npm.source registry npm).latest Server.package).run asked = ⟨_, _, _⟩ :=
    registry.run_latest Server.package asked
  simp only [← registry.reading_eq_fault_iff Server.package]
  rcases registry.reading_cases Server.package asked.nextReply with
    ⟨version, answered⟩ | ⟨report, cause?, reported⟩ | ⟨fault, escaped⟩
  · exact absurd answered (failed version)
  · rw [reported] at asks ⊢
    have same : given = .ok workspace.entryScript :=
      outcome_ensured_of_query queries asks copy
    simp [same]
  · rw [escaped] at asks ⊢
    have same : given = .error (.fault fault) :=
      outcome_ensured_of_query queries asks copy
    simp [same]

/-! ## What is reported -/

/-- **Which failures of a query are reported.** Whatever its request meets, a query gives a
version or fails with an error that says so and names the package, unless a foreign fault is
raised or the reader of the answer ends with one; then just this fault leaves the query. The
same decides whether a copy that is there makes up for a query without a version. -/
theorem latest_reported_iff (w : World σ) :
    let ended := ((registry.latest package).run w).outcome
    ((∃ version, ended = .ok version) ∨
        (∃ report cause?, ended = .error (.launch (.versionQuery package report cause?))) ↔
      ∀ fault, ¬ Escapes w.nextReply fault) ∧
    (∀ fault, ended = .error (.fault fault) ↔ Escapes w.nextReply fault) ∧
    ∀ (npm : Npm) (server : String) (workspace : Workspace) (reporter? : Option (Reporter σ))
      (s : Session σ) (asked : World σ),
      Queries server workspace reporter? s asked →
      asked.disk.isFile workspace.entryScript = .ok true →
      (∀ version, ((registry.latest Server.package).run asked).outcome ≠ .ok version) →
      let given :=
        ((ensureInstalled server workspace (Npm.source registry npm) reporter?).run s).outcome
      (given = .ok workspace.entryScript ↔ ∀ fault, ¬ Escapes asked.nextReply fault) ∧
        ∀ fault, given = .error (.fault fault) ↔ Escapes asked.nextReply fault := by
  intro ended
  refine ⟨?_, fun fault => ?_, ?_⟩
  · simp only [ended, run_latest, ← registry.reading_eq_fault_iff package]
    rcases registry.reading_cases package w.nextReply with
      ⟨version, same⟩ | ⟨report, cause?, same⟩ | ⟨fault, same⟩ <;> simp [same]
  · rw [← registry.reading_eq_fault_iff package]
    simp only [ended, run_latest]
  · intro npm server workspace reporter? s asked queries copy failed
    simp only [run_latest] at failed
    exact registry.outcome_ensured_of_reading npm queries copy failed

/-! ### Failures that are not reported -/

namespace Asked

/-- A session with a copy of the server whose next request meets a reply. -/
def session (reply : Reply) : Session Unit :=
  ⟨⟨{ Stale.machine with replies := [reply] }, ()⟩, false⟩

/-- The registry that is asked by default. -/
def standard : Registry := ⟨Server.defaultRegistry, .ofNat 30⟩

/-- An answer of nothing but brackets that open arrays, one more than may be open. -/
def brackets (depth : Nat) : Reply :=
  .answers (.declaredUtf8 depth 200 (some "OK") (List.replicate (depth + 1) 0x5B))

theorem escapes_brackets (depth : Nat) :
    Escapes (brackets depth) (.tooDeep Json.Container.array.tooDeepReport) := by
  have deep : Json.parse depth (Text.Utf8.decodeLossy (List.replicate (depth + 1) 0x5B)) =
      .error (.tooDeep .array) := by
    rw [Text.Utf8.decodeLossy_replicate (by decide)]
    simpa using Json.parse_brackets depth []
  refine .unread (by simp [Response.Refuses]) ?_ (.tooDeep _)
  rw [Response.declaredUtf8, Json.ofText, deep]
  rfl

end Asked

/-- No copy makes up for an answer that is nested too deeply. -/
theorem latest_reported_brackets :
    ((ensureInstalled Server.id Stale.workspace (Npm.source Asked.standard {}) none).run
      (Asked.session (Asked.brackets Depths.usual.documents))).outcome =
        .error (.fault (.tooDeep Json.Container.array.tooDeepReport)) := by
  have faults := latest_reported_iff Asked.standard Server.package
    (Asked.session (Asked.brackets Depths.usual.documents)).world
  have ended := (faults.2.1 _).2 (Asked.escapes_brackets _)
  refine ((faults.2.2 {} Server.id Stale.workspace none _ _ (.unproven (.inl rfl)) rfl ?_).2 _).2
    (Asked.escapes_brackets _)
  intro version answered
  exact nomatch ended.symm.trans answered

/-- A query does not report a fault of the system. -/
theorem latest_unreported :
    ¬ ∀ (registry : Registry) (package : String) (w : World Unit) (error : OsError),
        w.nextReply = .fails (.os error) →
        let ended := ((registry.latest package).run w).outcome
        (∃ version, ended = .ok version) ∨
          ∃ report cause?, ended = .error (.launch (.versionQuery package report cause?)) := by
  intro claim
  rcases claim Asked.standard Server.package
      (Asked.session (.fails (.os (.reported .general "no certificates")))).world _ rfl with
    ⟨_, ended⟩ | ⟨_, _, ended⟩ <;> cases ended

/-! ## Which answers are read -/

/-- A reply is read for the version that its document states, unless the server refuses. -/
theorem reading_eq_ok_iff {reply : Reply} {version : Version} :
    registry.reading package reply = .ok version ↔ ∃ r document, reply = .answers r ∧
      ¬ r.Refuses ∧ r.document = .ok document ∧ document.States version ∧ version ≠ .empty := by
  rw [← queried_iff]
  constructor
  · intro h
    cases h with
    | stated taken body states telling => exact ⟨_, _, rfl, taken, body, states, telling⟩
  · rintro ⟨r, document, rfl, taken, body, states, telling⟩
    exact .stated taken body states telling

/-- **When a query gives a version.** It does exactly if the server does not refuse and the body
of its answer is read as a document that states the version, which is not empty. Nothing else is
asked of the status. A refusal is reported as a failure of the exchange, whatever its body is. -/
theorem latest_eq_ok_iff (w : World σ) :
    let ended := ((registry.latest package).run w).outcome
    (∀ version, ended = .ok version ↔ ∃ r document, w.nextReply = .answers r ∧ ¬ r.Refuses ∧
      r.document = .ok document ∧ document.States version ∧ version ≠ .empty) ∧
    ∀ r, w.nextReply = .answers r → r.Refuses → ∃ message,
      ended = .error ((QueryFlaw.exchange (.transport .http message)).toFailure package
        (registry.latestUrl package)) := by
  intro ended
  simp only [ended, run_latest]
  constructor
  · exact fun version => registry.reading_eq_ok_iff package
  · intro r answered refuses
    obtain ⟨message, report⟩ := Response.accepted_of_refuses refuses (registry.latestUrl package)
    exact ⟨message, answered ▸ (Queried.refused refuses report).reading_eq⟩

namespace Asked

/-- An answer that states a version, with any status. -/
def answer (status : Int) : Response :=
  .declaredUtf8 Depths.usual.documents status none
    (Text.Utf8.encode "\x7b\"version\": \"1.10.4\"\x7d")

/-- The version is taken if the status is not one of a refusal. -/
theorem reading_answer {status : Int} (taken : ¬ (answer status).Refuses) :
    standard.reading Server.package (.answers (answer status)) = .ok (.ofText "1.10.4") := by
  have read : (answer status).document.toOption.bind Json.version? =
      some (.ofText "1.10.4") := by
    change (answer 200).document.toOption.bind Json.version? = _
    decide +kernel
  obtain ⟨document, body, stated⟩ := Option.bind_eq_some_iff.1 read
  exact (Queried.stated taken (toOption_eq_some_iff.1 body) (Json.version?_eq_some_iff.1 stated)
    (by decide)).reading_eq

end Asked

/-- A page that is not there gives no version, although it states one. -/
theorem latest_of_missing :
    ∃ message, ((Asked.standard.latest Server.package).run
      (Asked.session (.answers (Asked.answer 404))).world).outcome =
        .error ((QueryFlaw.exchange (.transport .http message)).toFailure Server.package
          (Asked.standard.latestUrl Server.package)) :=
  (latest_eq_ok_iff _ _ _).2 _ rfl (by simp [Response.Refuses, Asked.answer])

/-- A version is taken from an answer that is no success. -/
theorem latest_of_choices :
    ¬ ∀ (registry : Registry) (package : String) (w : World Unit) (r : Response),
        w.nextReply = .answers r → ¬ (200 ≤ r.status ∧ r.status < 300) →
        ∃ report cause?, ((registry.latest package).run w).outcome =
          .error (.launch (.versionQuery package report cause?)) := by
  intro claim
  obtain ⟨report, cause?, failed⟩ := claim Asked.standard Server.package
    (Asked.session (.answers (Asked.answer 300))).world (Asked.answer 300) rfl (by decide)
  rw [run_latest] at failed
  have given := @Asked.reading_answer 300 (by simp [Response.Refuses, Asked.answer])
  exact nomatch given.symm.trans failed

/-! ## Answers of success -/

/-- An answer that is taken and states no version is a failure of the query, and the fault that
its reader met is the cause. -/
theorem reading_of_unstated {r : Response} (taken : ¬ r.Refuses)
    (native : ∀ fault, r.document = .error fault → ¬ fault.Foreign)
    (unstated : ∀ document version, r.document = .ok document → document.States version →
      version = .empty) :
    ∃ report cause?,
      registry.reading package (.answers r) =
          .error (.launch (.versionQuery package report cause?)) ∧
        ∀ fault, cause? = some fault ↔ r.document = .error fault := by
  cases body : r.document with
  | error fault =>
    rcases queryFailure_cases package (registry.latestUrl package) fault with
      ⟨foreign, _⟩ | ⟨_, report, same⟩
    · exact absurd foreign (native fault body)
    · refine ⟨report, some fault, ?_, by simp⟩
      rw [← same, (Queried.unread taken body).reading_eq]
  | ok document =>
    refine ⟨_, none, (Queried.silent taken body (unstated document · body)).reading_eq, by simp⟩

/-- **What a success is read for.** A query that meets an answer of success makes one request, at
the address of the registry without the slashes at its end, and changes nothing else. It gives
the version that the body states, provided that the reader of the body fails in no other way
than by a fault of the exchange or of a value. If no version is stated, it fails with an error
that names the package and has the fault of the reader as its cause, if there is one. -/
theorem latest_of_success (address : String) (timeout : Number.Binary64) (w : World σ)
    {r : Response} (answered : w.nextReply = .answers r)
    (success : 200 ≤ r.status ∧ r.status < 300)
    (read : ∀ fault, r.document = .error fault →
      fault.isRequestFault = true ∨ fault.isValueFault = true) :
    let ended := ((ofText address timeout).latest package).run w
    ended.events =
        [.request (Text.dropTrailing '/' address ++ "/" ++ package ++ "/latest") timeout] ∧
      ended.final = { w with replies := w.replies.tail } ∧
      (∀ version, ended.outcome = .ok version ↔ ∃ document,
        r.document = .ok document ∧ document.States version ∧ version ≠ .empty) ∧
      ((∀ version, ended.outcome ≠ .ok version) → ∃ report cause?,
        ended.outcome = .error (.launch (.versionQuery package report cause?)) ∧
          ∀ fault, cause? = some fault ↔ r.document = .error fault) := by
  intro ended
  have taken : ¬ r.Refuses := by
    unfold Response.Refuses
    omega
  have given (version : Version) : ended.outcome = .ok version ↔ ∃ document,
      r.document = .ok document ∧ document.States version ∧ version ≠ .empty := by
    simp only [ended, run_latest, answered, reading_eq_ok_iff]
    constructor
    · rintro ⟨_, document, ⟨⟩, _, states⟩
      exact ⟨document, states⟩
    · rintro ⟨document, states⟩
      exact ⟨r, document, rfl, taken, states⟩
  refine ⟨?_, ?_, given, fun failed => ?_⟩
  · simp only [ended, run_latest]
    rfl
  · simp only [ended, run_latest]
  · have native (fault : Fault) (body : r.document = .error fault) : ¬ fault.Foreign := by
      rw [Fault.foreign_iff]
      rcases read fault body with known | known <;> simp [known]
    have unstated (document : Json) (version : Version) (body : r.document = .ok document)
        (states : document.States version) : version = .empty :=
      Decidable.byContradiction fun telling =>
        failed version ((given version).2 ⟨document, body, states, telling⟩)
    simpa only [ended, run_latest, answered] using
      (ofText address timeout).reading_of_unstated package taken native unstated

/-- An answer of success that names two versions. -/
def Asked.repeated : Response :=
  .declaredUtf8 Depths.usual.documents 203 none
    (Text.Utf8.encode "\x7b\"version\": 2, \"version\": \"1.10.4\"\x7d")

/-- The last of two versions is taken from an answer of success, and the slashes at the end of
the address are left away. -/
theorem latest_of_repeated :
    let ended := ((ofText "https://npm.example.com//" (.ofNat 30)).latest Server.package).run
      (Asked.session (.answers Asked.repeated)).world
    ended.outcome = .ok (.ofText "1.10.4") ∧
      ended.events =
        [.request "https://npm.example.com/intelephense/latest" (.ofNat 30)] := by
  have stated : Asked.repeated.document.toOption.bind Json.version? =
      some (.ofText "1.10.4") := by
    decide +kernel
  obtain ⟨document, body, states⟩ := Option.bind_eq_some_iff.1 stated
  rw [toOption_eq_some_iff] at body
  obtain ⟨events, _, given, _⟩ := latest_of_success Server.package "https://npm.example.com//"
    (.ofNat 30) (Asked.session (.answers Asked.repeated)).world rfl (by decide)
    (fun fault failed => nomatch body.symm.trans failed)
  refine ⟨(given _).2 ⟨document, body, Json.version?_eq_some_iff.1 states, by decide⟩, ?_⟩
  rw [events]
  decide +kernel

end Registry

end ServerLaunch
