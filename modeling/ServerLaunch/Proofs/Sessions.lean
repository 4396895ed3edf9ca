import ServerLaunch.Proofs.Dialogue
import ServerLaunch.Proofs.Launching

/-!
# Sessions

One extension serves any number of requests. Between two requests the machine and the
settings may change at will; what stays is the memory of the source and whether the server
was confirmed. Whatever the order of the requests, the registry is asked only where nothing
is confirmed yet or the script is gone, and then once.

## Main definitions

* `Request`: what a host asks for, and what happened since it last asked.
* `Call`: a request as it meets a session.
* `Extension.history`, `Extension.after`: the calls of a run, and the session it ends in.
* `Call.Contacts`, `Call.Ensures`: a call asks the source, and its provisioning succeeds.
* `Call.Sparing`: a call asks the source only as needed.

**Main statements.** A session is confirmed at the end of a run if it was at the start or
some call ensured the script (`Extension.after_confirmed_iff`), and every call is sparing
(`Call.sparing`).
-/
namespace ServerLaunch

variable {σ : Type}

/-! ## Counting calls -/

namespace Event

/-- A question for the latest version. -/
def isQuery : Event → Bool
  | latest _ => true
  | _ => false

/-- An installation. -/
def isInstallation : Event → Bool
  | install .. => true
  | _ => false

/-- A call to the source. -/
def isContact : Event → Bool
  | latest _ | installed .. | install .. => true
  | _ => false

theorem isContact_of_isQuery {event : Event} (h : event.isQuery = true) :
    event.isContact = true := by
  cases event with
  | latest _ => rfl
  | status _ _ | installed _ _ | install _ _ _ | request _ _ | process _ _ => cases h

theorem isContact_of_isInstallation {event : Event} (h : event.isInstallation = true) :
    event.isContact = true := by
  cases event with
  | install _ _ _ => rfl
  | status _ _ | latest _ | installed _ _ | request _ _ | process _ _ => cases h

end Event

/-- Telling the host is no call to the source. -/
theorem isContact_of_mem_told {server : String} {reporter? : Option (Reporter σ)}
    {status : Status} {event : Event} (h : event ∈ told server reporter? status) :
    event.isContact = false := by
  cases reporter? with
  | none => cases h
  | some reporter =>
    simp only [told, List.mem_singleton] at h
    rw [h]
    rfl

/-- A class of calls does not occur in what the host is told. -/
theorem countP_told {test : Event → Bool}
    (calls : ∀ event, test event = true → event.isContact = true) (server : String)
    (reporter? : Option (Reporter σ)) (status : Status) :
    (told server reporter? status).countP test = 0 := by
  rw [List.countP_eq_zero]
  intro event told_of holds
  have contact := calls event holds
  simp [isContact_of_mem_told told_of] at contact

namespace Dialogue

variable (d : Dialogue) (server : String) (reporter? : Option (Reporter σ)) (root : String)

/-- A dialogue asks for the latest version once. -/
theorem countP_isQuery :
    (d.events (told server reporter?) root).countP Event.isQuery = 1 := by
  have quiet : ∀ status, (told server reporter? status).countP Event.isQuery = 0 :=
    countP_told (fun _ => Event.isContact_of_isQuery) server reporter?
  obtain ⟨compares, installs?, fails⟩ := d
  cases compares <;> cases installs? <;> cases fails <;>
    simp [events, quiet, List.countP_cons, Event.isQuery]

/-- A dialogue installs at most once. -/
theorem countP_isInstallation_le :
    (d.events (told server reporter?) root).countP Event.isInstallation ≤ 1 := by
  have quiet : ∀ status, (told server reporter? status).countP Event.isInstallation = 0 :=
    countP_told (fun _ => Event.isContact_of_isInstallation) server reporter?
  obtain ⟨compares, installs?, fails⟩ := d
  cases compares <;> cases installs? <;> cases fails <;>
    simp [events, quiet, List.countP_cons, Event.isInstallation]

/-- A dialogue begins by asking for the latest version. -/
theorem latest_mem_events :
    Event.latest Server.package ∈ d.events (told server reporter?) root := by
  simp [events]

end Dialogue

/-! ## Runs -/

/-- A request for a descriptor. The machine may have changed since the last one, and other
settings may hold. -/
structure Request where
  since : Machine → Machine
  settings : Settings
  server : String
  workspace : Workspace

/-- A request as it meets a session: the extension with the settings of the moment, and the
session before the call. -/
structure Call (σ : Type) where
  extension : Extension σ
  server : String
  workspace : Workspace
  before : Session σ

namespace Call

variable (c : Call σ)

/-- What comes of a call. -/
def run : Run (Session σ) Descriptor := (c.extension.command c.server c.workspace).run c.before

/-- The reports and the calls to the source that a call makes, in order. -/
def seen : List Event := c.extension.calls c.server c.workspace c.before

/-- A call asks the source for anything. -/
def Contacts : Prop := ∃ event ∈ c.seen, event.isContact = true

/-- What comes of provisioning, if a call comes to it. -/
def ensured : Run (Session σ) Path :=
  (ensureInstalled c.server c.workspace c.extension.source c.extension.reporter?).run c.before

/-- A call comes to provisioning, and that succeeds. The call may still fail. -/
def Ensures : Prop :=
  c.extension.Provisions c.server c.workspace c.before ∧
    ∃ script, c.ensured.outcome = .ok script

/-- A call asks the source only as needed. A look for the script that fails itself counts
as trust, since the call then fails without a question. -/
structure Sparing : Prop where
  keeps : c.before.confirmed = true → c.run.final.confirmed = true
  contacts_iff : c.Contacts ↔
    c.server = Server.id ∧
    c.workspace.find? c.before.world.toMachine c.server = none ∧
    c.extension.settings.autoInstall = true ∧
    ¬ (c.before.confirmed = true ∧
      c.before.world.disk.isFile c.workspace.entryScript ≠ .ok false)
  once : c.Contacts →
    c.seen.countP Event.isQuery = 1 ∧ c.seen.countP Event.isInstallation ≤ 1
  quiet : ¬ c.Contacts → c.seen = [] ∧ c.run.final = c.before

end Call

namespace Extension

variable (e : Extension σ)

/-- The call that a request amounts to in a session. -/
def meet (s : Session σ) (request : Request) : Call σ where
  extension := { e with settings := request.settings }
  server := request.server
  workspace := request.workspace
  before :=
    { s with world := { s.world with toMachine := request.since s.world.toMachine } }

/-- The calls of a run, in order. -/
def history (s : Session σ) : List Request → List (Call σ)
  | [] => []
  | request :: rest =>
    e.meet s request :: history (e.meet s request).run.final rest

/-- The session after a run. -/
def after (s : Session σ) : List Request → Session σ
  | [] => s
  | request :: rest => after (e.meet s request).run.final rest

@[simp] theorem after_nil (s : Session σ) : e.after s [] = s := rfl

@[simp] theorem after_cons (s : Session σ) (request : Request) (rest : List Request) :
    e.after s (request :: rest) = e.after (e.meet s request).run.final rest := rfl

@[simp] theorem history_nil (s : Session σ) : e.history s [] = [] := rfl

@[simp] theorem history_cons (s : Session σ) (request : Request) (rest : List Request) :
    e.history s (request :: rest) =
      e.meet s request :: e.history (e.meet s request).run.final rest := rfl

/-- A run that goes on goes on from where it was. -/
theorem after_append (s : Session σ) (requests more : List Request) :
    e.after s (requests ++ more) = e.after (e.after s requests) more := by
  induction requests generalizing s with
  | nil => rfl
  | cons request rest ih => simp [ih]

/-- What happens between requests does not touch the confirmation. -/
@[simp] theorem confirmed_before_meet (s : Session σ) (request : Request) :
    (e.meet s request).before.confirmed = s.confirmed := rfl

end Extension

/-! ## One call -/

namespace Call

variable (c : Call σ)

/-- A call that does not come to provisioning is not seen and leaves the session alone. -/
theorem quiet_of_not_provisions
    (idle : ¬ c.extension.Provisions c.server c.workspace c.before) :
    c.seen = [] ∧ c.run.final = c.before :=
  ⟨((c.extension.watched.launched_run c.server c.workspace c.before).quiet idle).2,
    ((c.extension.launched_run c.server c.workspace c.before).quiet idle).1⟩

/-- A call that comes to provisioning leaves what that leaves. -/
theorem final_of_provisions
    (provisions : c.extension.Provisions c.server c.workspace c.before) :
    c.run.final = c.ensured.final :=
  ((c.extension.launched_run c.server c.workspace c.before).of_provisions provisions).1

/-- A call that comes to provisioning is seen as that is. -/
theorem seen_of_provisions
    (provisions : c.extension.Provisions c.server c.workspace c.before) :
    c.seen = provisionCalls c.server c.workspace c.extension.source c.extension.reporter?
      c.before :=
  ((c.extension.watched.launched_run c.server c.workspace c.before).of_provisions provisions).2

/-- A call is not seen and leaves the session alone, or what is seen of it is a dialogue;
that is so if it comes to provisioning and nothing is proven. -/
theorem cases_seen :
    (¬ (c.extension.Provisions c.server c.workspace c.before ∧
        c.before.Unproven c.workspace) ∧ c.seen = [] ∧ c.run.final = c.before) ∨
      ((c.extension.Provisions c.server c.workspace c.before ∧
        c.before.Unproven c.workspace) ∧ ∃ d : Dialogue,
          c.seen = d.events (told c.server c.extension.reporter?) c.workspace.root) := by
  by_cases provisions : c.extension.Provisions c.server c.workspace c.before
  · rw [c.seen_of_provisions provisions, c.final_of_provisions provisions]
    rcases provisionCalls_cases c.server c.workspace c.extension.source c.extension.reporter?
      c.before with ⟨proven, silent, same⟩ | ⟨unproven, d, events, _, _⟩
    · exact .inl ⟨fun both => proven both.2, silent, same⟩
    · exact .inr ⟨⟨provisions, unproven⟩, d, events⟩
  · exact .inl ⟨fun both => provisions both.1, c.quiet_of_not_provisions provisions⟩

/-- A call that is not seen makes no call to the source. -/
theorem not_contacts (silent : c.seen = []) : ¬ c.Contacts := by
  rintro ⟨event, seen, _⟩
  rw [silent] at seen
  cases seen

/-- A call that is seen as a dialogue asks the source. -/
theorem contacts_of_dialogue {d : Dialogue} {server root : String}
    {reporter? : Option (Reporter σ)} (seen : c.seen = d.events (told server reporter?) root) :
    c.Contacts := by
  refine ⟨.latest Server.package, ?_, rfl⟩
  rw [seen]
  exact d.latest_mem_events server reporter? root

/-- A session is confirmed after a call if it was before or the call ensured the script. -/
theorem confirmed_iff :
    c.run.final.confirmed = true ↔ c.before.confirmed = true ∨ c.Ensures := by
  by_cases provisions : c.extension.Provisions c.server c.workspace c.before
  · have step := (ensured_run c.server c.workspace c.extension.source c.extension.reporter?
      c.before).confirmed_iff
    rw [c.final_of_provisions provisions, Ensures]
    simpa only [provisions, true_and, ensured] using step
  · rw [(c.quiet_of_not_provisions provisions).2, Ensures]
    simp [provisions]

/-- When a call comes to a check, in terms of what it meets. -/
theorem checks_iff :
    (c.extension.Provisions c.server c.workspace c.before ∧ c.before.Unproven c.workspace) ↔
      c.server = Server.id ∧
      c.workspace.find? c.before.world.toMachine c.server = none ∧
      c.extension.settings.autoInstall = true ∧
      ¬ (c.before.confirmed = true ∧
        c.before.world.disk.isFile c.workspace.entryScript ≠ .ok false) := by
  rw [Extension.Provisions, ← Session.not_unproven_iff, Classical.not_not, and_assoc, and_assoc]

/-- Every call asks the source only as needed. -/
theorem sparing : c.Sparing := by
  have keeps := fun confirmed => c.confirmed_iff.2 (.inl confirmed)
  rcases c.cases_seen with ⟨unneeded, silent, same⟩ | ⟨need, d, seen⟩
  · have untouched := c.not_contacts silent
    exact {
      keeps := keeps
      contacts_iff := by rw [← c.checks_iff]; exact iff_of_false untouched unneeded
      once := fun contact => absurd contact untouched
      quiet := fun _ => ⟨silent, same⟩ }
  · have contact := c.contacts_of_dialogue seen
    exact {
      keeps := keeps
      contacts_iff := by rw [← c.checks_iff]; exact iff_of_true contact need
      once := fun _ => by
        rw [seen]
        exact ⟨d.countP_isQuery _ _ _, d.countP_isInstallation_le _ _ _⟩
      quiet := fun untouched => absurd contact untouched }

end Call

/-! ## Whole runs -/

namespace Extension

variable (e : Extension σ)

/-- A session is confirmed after a run if it was before or some call ensured the script. -/
theorem after_confirmed_iff (s : Session σ) (requests : List Request) :
    (e.after s requests).confirmed = true ↔
      s.confirmed = true ∨ ∃ call ∈ e.history s requests, call.Ensures := by
  -- The induction is on the first request: what it leaves is where the rest starts.
  induction requests generalizing s with
  | nil => simp
  | cons request rest ih =>
    rw [after_cons, ih, Call.confirmed_iff, confirmed_before_meet, history_cons]
    simp only [List.mem_cons, exists_eq_or_imp, or_assoc]

/-- **What a run asks of the source.** Whatever happens between the requests, a session that
is confirmed stays so; it is confirmed at the end of a run exactly if it was at the start or
the provisioning of some call succeeded, even if that call failed; and every call asks the
source only as needed. -/
theorem history_sparing (s : Session σ) (requests : List Request) :
    (∀ more, (e.after s requests).confirmed = true →
        (e.after s (requests ++ more)).confirmed = true) ∧
      ((e.after s requests).confirmed = true ↔
        s.confirmed = true ∨ ∃ call ∈ e.history s requests, call.Ensures) ∧
      ∀ call ∈ e.history s requests, call.Sparing := by
  refine ⟨?_, e.after_confirmed_iff s requests, fun call _ => call.sparing⟩
  intro more confirmed
  rw [after_append, after_confirmed_iff]
  exact .inl confirmed

end Extension

end ServerLaunch
