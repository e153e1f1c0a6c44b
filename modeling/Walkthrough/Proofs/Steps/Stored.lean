import Walkthrough.Outside.Scripted
import Walkthrough.Proofs.Steps.Writes

/-!
# Which names have values

A step can give a value only to the name that it states, and only if its action captures one
(`Walkthrough.Step.keptNames`). So after steps that pass, no other names have values than those that
had one before and those that the steps keep (`Walkthrough.Play.kept_of_executeSteps`); and if all
answers of the API are records, all of these have one (`Walkthrough.Play.has_iff_of_records`).
-/

namespace Walkthrough

/-- The names that a step may store a value under: the one that it states, if its action captures
values. -/
def Step.keptNames (step : Step) : List String :=
  if step.action.capture?.isSome then step.storedNames else []

theorem Step.mem_keptNames_iff {step : Step} {name : String} :
    name ∈ step.keptNames ↔ step.action.capture?.isSome = true ∧ name ∈ step.storedNames := by
  rw [keptNames]
  split <;> simp [*]

theorem Step.mem_storedNames_iff {step : Step} {name : String} :
    name ∈ step.storedNames ↔ Details.present? step.details.storeAs = some name := by
  rw [storedNames, Option.mem_toList]

namespace HttpReply

/-- An answer that is an object with an identity. -/
def IsRecord (reply : HttpReply) : Prop :=
  ∃ fields id, reply.content = .ok (.object fields) ∧ Fields.get? "id" fields = some id ∧
    id ≠ .null ∧ id ≠ .text ""

/-- Whether an answer is an object with an identity. -/
def isRecord (reply : HttpReply) : Bool :=
  match reply.content with
  | .ok (.object fields) => (Fields.get? "id" fields).any Capture.isValue
  | _ => false

theorem isRecord_iff {reply : HttpReply} : reply.isRecord = true ↔ reply.IsRecord := by
  rw [isRecord, IsRecord]
  split
  · next fields content => simp [content, Option.any_eq_true, Capture.isValue_iff]
  · next other =>
      refine iff_of_false Bool.false_ne_true ?_
      rintro ⟨fields, _, content, -⟩
      exact other fields content

instance (reply : HttpReply) : Decidable reply.IsRecord :=
  decidable_of_iff (reply.isRecord = true) isRecord_iff

end HttpReply

namespace Capture

variable {fields : List (String × Json)} {names : List String} {value : Json}

theorem isValue_of_firstField (found : firstField fields names = some value) :
    isValue value = true := by
  obtain ⟨name, -, field⟩ := List.exists_of_findSome?_eq_some found
  exact (Option.filter_eq_some_iff.mp field).2

/-- A record yields a value, whatever name it is stored under. -/
theorem firstField_of_id (field : Fields.get? "id" fields = some value)
    (isValue : isValue value = true) (name : String) :
    ∃ captured, firstField fields [name, "id"] = some captured := by
  rw [← Option.isSome_iff_exists, firstField, List.findSome?_isSome_iff]
  exact ⟨"id", by simp, by rw [field, Option.filter_some, if_pos isValue]; rfl⟩

theorem value_of_record {action : Action} {capture : Json → String → Option Json}
    (captures : action.capture? = some capture) (field : Fields.get? "id" fields = some value)
    (isValue : isValue value = true) (name : String) :
    ∃ captured, capture (.object fields) name = some captured ∧
      Capture.isValue captured = true := by
  obtain ⟨captured, found⟩ := firstField_of_id field isValue name
  have kept := isValue_of_firstField found
  cases action with
  | apiLogin | apiGet =>
      cases captures
      exact ⟨captured, found, kept⟩
  | apiCreate | apiPost =>
      cases captures
      exact ⟨captured, by rw [ofCreated, found]; rfl, kept⟩
  | apiDelete | uiNavigate | uiLogin | uiClick | uiVerify | unknown => cases captures

end Capture

namespace Variables

variable {vars : Variables} {name : String}

theorem has_set (other : String) (value : Json) :
    (vars.set other value).has name = true ↔ vars.has name = true ∨ name = other := by
  rw [has, get?_set, has]
  by_cases same : name = other <;> simp [same]

theorem has_setAll_option (entry : Option (String × Json)) :
    (vars.setAll entry.toList).has name = true ↔
      vars.has name = true ∨ ∃ value, entry = some (name, value) := by
  cases entry with
  | none => simp [setAll]
  | some entry =>
      obtain ⟨other, value⟩ := entry
      have once : vars.setAll (some (other, value)).toList = vars.set other value := rfl
      rw [once, has_set]
      refine or_congr_right ⟨?_, ?_⟩
      · rintro rfl
        exact ⟨value, rfl⟩
      · rintro ⟨_, same⟩
        cases same
        rfl

end Variables

variable {σ : Type} [Outside σ]

/-- Whatever is asked of a world, all that its API answers is of one kind. -/
def Outside.Answers (kind : HttpReply → Prop) (world : σ) : Prop :=
  ∀ later, Outside.Later world later → ∀ method url timeout body reply,
    (Outside.reply (.request method url timeout body) later).1 = .ok reply → kind reply

theorem Outside.Answers.later {kind : HttpReply → Prop} {world later : σ}
    (answers : Outside.Answers kind world) (after : Outside.Later world later) :
    Outside.Answers kind later :=
  fun last further => answers last (after.trans further)

namespace Scripted

/-- A call takes replies away at most. -/
theorem replies_of_reply (call : Call) (world : Scripted) :
    (reply call world).2.replies <:+ world.replies := by
  have spent (name : String) : (world.spend name).replies = world.replies := by
    rw [spend]
    split <;> rfl
  have turned (name : String) (shown : List (String × ScriptedElement)) :
      (world.turn name shown).2.replies = world.replies := by
    simp only [turn]
    split <;> exact spent name
  cases call with
  | request =>
      simp only [reply, nextReply]
      split
      · exact List.suffix_rfl
      · next rest replies =>
          rw [replies]
          exact List.suffix_cons _ _
  | closeClient | locate | browser => exact List.suffix_rfl
  | goto | awaitIdle | screenshot =>
      simp only [reply, turned]
      exact List.suffix_rfl
  | element locator act =>
      simp only [reply, touch]
      split <;> simp only [withElements, spent] <;> exact List.suffix_rfl

theorem answers_of_replies {kind : HttpReply → Prop} {world : Scripted}
    (all : ∀ next ∈ world.replies, ∀ reply, next.result = .ok reply → kind reply) :
    Outside.Answers kind world := by
  intro later after method url timeout body reply answered
  have kept : later.replies <:+ world.replies := by
    clear answered
    induction after with
    | refl => exact List.suffix_rfl
    | tail _ next ih =>
        obtain ⟨call, rfl⟩ := next
        exact (replies_of_reply call _).trans ih
  cases replies : later.replies with
  | nil =>
      simp only [Outside.reply, Scripted.reply, nextReply, replies] at answered
      cases answered
  | cons next rest =>
      simp only [Outside.reply, Scripted.reply, nextReply, replies] at answered
      exact all next (kept.mem (replies ▸ List.mem_cons_self)) reply answered

end Scripted

namespace Step

variable {step : Step} {session : Session σ} {name : String}

theorem keeps_of_written {value : Json} (writes : step.written? session = some (name, value)) :
    name ∈ step.keptNames := by
  obtain ⟨body, -, writes⟩ := Option.bind_eq_some_iff.mp writes
  obtain ⟨capture, captures, stated, some, -⟩ := captured?_eq_some_iff.mp writes
  rw [mem_keptNames_iff, captures, mem_storedNames_iff, Details.present?, stated]
  exact ⟨rfl, by simp [Option.filter_some, some]⟩

/-- A step writes a value under each name that it may store one under, if its answer is one to a
record. -/
theorem written?_of_answer {body : Json} (kept : name ∈ step.keptNames)
    (answer : step.answer? session = some body)
    (records : Outside.Answers HttpReply.IsRecord session.outside) :
    ∃ value, step.written? session = some (name, value) := by
  obtain ⟨method, -, answered⟩ := Option.bind_eq_some_iff.mp answer
  obtain ⟨endpoint, -, answered⟩ := Option.bind_eq_some_iff.mp answered
  obtain ⟨expanded, -, answered⟩ := Option.bind_eq_some_iff.mp answered
  obtain ⟨url, -, answered⟩ := Option.bind_eq_some_iff.mp answered
  obtain ⟨reply, replied, read⟩ := Option.bind_eq_some_iff.mp answered
  have replied : (Outside.reply (.request method url session.client.timeout none)
      session.outside).1 = .ok reply := by
    revert replied
    cases (Outside.reply (.request method url session.client.timeout none) session.outside).1 <;>
      simp [Except.toOption]
  obtain ⟨fields, id, content, field, isValue⟩ :=
    records session.outside .refl method url _ none reply replied
  obtain rfl : body = .object fields := by
    rw [content] at read
    simpa [Except.toOption] using read.symm
  obtain ⟨captures, stored⟩ := mem_keptNames_iff.mp kept
  obtain ⟨capture, captures⟩ := Option.isSome_iff_exists.mp captures
  obtain ⟨value, captured, isValue⟩ :=
    Capture.value_of_record captures field (Capture.isValue_iff.mpr isValue) name
  refine ⟨value, ?_⟩
  rw [written?, answer, Option.bind_some, captured?, captures, Option.bind_some,
    mem_storedNames_iff.mp stored, Option.bind_some, captured, Option.filter_some, if_pos isValue]
  rfl

end Step

namespace Play

variable {step : Step} {before : List Step} {session after : Session σ} {name : String}

theorem usesApi_of_capture (captures : step.action.capture?.isSome = true) :
    step.action.usesApi = true := by
  cases action : step.action <;> simp_all [Action.usesApi, Action.capture?]

/-- A step of the API that passes has got an answer. -/
theorem answer_of_executeStep {report : StepReport} (api : step.action.usesApi = true)
    (passed : executeStep step session = (.ok report, after)) :
    ∃ body, step.answer? session = some body := by
  obtain ⟨notes, stopped, carried⟩ := carryOut_of_executeStep passed
  have ends := carryOut_requests api (announced step session)
  rw [carried] at ends
  cases ends with
  | answered _ _ answer => exact ⟨_, answer⟩

/-- After a step that passes, the names with a value are those from before and the one that the step
writes. -/
theorem has_of_executeStep {report : StepReport}
    (passed : executeStep step session = (.ok report, after)) :
    after.vars.has name = true ↔
      session.vars.has name = true ∨ ∃ value, step.written? session = some (name, value) := by
  have leaves := executeStep_writes step session
  rw [passed] at leaves
  rw [show after.vars = _ from leaves, Variables.has_setAll_option]

/-- A step leaves a world that calls have made of the one before. -/
theorem executeStep_later (step : Step) (session : Session σ) :
    Outside.Later session.outside (executeStep step session).2.outside := by
  obtain ⟨reports, log, after⟩ := executeStep_after step session
  rw [after]
  exact ((carryOut_within session.client step).allows (announced step session) rfl).1.outside

/-- After steps that pass, only names have a value that had one before or that a step may store one
under. -/
theorem kept_of_executeSteps (passed : executeSteps before session = (.ok (), after))
    (has : after.vars.has name = true) :
    session.vars.has name = true ∨ name ∈ before.flatMap Step.keptNames := by
  induction before generalizing session with
  | nil =>
      cases passed
      exact .inl has
  | cons step rest ih =>
      rw [List.flatMap_cons, List.mem_append]
      obtain ⟨report, middle, first, passed⟩ := passed_of_executeSteps_cons passed
      rcases ih passed with early | later
      · rcases (has_of_executeStep first).mp early with known | ⟨value, writes⟩
        · exact .inl known
        · exact .inr (.inl (Step.keeps_of_written writes))
      · exact .inr (.inr later)

theorem has_of_executeSteps (passed : executeSteps before session = (.ok (), after))
    (has : session.vars.has name = true) : after.vars.has name = true := by
  induction before generalizing session with
  | nil =>
      cases passed
      exact has
  | cons step rest ih =>
      obtain ⟨report, middle, first, passed⟩ := passed_of_executeSteps_cons passed
      exact ih passed ((has_of_executeStep first).mpr (.inl has))

/-- If all answers of the API are records, the names with a value after steps that pass are those
from before and those that the steps keep. -/
theorem has_iff_of_records (passed : executeSteps before session = (.ok (), after))
    (records : Outside.Answers HttpReply.IsRecord session.outside) :
    after.vars.has name = true ↔
      session.vars.has name = true ∨ name ∈ before.flatMap Step.keptNames := by
  refine ⟨kept_of_executeSteps passed, ?_⟩
  rintro (known | kept)
  · exact has_of_executeSteps passed known
  · induction before generalizing session with
    | nil => cases kept
    | cons step rest ih =>
        obtain ⟨report, middle, first, passed⟩ := passed_of_executeSteps_cons passed
        rw [List.flatMap_cons, List.mem_append] at kept
        rcases kept with own | later
        · have api := usesApi_of_capture (Step.mem_keptNames_iff.mp own).1
          obtain ⟨body, answer⟩ := answer_of_executeStep api first
          have writes := Step.written?_of_answer own answer records
          exact has_of_executeSteps passed ((has_of_executeStep first).mpr (.inr writes))
        · have further := executeStep_later step session
          rw [first] at further
          exact ih passed (records.later further) later

end Play

end Walkthrough
