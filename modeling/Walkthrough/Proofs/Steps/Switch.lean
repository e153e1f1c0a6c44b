import Walkthrough.Proofs.Session.Confined
import Walkthrough.Proofs.Steps.Reports

/-!
# The switch of healing

Healing is switched on when a session begins, at any time after, or by a prompt that is loaded, and
nothing switches it off. What is said of a single use of a session is carried over to all that can
be done with it, in any order, whatever fails by the way (`Walkthrough.Play.afterAll_healing`).
-/

namespace Walkthrough

/-- What can be done with a session: healing is switched on, a prompt is loaded from its text or
from its file on the disk as it is by then, or the prompt or a single step is executed. -/
inductive Session.Use where
  | enable
  | loadText (text : String)
  | loadFile (disk : Disk) (name : String) (path : Path)
  | execute
  | executeStep (step : Step)

namespace Session.Use

/-- What a use reads if it loads a prompt. -/
def document? : Session.Use → Option (Except LoadFault Document)
  | loadText text => some ((Document.ofText text).mapError .longOrdinal)
  | loadFile disk _ path => some (disk.document path)
  | _ => none

/-- Whether a use switches healing on: by itself, or by the directive of a prompt that it loads. -/
def SwitchesOn (use : Session.Use) : Prop :=
  use = enable ∨
    ∃ document, use.document? = some (.ok document) ∧ document.selfHealing = some true

/-- Whether a use executes something, so that elements are looked up. -/
def executes : Session.Use → Bool
  | execute | executeStep _ => true
  | _ => false

end Session.Use

variable {σ : Type}

/-- The healer of a session with one attached if there is a page for it. -/
def Session.attached (session : Session σ) : Option Healer :=
  if session.page.isSome then some (session.healer.getD { strategies := Strategy.standard })
  else session.healer

/-- A session in which healing is on, with a healer for its page. -/
def Session.healing (session : Session σ) : Session σ :=
  { session with selfHealing := true, healer := session.attached }

/-- Whether loading a document switches healing on that is off. -/
def Session.switchedBy (session : Session σ) (document : Document) : Bool :=
  document.selfHealing = some true && !session.selfHealing

/-- A session whose prompt is a document, without reports; the directive of the document may switch
healing on. -/
def Session.loaded (session : Session σ) (document : Document) : Session σ :=
  { session with
    document
    reports := []
    selfHealing := session.selfHealing || session.switchedBy document
    healer := if session.switchedBy document then session.attached else session.healer }

/-- What every use keeps of a session: its page, the switch if it is on, and a healer that is
attached, with the records that it has. -/
structure Session.Stays (session after : Session σ) : Prop where
  page : after.page = session.page
  switch : session.selfHealing = true → after.selfHealing = true
  healer : ∀ healer, session.healer = some healer →
    ∃ later, after.healer = some later ∧ healer.GoesOn later

theorem Session.stays_order : Session.Onward (Session.Stays : Session σ → Session σ → Prop) where
  refl session := ⟨rfl, id, fun healer attached => ⟨healer, attached, .refl healer⟩⟩
  trans before after := by
    refine ⟨after.page.trans before.page, fun on => after.switch (before.switch on), ?_⟩
    intro healer attached
    obtain ⟨middle, attachedMiddle, early⟩ := before.healer healer attached
    obtain ⟨later, attachedLater, late⟩ := after.healer middle attachedMiddle
    exact ⟨later, attachedLater, early.trans late⟩

/-- A session that has a healer for its page if healing is on. -/
def Session.Equipped (session : Session σ) : Prop :=
  session.selfHealing = true → session.page.isSome = true → session.healer.isSome = true

theorem Session.attached_of_some {session : Session σ} {healer : Healer}
    (has : session.healer = some healer) : session.attached = some healer := by
  simp [Session.attached, has]

theorem Session.healing_equipped (session : Session σ) : session.healing.Equipped := by
  intro _ (paged : session.page.isSome = true)
  simp [Session.healing, Session.attached, paged]

namespace Play

section Switching

theorem attachHealer_apply (session : Session σ) :
    ∃ log, attachHealer session =
      (.ok (), { session with healer := session.attached, log }) := by
  rw [attachHealer, bind_apply_of_ok (get_apply session)]
  by_cases attaches : (session.page.isSome && session.healer.isNone) = true
  · have attached : session.attached = some { strategies := Strategy.standard } := by
      rw [Bool.and_eq_true, Option.isNone_iff_eq_none] at attaches
      simp [Session.attached, attaches]
    rw [if_pos attaches, attached]
    exact ⟨_, bind_apply_of_ok (set_apply _ session) _⟩
  · have stays : session.attached = session.healer := by
      cases has : session.healer with
      | none => simp_all [Session.attached]
      | some healer => exact Session.attached_of_some has
    rw [if_neg attaches, stays]
    exact ⟨session.log, rfl⟩

theorem enableHealing_apply (session : Session σ) :
    ∃ log, enableHealing session = (.ok (), { session.healing with log }) := by
  obtain ⟨log, attached⟩ := attachHealer_apply { session with selfHealing := true }
  exact ⟨_, (bind_apply_of_ok (modify_apply _ session) _).trans (bind_apply_of_ok attached _)⟩

theorem load_apply (document : Document) (session : Session σ) :
    ∃ log, load document session = (.ok document, { session.loaded document with log }) := by
  have rest (middle : Session σ) : ∃ log, (do
      noteMisses document.misses
      note .info .steps s!"Parsed {document.steps.length} steps"
      return document : Play σ Document) middle = (.ok document, { middle with log }) := by
    obtain ⟨_, log, noted⟩ := noteMisses_silent document.misses middle
    exact ⟨_, bind_apply_of_ok noted _⟩
  rw [load, bind_apply_of_ok (modify_apply _ session), bind_apply_of_ok (get_apply _)]
  split
  · next switches =>
      have loaded : session.loaded document =
          { session.healing with document, reports := [] } := by
        have switched : session.switchedBy document = true := switches
        simp only [Session.loaded, Session.healing, switched, Bool.or_true, if_true]
      obtain ⟨_, enabled⟩ := enableHealing_apply { session with
        document, reports := []
        log := session.log ++ [⟨.info, .steps, "Self-Healing detected in prompt: ENABLED"⟩] }
      obtain ⟨log, ended⟩ := rest _
      rw [loaded, bind_apply_of_ok (note_apply _ _ _ _)]
      exact ⟨log, (bind_apply_of_ok enabled _).trans ended⟩
  · next stays =>
      have loaded : session.loaded document = { session with document, reports := [] } := by
        have unswitched : session.switchedBy document = false := Bool.not_eq_true _ ▸ stays
        simp only [Session.loaded, unswitched, Bool.or_false, Bool.false_eq_true, if_false]
      rw [loaded]
      exact rest _

theorem loadText_of_ok {text : String} {document : Document}
    (read : Document.ofText text = .ok document) (session : Session σ) :
    ∃ log, loadText text session = (.ok document, { session.loaded document with log }) := by
  rw [loadText, read]
  exact load_apply document session

theorem loadFile_of_ok {path : Path} {document : Document} {session : Session σ}
    (read : session.disk.document path = .ok document) (name : String) :
    ∃ log, loadFile name path session = (.ok document, { session.loaded document with log }) := by
  rw [loadFile, bind_apply_of_ok (note_apply _ _ _ _), bind_apply_of_ok (get_apply _)]
  simp only [read]
  exact load_apply document _

theorem loadFile_refused {path : Path} {fault : LoadFault} {session : Session σ}
    (refused : session.disk.document path = .error fault) (name : String) :
    ∃ log, loadFile name path session = (.error (.load fault), { session with log }) := by
  rw [loadFile, bind_apply_of_ok (note_apply _ _ _ _), bind_apply_of_ok (get_apply _)]
  simp only [refused]
  exact ⟨_, rfl⟩

end Switching

section Working

/-- What executing steps keeps of a session. -/
def KeepsSwitch (session after : Session σ) : Prop :=
  (after.page = session.page ∧ after.selfHealing = session.selfHealing) ∧
    Healer.Kept session.healer after.healer

theorem keepsSwitch_order : Session.Onward (KeepsSwitch : Session σ → Session σ → Prop) :=
  .and (.and (.view (·.page)) (.view (·.selfHealing)))
    ⟨fun session => .refl session.healer, Healer.Kept.trans⟩

theorem KeepsSwitch.stays {session after : Session σ} (keeps : KeepsSwitch session after) :
    session.Stays after := by
  obtain ⟨⟨page, switch⟩, kept⟩ := keeps
  refine ⟨page, switch.trans, fun healer attached => ?_⟩
  rw [attached] at kept
  cases has : after.healer with
  | none =>
      rw [has] at kept
      cases kept
  | some later =>
      rw [has] at kept
      cases kept with
      | some goesOn => exact ⟨later, rfl, goesOn⟩

variable [Outside σ]

theorem executeStep_keepsSwitch (step : Step) :
    Confined KeepsSwitch (fun _ => True) (executeStep step : Play σ StepReport) := by
  refine ⟨fun session => ?_, fun _ _ _ => trivial⟩
  obtain ⟨reports, log, after⟩ := executeStep_after step session
  have frame := carryOut_frame step (announced step session)
  rw [after]
  exact ⟨⟨frame.page, frame.selfHealing⟩, frame.healer⟩

theorem execute_keepsSwitch :
    Confined KeepsSwitch (fun _ => True) (execute : Play σ (List StepReport)) :=
  execute_confined keepsSwitch_order (fun _ _ => ⟨⟨rfl, rfl⟩, .refl _⟩) executeStep_keepsSwitch

end Working

end Play

section Using

variable [Outside σ]

/-- Makes use of a session; the prompt, if the use loads one. -/
def Session.Use.play : Session.Use → Play σ (Option Document)
  | enable => do
    Play.enableHealing
    return none
  | loadText text => return some (← Play.loadText text)
  | loadFile disk name path => do
    modify fun session => { session with disk }
    return some (← Play.loadFile name path)
  | execute => do
    let _ ← Play.execute
    return none
  | executeStep step => do
    let _ ← Play.executeStep step
    return none

namespace Session.Use

open Play

/-- A use that executes something loads no prompt. -/
theorem document?_of_executes {use : Session.Use} (executes : use.executes = true) :
    use.document? = none := by
  cases use with
  | execute => rfl
  | executeStep step => rfl
  | enable => cases executes
  | loadText text => cases executes
  | loadFile disk name path => cases executes

/-- A load that reads a document makes it the prompt; one that fails leaves the session as it is,
but for the log and whatever became of the disk. -/
theorem play_of_read {use : Session.Use} {read : Except LoadFault Document}
    (reads : use.document? = some read) (session : Session σ) :
    ∃ log disk, use.play session = match read with
      | .ok document => (.ok (some document), { session.loaded document with log, disk })
      | .error fault => (.error (.load fault), { session with log, disk }) := by
  cases use with
  | loadText text =>
      obtain rfl := Option.some.inj reads
      cases ended : Document.ofText text with
      | ok document =>
          obtain ⟨log, loaded⟩ := loadText_of_ok ended session
          exact ⟨log, session.disk, bind_apply_of_ok loaded _⟩
      | error fault =>
          have refused : Play.loadText text session =
              (.error (.load (.longOrdinal fault)), session) := by
            rw [Play.loadText, ended]
            rfl
          exact ⟨session.log, session.disk, bind_apply_of_error refused _⟩
  | loadFile disk name path =>
      have ended : ({ session with disk } : Session σ).disk.document path = read :=
        Option.some.inj reads
      have turned := modify_apply (fun session : Session σ => { session with disk }) session
      cases read with
      | ok document =>
          obtain ⟨log, loaded⟩ := loadFile_of_ok ended name
          exact ⟨log, disk, (bind_apply_of_ok turned _).trans (bind_apply_of_ok loaded _)⟩
      | error fault =>
          obtain ⟨log, refused⟩ := loadFile_refused ended name
          exact ⟨log, disk, (bind_apply_of_ok turned _).trans (bind_apply_of_error refused _)⟩
  | enable => cases reads
  | execute => cases reads
  | executeStep step => cases reads

/-- How a use of a session ends, and what it leads to. -/
inductive Leads : Session.Use → Session σ → Except Fault (Option Document) × Session σ → Prop
  | enables {session : Session σ} (log : List LogLine) :
      Leads enable session (.ok none, { session.healing with log })
  | loads {use : Session.Use} {session : Session σ} {document : Document} (log : List LogLine)
      (disk : Disk) : use.document? = some (.ok document) →
      Leads use session (.ok (some document), { session.loaded document with log, disk })
  | refuses {use : Session.Use} {session : Session σ} {fault : LoadFault} (log : List LogLine)
      (disk : Disk) : use.document? = some (.error fault) →
      Leads use session (.error (.load fault), { session with log, disk })
  | works {use : Session.Use} {session after : Session σ} (ended : Except Fault (Option Document)) :
      use.executes = true → KeepsSwitch session after → Leads use session (ended, after)

theorem play_leads (use : Session.Use) (session : Session σ) :
    Leads use session (use.play session) := by
  have order := keepsSwitch_order (σ := σ)
  cases reads : use.document? with
  | some read =>
      obtain ⟨log, disk, ended⟩ := play_of_read reads session
      rw [ended]
      cases read with
      | ok document => exact .loads log disk reads
      | error fault => exact .refuses log disk reads
  | none =>
      cases use with
      | enable =>
          obtain ⟨log, enabled⟩ := enableHealing_apply session
          rw [show enable.play session = _ from bind_apply_of_ok enabled _]
          exact .enables log
      | execute =>
          have kept := execute_keepsSwitch.bind order fun _ => .pure order (none : Option Document)
          exact .works _ rfl (kept.leads session)
      | executeStep step =>
          have kept := (executeStep_keepsSwitch step).bind order fun _ =>
            .pure order (none : Option Document)
          exact .works _ rfl (kept.leads session)
      | loadText text => cases reads
      | loadFile disk name path => cases reads

end Session.Use

/-- A session for a new run, with healing on if it is asked for. -/
def Session.begun (session : Session σ) (requested : Bool) : Session σ :=
  let fresh := { session with document := {}, reports := [], selfHealing := false }
  if requested then (Play.enableHealing fresh).2 else fresh

/-- The session after several uses, of which any may fail. -/
def Session.afterAll (session : Session σ) (uses : List Session.Use) : Session σ :=
  uses.foldl (fun reached use => (use.play reached).2) session

namespace Session

variable {session : Session σ}

theorem stays_of_use (use : Session.Use) (session : Session σ) :
    session.Stays (use.play session).2 := by
  have leads := use.play_leads session
  generalize use.play session = ended at leads
  cases leads with
  | enables log =>
      exact ⟨rfl, fun _ => rfl, fun healer has => ⟨healer, attached_of_some has, .refl healer⟩⟩
  | @loads _ _ document log disk reads =>
      refine ⟨rfl, fun on => ?_, fun healer has => ⟨healer, ?_, .refl healer⟩⟩
      · simp [loaded, on]
      · simp [loaded, attached_of_some has, has]
  | refuses log disk reads => exact ⟨rfl, id, fun healer has => ⟨healer, has, .refl healer⟩⟩
  | works ended executes kept => exact kept.stays

/-- A use leaves healing on exactly if it was on, or if the use switches it on. -/
theorem selfHealing_of_use (use : Session.Use) (session : Session σ) :
    (use.play session).2.selfHealing = true ↔ session.selfHealing = true ∨ use.SwitchesOn := by
  have leads := use.play_leads session
  generalize use.play session = ended at leads
  cases leads with
  | enables log => exact iff_of_true rfl (.inr (.inl rfl))
  | @loads _ _ document log disk reads =>
      have switches : use.SwitchesOn ↔ document.selfHealing = some true := by
        constructor
        · rintro (rfl | ⟨other, same, switch⟩)
          · cases reads
          · rw [reads] at same
            cases same
            exact switch
        · exact fun switch => .inr ⟨document, reads, switch⟩
      rw [switches]
      cases on : session.selfHealing <;> simp [loaded, switchedBy, on]
  | refuses log disk reads =>
      refine ⟨.inl, ?_⟩
      rintro (on | rfl | ⟨document, same, -⟩)
      · exact on
      · cases reads
      · rw [reads] at same
        cases same
  | works ended executes kept =>
      rw [kept.1.2]
      refine ⟨.inl, ?_⟩
      rintro (on | rfl | ⟨document, same, -⟩)
      · exact on
      · cases executes
      · rw [use.document?_of_executes executes] at same
        cases same

theorem equipped_of_use (equipped : session.Equipped) (use : Session.Use) :
    (use.play session).2.Equipped := by
  have leads := use.play_leads session
  generalize use.play session = ended at leads
  cases leads with
  | enables log => exact session.healing_equipped
  | @loads _ _ document log disk reads =>
      intro on paged
      by_cases switched : session.switchedBy document = true
      · have attaches : session.attached.isSome = true := session.healing_equipped rfl paged
        simpa [loaded, switched] using attaches
      · simp only [loaded, switched, Bool.or_false] at on ⊢
        exact equipped on paged
  | refuses log disk reads => exact equipped
  | works ended executes kept =>
      intro on paged
      rw [kept.1.2] at on
      rw [kept.1.1] at paged
      obtain ⟨healer, has⟩ := Option.isSome_iff_exists.mp (equipped on paged)
      obtain ⟨later, hasLater, -⟩ := kept.stays.healer healer has
      rw [hasLater]
      rfl

theorem afterAll_append (session : Session σ) (before after : List Session.Use) :
    session.afterAll (before ++ after) = (session.afterAll before).afterAll after :=
  List.foldl_append

theorem afterAll_stays (session : Session σ) (uses : List Session.Use) :
    session.Stays (session.afterAll uses) := by
  induction uses generalizing session with
  | nil => exact stays_order.refl session
  | cons use rest ih => exact stays_order.trans (stays_of_use use session) (ih _)

theorem afterAll_equipped (equipped : session.Equipped) (uses : List Session.Use) :
    (session.afterAll uses).Equipped := by
  induction uses generalizing session with
  | nil => exact equipped
  | cons use rest ih => exact ih (equipped_of_use equipped use)

theorem afterAll_selfHealing_iff (session : Session σ) (uses : List Session.Use) :
    (session.afterAll uses).selfHealing = true ↔
      session.selfHealing = true ∨ ∃ use ∈ uses, use.SwitchesOn := by
  induction uses generalizing session with
  | nil => simp [afterAll]
  | cons use rest ih =>
      calc
        (session.afterAll (use :: rest)).selfHealing = true ↔
            (use.play session).2.selfHealing = true ∨ ∃ later ∈ rest, later.SwitchesOn := ih _
        _ ↔ (session.selfHealing = true ∨ use.SwitchesOn) ∨ ∃ later ∈ rest, later.SwitchesOn := by
          rw [selfHealing_of_use]
        _ ↔ session.selfHealing = true ∨ ∃ any ∈ use :: rest, any.SwitchesOn := by
          simp only [or_assoc, List.mem_cons, exists_eq_or_imp]

omit [Outside σ] in
/-- A new run has a healer for its page if healing is asked for, and healing is on only then. -/
theorem begun_switch (session : Session σ) (requested : Bool) :
    (session.begun requested).selfHealing = requested ∧ (session.begun requested).Equipped := by
  cases requested with
  | false => exact ⟨rfl, by rintro ⟨⟩⟩
  | true =>
      let fresh : Session σ :=
        { session with document := {}, reports := [], selfHealing := false }
      obtain ⟨log, enabled⟩ := Play.enableHealing_apply fresh
      have begun : session.begun true = { fresh.healing with log } := congrArg Prod.snd enabled
      rw [begun]
      exact ⟨rfl, fresh.healing_equipped⟩

/-- **Healing is never switched off.** Whatever is done with a run, in any order and whatever
fails, healing is on exactly if it was asked for at the beginning or something done since switched
it on, and then the page, if there is one, has a healer. From any moment to any later one, the page
stays, healing stays on, and a healer stays attached, with its records and more behind them; unless
something is executed, it stays just as it is. A prompt is loaded exactly if it can be read, and if
not, the prompt, the reports, the switch, the healer and the variables are those of before. -/
theorem afterAll_healing (session : Session σ) (requested : Bool) (uses : List Session.Use) :
    (((session.begun requested).afterAll uses).selfHealing = true ↔
      requested = true ∨ ∃ any ∈ uses, any.SwitchesOn) ∧
    (((session.begun requested).afterAll uses).selfHealing = true →
      ((session.begun requested).afterAll uses).page.isSome = true →
      ((session.begun requested).afterAll uses).healer.isSome = true) ∧
    (∀ before after, uses = before ++ after →
      ((session.begun requested).afterAll before).Stays
        ((session.begun requested).afterAll uses)) ∧
    ∀ (now : Session σ) (next : Session.Use),
      (next.executes = false → ∀ healer, now.healer = some healer →
        (next.play now).2.healer = some healer) ∧
      match next.document? with
      | some (.ok document) =>
        (next.play now).1 = .ok (some document) ∧ (next.play now).2.document = document
      | some (.error fault) =>
        (next.play now).1 = .error (.load fault) ∧
          (next.play now).2.document = now.document ∧ (next.play now).2.reports = now.reports ∧
          (next.play now).2.selfHealing = now.selfHealing ∧
          (next.play now).2.healer = now.healer ∧ (next.play now).2.vars = now.vars
      | none => True := by
  obtain ⟨switch, equipped⟩ := session.begun_switch requested
  refine ⟨?_, afterAll_equipped equipped uses, ?_, fun now next => ?_⟩
  · rw [afterAll_selfHealing_iff, switch]
  · rintro before after rfl
    rw [afterAll_append]
    exact afterAll_stays _ after
  have leads := next.play_leads now
  generalize next.play now = ended at leads
  constructor
  · intro still healer has
    cases leads with
    | enables log => exact attached_of_some has
    | loads log disk reads => simp [loaded, attached_of_some has, has]
    | refuses log disk reads => exact has
    | works ended executes kept =>
        rw [still] at executes
        cases executes
  · cases leads with
    | enables log => trivial
    | loads log disk reads =>
        rw [reads]
        exact ⟨rfl, rfl⟩
    | refuses log disk reads =>
        rw [reads]
        exact ⟨rfl, rfl, rfl, rfl, rfl, rfl⟩
    | works ended executes kept =>
        rw [next.document?_of_executes executes]
        trivial

end Session

end Using

end Walkthrough
