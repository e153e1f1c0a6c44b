import Walkthrough.Proofs.Healing.Resolve
import Walkthrough.Proofs.Outside.Recorded
import Walkthrough.Proofs.Outside.Steady

/-!
# Healing where nothing is broken

As long as every reference leads to elements itself, a run with a healer is the run without one:
the healer only counts elements and takes the first of them. That is shown for two runs from the
same session, of which the one with the healer is written down
(`Walkthrough.Play.execute_transparent`).
-/

namespace Walkthrough

/-- A locator without any choice of a first element. -/
def Locator.unmarked : Locator → Locator
  | selector expression => selector expression
  | role kind name => role kind name
  | withText text => withText text
  | within outer expression => within outer.unmarked expression
  | first elements => elements.unmarked
  | row table index => row table.unmarked index

theorem Locator.SamePart.unmarked {part other : Locator} (same : SamePart part other) :
    part.unmarked = other.unmarked := by
  induction same with
  | within table expression => rfl
  | row same index ih => rw [Locator.unmarked, Locator.unmarked, ih]

/-- What a call does to the world outside, apart from making a locator or counting elements and
whatever first elements it is done to. -/
def Call.unmarked? : Call → Option Call
  | locate _ | element _ .count => none
  | element locator act => some (element locator.unmarked act)
  | other => some other

/-- A report without the time that its step took. -/
def StepReport.untimed (report : StepReport) : StepReport :=
  { report with seconds := .int 0 }

/-- What a healer asks about a reference is answered as hoped: the page makes the locator, and it
matches something. Candidates in its place are asked about only after it was not. -/
def Exchange.isSatisfied : Exchange → Bool
  | ⟨.locate (.selector _), answer⟩ => answer.isOk
  | ⟨.element (.selector _) .count, answer⟩ =>
    match answer with
    | .ok count => 0 < count
    | .error _ => false
  | _ => true

variable {σ τ : Type}

/-- Two sessions, with a healer and without one, that did the same so far but for marks and the time
it took, and worlds that count as the same. The healer has the given records. -/
structure Session.DidAlike (same : σ → τ → Prop) (records : List HealingRecord)
    (session : Session σ) (other : Session τ) : Prop where
  outside : same session.outside other.outside
  calls : session.calls.filterMap Call.unmarked? = other.calls.filterMap Call.unmarked?
  vars : session.vars = other.vars
  client : session.client = other.client
  page : session.page = other.page
  healer : session.healer.map (·.records) = some records
  none : other.healer = none
  reports : session.reports.map StepReport.untimed = other.reports.map StepReport.untimed

/-- Some reference was not answered as hoped. -/
def Recorded.Broken (recorded : Recorded σ) : Prop :=
  ∃ exchange ∈ recorded.heard, exchange.isSatisfied = false

/-- A pairing of no sessions, for what stays broken in a single run. -/
def Pairing.broken : Pairing (Recorded σ) (Recorded σ) where
  alike _ _ := False
  excused := Recorded.Broken

/-- The pairing of a run with a healer and a run without one. A reference that is broken excuses the
second run. -/
def Pairing.healing (same : σ → σ → Prop) (records : List HealingRecord) :
    Pairing (Recorded σ) σ where
  alike := Session.DidAlike (fun recorded world => same recorded.world world) records
  excused := Recorded.Broken

variable [Outside σ]

namespace Play

open Outside (SameReply)

section Lasting

/-- A broken reference stays broken. -/
theorem ask_lasts (call : Call) (session : Session (Recorded σ)) (broken : session.outside.Broken) :
    (ask call session).2.outside.Broken := by
  obtain ⟨exchange, member, missed⟩ := broken
  rw [ask_apply, Recorded.Broken, Recorded.reply_heard]
  exact ⟨exchange, List.mem_append_left _ member, missed⟩

theorem broken_faithful : (Pairing.broken : Pairing (Recorded σ) (Recorded σ)).Faithful where
  vars := False.elim
  client := False.elim
  page := False.elim
  healer := False.elim
  logged := False.elim
  written := False.elim
  asks call := ⟨ask_lasts call, fun _ _ => False.elim⟩
  now := ⟨fun _ broken => broken, fun _ _ => False.elim⟩
  remembers _ := ⟨fun _ broken => broken, fun _ _ => False.elim⟩

/-- Where nothing is broken afterwards, the call was answered as hoped. -/
theorem satisfied_of_ask {call : Call} {session : Session (Recorded σ)}
    (intact : ¬ (ask call session).2.outside.Broken) :
    Exchange.isSatisfied ⟨call, (Outside.reply call session.outside.world).1⟩ = true := by
  by_contra missed
  refine intact ?_
  rw [ask_apply, Recorded.Broken, Recorded.reply_heard]
  exact ⟨_, List.mem_append_right _ List.mem_cons_self, Bool.eq_false_iff.mpr missed⟩

theorem locate_of_intact {reference : String} {session : Session (Recorded σ)}
    (intact : ¬ (ask (.locate (.selector reference)) session).2.outside.Broken) :
    (Outside.reply (.locate (.selector reference)) session.outside.world).1 = .ok () := by
  have satisfied := satisfied_of_ask intact
  generalize (Outside.reply (.locate (.selector reference)) session.outside.world).1 = answer at *
  cases answer with
  | ok value => rfl
  | error mishap => cases satisfied

theorem finds_of_intact {reference : String} {session : Session (Recorded σ)}
    (intact : ¬ (ask (.element (.selector reference) .count) session).2.outside.Broken) :
    Outside.Finds session.outside.world (.selector reference) := by
  have satisfied := satisfied_of_ask intact
  rw [Outside.Finds]
  generalize (Outside.reply (.element (.selector reference) .count) session.outside.world).1 =
    answer at *
  cases answer with
  | ok count => exact ⟨count, rfl, of_decide_eq_true satisfied⟩
  | error mishap => cases satisfied

end Lasting

section Alike

variable {same : σ → σ → Prop} {records : List HealingRecord} {session : Session (Recorded σ)}
  {other : Session σ}

omit [Outside σ] in
theorem filterMap_traced (call : Call) :
    ([call].filter (·.isTraced)).filterMap Call.unmarked? = call.unmarked?.toList := by
  cases call with
  | element locator act => cases act <;> rfl
  | _ => rfl

/-- Calls that do the same leave sessions alike. -/
theorem asked_alike (alike : (Pairing.healing same records).alike session other) {call made : Call}
    (world : same (Outside.reply call session.outside.world).2
      (Outside.reply made other.outside).2)
    (unmarked : call.unmarked? = made.unmarked?) :
    (Pairing.healing same records).alike (ask call session).2 (ask made other).2 := by
  rw [ask_apply, ask_apply]
  refine { alike with outside := world, calls := ?_ }
  rw [List.filterMap_append, List.filterMap_append, filterMap_traced, filterMap_traced, unmarked,
    alike.calls]

theorem acts_alike (alike : (Pairing.healing same records).alike session other)
    {locator bare : Locator} {done : ElementAct}
    (replies : SameReply same (Outside.reply (.element locator done) session.outside.world)
      (Outside.reply (.element bare done) other.outside))
    (unmarked : locator.unmarked = bare.unmarked) :
    EndsAlike Eq (act locator done session).1 (act bare done other).1 ∧
      (Pairing.healing same records).alike (act locator done session).2
        (act bare done other).2 := by
  refine ⟨?_, asked_alike alike replies.world ?_⟩
  · rw [act, act, ask_apply, ask_apply]
    exact EndsAlike.of_eq (congrArg (Except.mapError Fault.outside) replies.answer)
  · cases done <;> simp only [Call.unmarked?, unmarked]

/-- Both runs have the element of a reference: with a healer it is the first, and there are elements
at that moment. -/
structure Found (same : σ → σ → Prop) (records : List HealingRecord) (reference : String)
    (after : Session (Recorded σ)) (otherAfter : Session σ) : Prop where
  alike : (Pairing.healing same records).alike after otherAfter
  finds : Outside.Finds after.outside.world (.selector reference)

theorem ask_of_answer {τ : Type} [Outside τ] {call : Call} {value : call.Answer}
    {session : Session τ} (answer : (Outside.reply call session.outside).1 = .ok value) :
    ask call session = (.ok value, (ask call session).2) := by
  rw [ask_apply, answer]
  rfl

/-- Unless a reference is broken, counting its elements differs from making its locator only in
that. -/
theorem probe_found (steady : Outside.Steady same) {reference : String}
    (alike : (Pairing.healing same records).alike session other)
    (intact : ¬ (probe (.selector reference) session).2.outside.Broken) :
    ∃ count after otherAfter, 0 < count ∧
      probe (.selector reference) session = (.ok count, after) ∧
      locate (.selector reference) other = (.ok (.selector reference), otherAfter) ∧
      Found same records reference after otherAfter := by
  have intactLocated : ¬ (ask (.locate (.selector reference)) session).2.outside.Broken := by
    intro broken
    have lasts (found : Locator) (middle : Session (Recorded σ)) :
        middle.outside.Broken → (act found .count middle).2.outside.Broken :=
      ask_lasts (.element found .count) middle
    exact intact (Parallel.lasts_bind lasts (Parallel.lasts_bind (fun _ _ broken => broken) broken))
  -- Both runs make the locator; only the one with the healer goes on to count.
  have located := locate_of_intact intactLocated
  have replies := steady.replies alike.outside (.locate (.selector reference))
  have alikeLocated := asked_alike alike replies.world rfl
  have asked : ask (.locate (.selector reference)) session = (.ok (), _) := ask_of_answer located
  have otherAsked := ask_of_answer (replies.answer.symm.trans located)
  generalize (ask (.locate (.selector reference)) session).2 = middle at asked alikeLocated
  generalize (ask (.locate (.selector reference)) other).2 = otherMiddle at otherAsked alikeLocated
  have probed : probe (.selector reference) session =
      ask (.element (.selector reference) .count) middle :=
    bind_apply_of_ok (bind_apply_of_ok asked _) _
  rw [probed] at intact ⊢
  obtain ⟨count, counted, positive⟩ := finds_of_intact intact
  have unchanged := steady.counting (.selector reference) middle.outside.world
  refine ⟨count, _, otherMiddle, positive, ask_of_answer counted,
    bind_apply_of_ok otherAsked _, ?_, ?_⟩
  · rw [ask_apply]
    refine { alikeLocated with
      outside := steady.equivalence.trans unchanged alikeLocated.outside, calls := ?_ }
    rw [List.filterMap_append, filterMap_traced]
    exact (List.append_nil _).trans alikeLocated.calls
  · rw [ask_apply]
    exact ⟨count, (steady.replies unchanged _).answer.trans counted, positive⟩

theorem resolvePrimary_found (steady : Outside.Steady same) {reference : String}
    (alike : (Pairing.healing same records).alike session other)
    (intact : ¬ (resolvePrimary reference session).2.outside.Broken) :
    ∃ after otherAfter,
      resolvePrimary reference session = (.ok (some (.first (.selector reference))), after) ∧
      locate (.selector reference) other = (.ok (.selector reference), otherAfter) ∧
      Found same records reference after otherAfter := by
  have note_lasts (fault : Fault) (middle : Session (Recorded σ)) (broken : middle.outside.Broken) :
      ((do
        note .debug .healing s!"Primary selector errored: {reference} ({fault.message})"
        return none : Play (Recorded σ) (Option Locator)) middle).2.outside.Broken := broken
  have count_lasts (count : Int) (middle : Session (Recorded σ)) (broken : middle.outside.Broken) :
      ((if 0 < count then do
          note .info .healing s!"Primary selector worked: {reference}"
          return some (.first (.selector reference))
        else return none : Play (Recorded σ) (Option Locator)) middle).2.outside.Broken := by
    split
    · exact broken
    · exact broken
  have intactProbe : ¬ (probe (.selector reference) session).2.outside.Broken := fun broken =>
    intact (Parallel.lasts_recover note_lasts (Parallel.lasts_bind count_lasts broken))
  obtain ⟨count, after, otherAfter, positive, probed, located, found⟩ :=
    probe_found steady alike intactProbe
  refine ⟨{ after with
    log := after.log ++ [⟨.info, .healing, s!"Primary selector worked: {reference}"⟩] }, otherAfter,
    recover_apply_of_ok ((bind_apply_of_ok probed _).trans ?_) _, located,
    { found with alike := { found.alike with } }⟩
  rw [if_pos positive]
  exact bind_apply_of_ok (note_apply _ _ _ after) _

/-- Unless a reference is broken, a look-up ends with its first element. -/
theorem resolve_found (steady : Outside.Steady same) (strategies : List Strategy)
    {reference : String} (description : String)
    (alike : (Pairing.healing same records).alike session other)
    (intact : ¬ (resolve strategies reference description session).2.outside.Broken) :
    ∃ after otherAfter,
      resolve strategies reference description session =
        (.ok (.first (.selector reference)), after) ∧
      locate (.selector reference) other = (.ok (.selector reference), otherAfter) ∧
      Found same records reference after otherAfter := by
  obtain ⟨log, resolved⟩ := resolve_apply strategies reference description session
  have alikeReady : (Pairing.healing same records).alike { session with
      log, healer := session.healer.map fun healer => { healer with attempts := [] } } other :=
    { alike with healer := (Option.map_map ..).trans alike.healer }
  rw [resolved] at intact ⊢
  have fallback := tryStrategies_parallel (broken_faithful (σ := σ)).guided reference description 1
    strategies
  -- What follows the reference itself leaves what is broken broken.
  have intactPrimary := fun broken => intact <| Parallel.lasts_bind (by
    intro primary middle broken
    cases primary with
    | some element => exact broken
    | none => exact fallback.lasts _ broken) broken
  obtain ⟨after, otherAfter, primary, located, found⟩ :=
    resolvePrimary_found steady alikeReady intactPrimary
  exact ⟨after, otherAfter, bind_apply_of_ok primary _, located, found⟩

end Alike

section LookingUp

variable {reference : String} {session : Session σ}

theorem element_of_some {healer : Healer} (has : session.healer = some healer) :
    element reference session = resolve healer.strategies reference reference session := by
  rw [element_eq, bind_apply_of_ok (get_apply session), has, lookUp]

theorem element_of_none (none : session.healer = none)
    (direct : Locator.ofReference reference = .selector reference) :
    element reference session = locate (.selector reference) session := by
  rw [element_eq, bind_apply_of_ok (get_apply session), none, lookUp, direct]

theorem tableRows_of_some {healer : Healer} (has : session.healer = some healer) :
    tableRows reference session =
      (resolve healer.strategies reference reference >>= rowsOf) session := by
  rw [tableRows_eq, bind_apply_of_ok (get_apply session), has, lookUp]

theorem tableRows_of_none (none : session.healer = none) :
    tableRows reference session = (locate (.selector reference) >>= rowsOf) session := by
  rw [tableRows_eq, bind_apply_of_ok (get_apply session), none, lookUp]

end LookingUp

section Pairing

variable {same : σ → σ → Prop} (steady : Outside.Steady same) (records : List HealingRecord)

include steady

theorem healing_responsive : (Pairing.healing same records).Responsive where
  vars alike := alike.vars
  client alike := congrArg Client.unowned alike.client
  page alike := alike.page
  logged alike _ _ := { alike with }
  written alike _ := { alike with vars := rfl }
  asks call := by
    refine ⟨fun session => ask_lasts call session, fun session other alike => ?_⟩
    have replies := steady.replies alike.outside call
    refine .inr ⟨?_, asked_alike alike replies.world rfl⟩
    rw [ask_apply, ask_apply]
    exact EndsAlike.of_eq (congrArg (Except.mapError Fault.outside) replies.answer)

/-- An element that was looked up is touched alike in both runs. -/
theorem touches_parallel {reference : String} {done : ElementAct}
    (direct : Locator.ofReference reference = .selector reference) (touches : done.isTouch = true) :
    Parallel (Pairing.healing same records) Eq (do act (← element reference) done)
      (do act (← element reference) done) := by
  refine ⟨((broken_faithful (σ := σ)).fair.touches reference done direct touches).lasts, ?_⟩
  intro session other alike
  by_cases broken : ((do act (← element reference) done) session).2.outside.Broken
  · exact .inl broken
  obtain ⟨healer, has, -⟩ := Option.map_eq_some_iff.mp alike.healer
  have lasts (found : Locator) (middle : Session (Recorded σ)) :
      middle.outside.Broken → (act found done middle).2.outside.Broken :=
    ask_lasts (.element found done) middle
  have intact : ¬ (resolve healer.strategies reference reference session).2.outside.Broken := by
    rw [← element_of_some has]
    exact fun early => broken (Parallel.lasts_bind lasts early)
  obtain ⟨after, otherAfter, resolved, located, found⟩ := resolve_found steady _ _ alike intact
  rw [← element_of_some has] at resolved
  rw [← element_of_none alike.none direct] at located
  rw [bind_apply_of_ok resolved, bind_apply_of_ok located]
  -- There are elements at the moment of the touch, so that a failure cannot show the mark.
  have first := steady.first found.finds done touches
  have later := steady.replies found.alike.outside (.element (.selector reference) done)
  exact .inr (acts_alike found.alike
    ⟨first.answer.trans later.answer, steady.equivalence.trans first.world later.world⟩ rfl)

theorem act_parallel_of_samePart {part bare : Locator} (samePart : Locator.SamePart part bare)
    (done : ElementAct) :
    Parallel (Pairing.healing same records) Eq (act part done) (act bare done) := by
  refine ⟨fun session => ask_lasts _ session, fun session other alike => ?_⟩
  have replies := steady.parts samePart done session.outside.world
  have later := steady.replies alike.outside (.element bare done)
  exact .inr (acts_alike alike
    ⟨replies.answer.trans later.answer, steady.equivalence.trans replies.world later.world⟩
    samePart.unmarked)

/-- The rows of a table are the rows of the first of its elements. -/
theorem rowsOf_parallel (table : Locator) :
    Parallel (Pairing.healing same records)
      (List.Forall₂ (Pairing.healing same records).SameRow) (rowsOf (.first table))
      (rowsOf table) := by
  refine .andThen (act_parallel_of_samePart steady records (.within table "tr") .rows)
    fun count => .pure ?_
  refine List.forall₂_map_left_iff.mpr (List.forall₂_map_right_iff.mpr ?_)
  exact List.forall₂_same.mpr fun index _ =>
    act_parallel_of_samePart steady records (.row (.within table "tr") index) .textContent

theorem rows_parallel (reference : String) :
    Parallel (Pairing.healing same records)
      (List.Forall₂ (Pairing.healing same records).SameRow) (tableRows reference)
      (tableRows reference) := by
  refine ⟨((broken_faithful (σ := σ)).fair.rows reference).lasts, ?_⟩
  intro session other alike
  by_cases broken : (tableRows reference session).2.outside.Broken
  · exact .inl broken
  obtain ⟨healer, has, -⟩ := Option.map_eq_some_iff.mp alike.healer
  have lasts (table : Locator) (middle : Session (Recorded σ)) :
      middle.outside.Broken → (rowsOf table middle).2.outside.Broken :=
    Parallel.lasts_bind (fun _ _ later => later) ∘ ask_lasts (.element (.within table "tr") .rows) _
  rw [tableRows_of_some has] at broken ⊢
  have intact : ¬ (resolve healer.strategies reference reference session).2.outside.Broken :=
    fun early => broken (Parallel.lasts_bind lasts early)
  obtain ⟨after, otherAfter, resolved, located, found⟩ := resolve_found steady _ _ alike intact
  rw [tableRows_of_none alike.none, bind_apply_of_ok resolved, bind_apply_of_ok located]
  exact (rowsOf_parallel steady records (.selector reference)).goes _ _ found.alike

theorem healing_reporting : (Pairing.healing same records).Reporting where
  toResponsive := healing_responsive steady records
  touches _ _ := touches_parallel steady records
  rows := rows_parallel steady records
  reported start alike step passed error notes := by
    refine { alike with reports := ?_ }
    simp only [List.map_append, List.map_cons, List.map_nil, alike.reports, StepReport.untimed,
      StepReport.between]

end Pairing

end Play

/-- The session with a healer. -/
def Session.healed (session : Session σ) (healer : Healer) : Session σ :=
  { session with healer := some healer, selfHealing := true }

/-- The session without a healer. -/
def Session.unhealed (session : Session σ) : Session σ :=
  { session with healer := none, selfHealing := false }

namespace Play

/-- **Healing where nothing is broken changes nothing.** On a steady page, if every reference that
is looked up in a run with a healer leads to elements itself, the run without one from the same
session raises the same fault, or ends with reports that differ in their durations at most. It makes
the same calls but for counting and for marks of first elements, and leaves the same variables. The
healer records nothing. -/
theorem execute_transparent {same : σ → σ → Prop} (steady : Outside.Steady same) (healer : Healer)
    (session : Session σ)
    (satisfied : ∀ exchange ∈ (execute (session.healed healer).recorded).2.outside.heard,
      exchange.isSatisfied = true) :
    EndsAlike (fun reports others =>
        reports.map StepReport.untimed = others.map StepReport.untimed)
      (execute (session.healed healer)).1 (execute session.unhealed).1 ∧
    Session.DidAlike same healer.records (execute (session.healed healer)).2
      (execute session.unhealed).2 := by
  have begun : (Pairing.healing same healer.records).alike (session.healed healer).recorded
      session.unhealed :=
    ⟨steady.equivalence.refl _, rfl, rfl, rfl, rfl, rfl, rfl, rfl⟩
  obtain ⟨ended, written⟩ := execute_recorded (session.healed healer)
  rcases execute_parallel (healing_reporting steady healer.records) begun rfl with
    ⟨exchange, member, missed⟩ | ⟨ends, alike⟩
  · rw [satisfied exchange member] at missed
    cases missed
  · rw [ended] at ends
    refine ⟨ends.imp fun reports others own => ?_, ?_⟩
    · rw [own.1, own.2]
      exact alike.reports
    · refine ⟨?_, ?_, ?_, ?_, ?_, ?_, alike.none, ?_⟩
      · rw [← written.outside]
        exact alike.outside
      · rw [← written.calls]
        exact alike.calls
      · rw [← written.vars]
        exact alike.vars
      · rw [← written.client]
        exact alike.client
      · rw [← written.page]
        exact alike.page
      · rw [← written.healer]
        exact alike.healer
      · rw [← List.nil_append (execute (session.healed healer)).2.reports, ← written.reports]
        exact alike.reports

/-- A login and a check of a table, which a click puts on the page. The field for the name is there
twice, and counting takes half a second. -/
theorem execute_transparent_login :
    let page : List (String × ScriptedElement) :=
      [("input[name=\"username\"]", { count := 2 }), ("input[name=\"password\"]", {}),
        ("role=button[name=Submit]", { onClick :=
          [("table", {}), ("table >> tr", { rows := [.text none, .text (some "Account 7")] })] })]
    let login : Step := ⟨1, "Login via the UI", .uiLogin,
      { username := some "john", password := some "demo" }⟩
    let check : Step := ⟨2, "Check the account", .uiVerify,
      { rawText := "Check that **accountId** is listed" }⟩
    let session : Session Scripted :=
      { outside := { elements := page, seconds := [("count", 0.5)] }, page := some {}
        vars := { entries := [("accountId", .number (.int 7))] }
        document := { steps := [login, check] } }
    let healer : Healer := { strategies := Strategy.standard }
    (execute (session.healed healer)).2.calls.length = 9 ∧
      (execute session.unhealed).2.calls.length = 6 ∧
      (∀ exchange ∈ (execute (session.healed healer).recorded).2.outside.heard,
        exchange.isSatisfied = true) ∧
      EndsAlike (fun reports others =>
          reports.map StepReport.untimed = others.map StepReport.untimed)
        (execute (session.healed healer)).1 (execute session.unhealed).1 ∧
      Session.DidAlike Scripted.SameScript [] (execute (session.healed healer)).2
        (execute session.unhealed).2 := by
  intro page login check session healer
  have all : (execute (session.healed healer).recorded).2.outside.heard.all
      Exchange.isSatisfied = true := by
    decide +kernel
  have satisfied := List.all_eq_true.mp all
  exact ⟨by decide +kernel, by decide +kernel, satisfied,
    execute_transparent Scripted.steady healer session satisfied⟩

end Play

end Walkthrough
