import Walkthrough.Healing.Resolve
import Walkthrough.Outside.Scripted
import Walkthrough.Proofs.Healing.Search
import Walkthrough.Proofs.Session.Run

/-!
# Resolving a reference as one search

A look-up tries the reference and then the candidates of one strategy after the other, each with an
acceptance of its own. It makes the same calls as one flat search through all these trials, comes to
the same element and leaves the same world (`Walkthrough.Play.resolve_search`).
-/

namespace Walkthrough

variable {σ : Type} [Outside σ]

/-- A session that is reached by calls and leaves a world. -/
structure Session.Led (session after : Session σ) (calls : List Call) (world : σ) : Prop where
  outside : after.outside = world
  calls : after.calls = session.calls ++ calls

omit [Outside σ] in
theorem Session.Led.trans {session middle after : Session σ} {early late : List Call}
    {world final : σ} (before : session.Led middle early world)
    (later : middle.Led after late final) : session.Led after (early ++ late) final where
  outside := later.outside
  calls := by rw [later.calls, before.calls, List.append_assoc]

omit [Outside σ] in
theorem Session.Led.then_sameRun {session middle after : Session σ} {calls : List Call} {world : σ}
    (led : session.Led middle calls world) (same : middle.SameRun after) :
    session.Led after calls world where
  outside := same.outside.trans led.outside
  calls := same.calls.trans led.calls

namespace Play

theorem ask_led (call : Call) (traced : call.isTraced = true) (session : Session σ) :
    ∃ after, session.Led after [call] (Outside.reply call session.outside).2 ∧
      ask call session = ((Outside.reply call session.outside).1.mapError .outside, after) := by
  refine ⟨{ session with
    outside := (Outside.reply call session.outside).2
    calls := session.calls ++ [call] }, ⟨rfl, rfl⟩, ?_⟩
  rw [ask_apply, List.filter_cons_of_pos traced, List.filter_nil]

theorem probe_apply (locator : Locator) (session : Session σ) :
    ∃ after, session.Led after (Outside.probe locator session.outside).calls
        (Outside.probe locator session.outside).world ∧
      probe locator session =
        ((Outside.probe locator session.outside).answer.mapError .outside, after) := by
  have asked := ask_apply (.locate locator) session
  unfold Outside.probe
  split
  · next mishap world replied =>
      rw [replied] at asked
      exact ⟨_, ⟨rfl, rfl⟩, bind_apply_of_error (bind_apply_of_error asked _) _⟩
  · next middle replied =>
      rw [replied] at asked
      obtain ⟨after, ⟨outside, calls⟩, counted⟩ := ask_led (.element locator .count) rfl
        { session with outside := middle, calls := session.calls ++ [] }
      refine ⟨after, ⟨outside, ?_⟩, (bind_apply_of_ok (bind_apply_of_ok asked _) _).trans counted⟩
      rw [calls, List.append_nil]

theorem probeCandidate_apply (candidate : Candidate) (session : Session σ) :
    ∃ after, session.Led after (Outside.probe candidate.locator session.outside).calls
        (Outside.probe candidate.locator session.outside).world ∧
      probeCandidate candidate session =
        match (Outside.probe candidate.locator session.outside).answer with
        | .ok count => (.ok (some count), after)
        | .error (.failure _ _) => (.ok none, after)
        | .error (.interrupt message) => (.error (.outside (.interrupt message)), after) := by
  obtain ⟨after, led, probed⟩ := probe_apply candidate.locator session
  cases answer : (Outside.probe candidate.locator session.outside).answer with
  | ok count =>
      rw [answer] at probed
      exact ⟨after, led, recover_apply_of_ok (bind_apply_of_ok probed _) _⟩
  | error mishap =>
      rw [answer] at probed
      cases mishap with
      | failure kind message =>
          exact ⟨_, led.then_sameRun (.noted after _),
            recover_apply_of_failure (bind_apply_of_error probed _) rfl _⟩
      | interrupt message =>
          exact ⟨after, led, recover_apply_of_interrupt (bind_apply_of_error probed _) rfl _⟩

/-- The reference itself is a trial with any count but none. -/
theorem resolvePrimary_apply (reference : String) (session : Session σ) :
    ∃ after, session.Led after (Outside.probe (.selector reference) session.outside).calls
        (Outside.probe (.selector reference) session.outside).world ∧
      resolvePrimary reference session =
        match Trial.verdict ⟨.selector reference, {}⟩
            (Outside.probe (.selector reference) session.outside).answer with
        | .taken => (.ok (some (.first (.selector reference))), after)
        | .missed => (.ok none, after)
        | .interrupted message => (.error (.outside (.interrupt message)), after) := by
  obtain ⟨after, led, probed⟩ := probe_apply (.selector reference) session
  cases answer : (Outside.probe (.selector reference) session.outside).answer with
  | ok count =>
      rw [answer] at probed
      by_cases some : 0 < count
      · refine ⟨_, led.then_sameRun (.noted after
          ⟨.info, .healing, s!"Primary selector worked: {reference}"⟩), ?_⟩
        rw [Trial.verdict_of_accepted rfl ((Acceptance.accepts_default count).mpr some)]
        refine recover_apply_of_ok ((bind_apply_of_ok probed _).trans ?_) _
        rw [if_pos some]
        exact bind_apply_of_ok (note_apply _ _ _ after) _
      · refine ⟨after, led, ?_⟩
        rw [Trial.verdict_of_rejected rfl fun accepted =>
          some ((Acceptance.accepts_default count).mp accepted)]
        refine recover_apply_of_ok ((bind_apply_of_ok probed _).trans ?_) _
        rw [if_neg some, pure_apply]
  | error mishap =>
      rw [answer] at probed
      cases mishap with
      | failure kind message =>
          exact ⟨_, led.then_sameRun (.noted after _),
            recover_apply_of_failure (bind_apply_of_error probed _) rfl _⟩
      | interrupt message =>
          exact ⟨after, led, recover_apply_of_interrupt (bind_apply_of_error probed _) rfl _⟩

/-- A play that looks for an element ends like a search: after the same calls, in the same world,
and with a value that fits what the search ends with, or with its interrupt. -/
structure Follows {α : Type} (ended : Except Fault α × Session σ) (session : Session σ)
    (searched : Searched σ) (found : Trial → α → Prop) (exhausted : α → Prop) : Prop where
  led : session.Led ended.2 searched.calls searched.world
  ends : searched.ending.Cases (fun taken => ∃ value, ended.1 = .ok value ∧ found taken value)
    (∃ value, ended.1 = .ok value ∧ exhausted value)
    (fun message => ended.1 = .error (.outside (.interrupt message)))

namespace Follows

variable {α : Type} {trial : Trial} {rest : List Trial} {session middle : Session σ}
  {ended : Except Fault α × Session σ} {found : Trial → α → Prop} {exhausted : α → Prop}

theorem of_taken
    (verdict : trial.verdict (Outside.probe trial.locator session.outside).answer = .taken)
    (led : session.Led ended.2 (Outside.probe trial.locator session.outside).calls
      (Outside.probe trial.locator session.outside).world)
    {value : α} (ok : ended.1 = .ok value) (fits : found trial value) :
    Follows ended session (search (trial :: rest) session.outside) found exhausted := by
  rw [search_cons_of_taken verdict]
  exact ⟨led, value, ok, fits⟩

theorem of_interrupted {message : String}
    (verdict : trial.verdict (Outside.probe trial.locator session.outside).answer =
      .interrupted message)
    (led : session.Led ended.2 (Outside.probe trial.locator session.outside).calls
      (Outside.probe trial.locator session.outside).world)
    (error : ended.1 = .error (.outside (.interrupt message))) :
    Follows ended session (search (trial :: rest) session.outside) found exhausted := by
  rw [search_cons_of_interrupted verdict]
  exact ⟨led, error⟩

/-- After a trial that is missed, what follows the rest of the search follows all of it. -/
theorem of_missed
    (verdict : trial.verdict (Outside.probe trial.locator session.outside).answer = .missed)
    (led : session.Led middle (Outside.probe trial.locator session.outside).calls
      (Outside.probe trial.locator session.outside).world)
    (later : Follows ended middle (search rest middle.outside) found exhausted) :
    Follows ended session (search (trial :: rest) session.outside) found exhausted := by
  rw [search_cons_of_missed verdict, ← led.outside]
  refine ⟨led.trans later.led, ?_⟩
  rw [SearchEnd.cases_past]
  exact later.ends

omit [Outside σ] in
/-- What goes on after a look-up by the way still ends like the search. -/
theorem bind {β : Type} {play : Play σ α} {next : α → Play σ β} {searched : Searched σ}
    {foundNext : Trial → β → Prop} {exhaustedNext : β → Prop}
    (first : Follows (play session) session searched found exhausted)
    (ofFound : ∀ taken value after, found taken value →
      ∃ result final, next value after = (.ok result, final) ∧ after.SameRun final ∧
        foundNext taken result)
    (ofExhausted : ∀ value after, exhausted value →
      ∃ result final, next value after = (.ok result, final) ∧ after.SameRun final ∧
        exhaustedNext result) :
    Follows ((play >>= next) session) session searched foundNext exhaustedNext := by
  obtain ⟨led, ends⟩ := first
  obtain ⟨ending, calls, world⟩ := searched
  rcases ended : play session with ⟨fault | value, after⟩
  · rw [ended] at led ends
    rw [bind_apply_of_error ended]
    refine ⟨led, ?_⟩
    cases ending with
    | found missed taken =>
        obtain ⟨_, ⟨⟩, _⟩ := ends
    | exhausted =>
        obtain ⟨_, ⟨⟩, _⟩ := ends
    | interrupted message =>
        cases ends
        rfl
  · rw [ended] at led ends
    rw [bind_apply_of_ok ended]
    cases ending with
    | found missed taken =>
        obtain ⟨_, ⟨⟩, fits⟩ := ends
        obtain ⟨result, final, closed, same, fitsNext⟩ := ofFound taken value after fits
        rw [closed]
        exact ⟨led.then_sameRun same, result, rfl, fitsNext⟩
    | exhausted =>
        obtain ⟨_, ⟨⟩, fits⟩ := ends
        obtain ⟨result, final, closed, same, fitsNext⟩ := ofExhausted value after fits
        rw [closed]
        exact ⟨led.then_sameRun same, result, rfl, fitsNext⟩
    | interrupted message => cases ends

end Follows

/-- The candidates of a strategy are tried as one search. -/
theorem tryCandidates_follows (strategy : Strategy) (tried : List String)
    (candidates : List Candidate) (session : Session σ) :
    Follows (tryCandidates strategy tried candidates session) session
      (search (candidates.map fun candidate => ⟨candidate.locator, strategy.acceptance⟩)
        session.outside)
      (fun taken result => ∃ candidate, result.2 = some candidate ∧
        taken.locator = candidate.locator)
      (fun result => result.2 = none) := by
  induction candidates generalizing tried session with
  | nil => exact ⟨⟨rfl, (List.append_nil _).symm⟩, _, rfl, rfl⟩
  | cons candidate rest ih =>
      obtain ⟨after, led, probed⟩ := probeCandidate_apply candidate session
      rw [tryCandidates]
      cases answer : (Outside.probe candidate.locator session.outside).answer with
      | ok count =>
          rw [answer] at probed
          rw [bind_apply_of_ok probed]
          by_cases accepted : strategy.acceptance.accepts count = true
          · simp only [if_pos accepted]
            rw [bind_apply_of_ok (note_apply _ _ _ after)]
            exact .of_taken (Trial.verdict_of_accepted answer accepted)
              (led.then_sameRun (.noted after _)) rfl ⟨candidate, rfl, rfl⟩
          · simp only [if_neg accepted]
            rw [bind_apply_of_ok (note_apply _ _ _ after)]
            exact .of_missed (Trial.verdict_of_rejected answer accepted)
              (led.then_sameRun (.noted after _)) (ih _ _)
      | error mishap =>
          rw [answer] at probed
          cases mishap with
          | failure kind message =>
              rw [bind_apply_of_ok probed]
              exact .of_missed (Trial.verdict_of_failure answer) led (ih _ _)
          | interrupt message =>
              rw [bind_apply_of_error probed]
              exact .of_interrupted (Trial.verdict_of_interrupt answer) led rfl

theorem tryStrategy_follows {strategy : Strategy} {reference description : String}
    (proposes : strategy.proposes reference description = true) (session : Session σ) :
    Follows (tryStrategy strategy reference description session) session
      (search (strategy.trials reference description) session.outside)
      (fun taken result => ∃ candidate, result.2 = some candidate ∧
        taken.locator = candidate.locator)
      (fun result => result.2 = none) := by
  obtain ⟨candidates, proposed⟩ := Option.isSome_iff_exists.mp proposes
  rw [tryStrategy, Strategy.trials, proposed, Option.getD_some]
  have follows := tryCandidates_follows strategy [] candidates session
  cases candidates with
  | nil => exact ⟨⟨rfl, (List.append_nil _).symm⟩, _, rfl, rfl⟩
  | cons first rest =>
      refine follows.bind ?_ ?_
      · rintro taken ⟨tried, _⟩ after ⟨candidate, rfl, same⟩
        exact ⟨_, after, rfl, .refl after, candidate, rfl, same⟩
      · rintro ⟨tried, _⟩ after ⟨⟩
        exact ⟨_, _, rfl, .noted after _, rfl⟩

omit [Outside σ] in
theorem updateHealer_quiet (change : Healer → Healer) :
    Quiet (updateHealer change : Play σ Unit) :=
  fun _ => ⟨(), _, rfl, ⟨rfl, rfl, rfl, rfl, rfl⟩⟩

omit [Outside σ] in
theorem noteAttempt_quiet (attempt : Attempt) : Quiet (noteAttempt attempt : Play σ Unit) :=
  updateHealer_quiet _

theorem recordHealing_quiet (reference healed strategy : String) :
    Quiet (recordHealing reference healed strategy : Play σ Unit) :=
  .bind (fun session => ⟨_, session, rfl, .refl session⟩) fun _ =>
    .bind (updateHealer_quiet _) fun _ => .note _ _ _

/-- The element that a fallback leads to is asked for its label, and is taken whatever the page
answers; only an interrupt loses it. -/
structure Healed (ended : Except Fault Locator × Session σ) (session : Session σ)
    (calls : List Call) (world : σ) (taken : Trial) : Prop where
  value : ended.1 =
    match (Outside.reply (.element (.first taken.locator) .label) world).1 with
    | .error (.interrupt message) => .error (.outside (.interrupt message))
    | _ => .ok (.first taken.locator)
  led : session.Led ended.2 (calls ++ [.element (.first taken.locator) .label])
    (Outside.reply (.element (.first taken.locator) .label) world).2

/-- A failure to tell the label is answered by a label of no meaning. -/
theorem labelOf_apply (locator : Locator) (session : Session σ) :
    ∃ after, session.Led after [.element locator .label]
        (Outside.reply (.element locator .label) session.outside).2 ∧
      match (Outside.reply (.element locator .label) session.outside).1 with
      | .error (.interrupt message) =>
        labelOf locator session = (.error (.outside (.interrupt message)), after)
      | _ => ∃ text, labelOf locator session = (.ok text, after) := by
  obtain ⟨after, led, asked⟩ := ask_led (.element locator .label) rfl session
  refine ⟨after, led, ?_⟩
  cases answer : (Outside.reply (.element locator .label) session.outside).1 with
  | ok label =>
      rw [answer] at asked
      exact ⟨_, recover_apply_of_ok (bind_apply_of_ok asked _) _⟩
  | error mishap =>
      rw [answer] at asked
      cases mishap with
      | failure kind message =>
          exact ⟨_, recover_apply_of_failure (bind_apply_of_error asked _) rfl _⟩
      | interrupt message =>
          exact recover_apply_of_interrupt (bind_apply_of_error asked _) rfl _

/-- Whatever the page tells of the element that was found, it is taken. -/
theorem healed_of_led {session middle : Session σ} {calls : List Call} {world : σ}
    (led : session.Led middle calls world) (reference strategy : String) (taken : Trial) :
    Healed ((do
        recordHealing reference (← labelOf (.first taken.locator)) strategy
        return .first taken.locator : Play σ Locator) middle) session calls world taken := by
  obtain ⟨outside, _⟩ := id led
  subst outside
  obtain ⟨after, labelled, told⟩ := labelOf_apply (.first taken.locator) middle
  have recorded {text : String}
      (label : labelOf (.first taken.locator) middle = (.ok text, after)) :
      ∃ final, after.SameRun final ∧ (do
        recordHealing reference (← labelOf (.first taken.locator)) strategy
        return .first taken.locator : Play σ Locator) middle =
          (.ok (.first taken.locator), final) := by
    obtain ⟨_, final, ended, same⟩ := recordHealing_quiet reference text strategy after
    refine ⟨final, same, (bind_apply_of_ok label _).trans ?_⟩
    rw [bind_apply_of_ok ended, pure_apply]
  cases answer : (Outside.reply (.element (.first taken.locator) .label) middle.outside).1 with
  | ok label =>
      rw [answer] at told
      obtain ⟨text, label⟩ := told
      obtain ⟨final, same, ended⟩ := recorded label
      rw [ended]
      exact ⟨by rw [answer], led.trans (labelled.then_sameRun same)⟩
  | error mishap =>
      rw [answer] at told
      cases mishap with
      | failure kind message =>
          obtain ⟨text, label⟩ := told
          obtain ⟨final, same, ended⟩ := recorded label
          rw [ended]
          exact ⟨by rw [answer], led.trans (labelled.then_sameRun same)⟩
      | interrupt message =>
          rw [bind_apply_of_error told]
          exact ⟨by rw [answer], led.trans labelled⟩

/-- What a look-up ends with that finds nothing. -/
def failureOf (strategies : List Strategy) (reference description : String) : Fault :=
  if strategies.all (·.proposes reference description) then
    .step (.unresolved description reference) none
  else .proposesNothing

/-- How the fallbacks of a look-up end, by a search through their trials. -/
structure FallsBack (ended : Except Fault Locator × Session σ) (session : Session σ)
    (searched : Searched σ) (failure : Fault) : Prop where
  ends : searched.ending.Cases
    (fun taken => Healed ended session searched.calls searched.world taken)
    (ended.1 = .error failure ∧ session.Led ended.2 searched.calls searched.world)
    (fun message => ended.1 = .error (.outside (.interrupt message)) ∧
      session.Led ended.2 searched.calls searched.world)

/-- After trials that were all missed, a look-up goes on as from the start. -/
theorem FallsBack.after_exhausted {ended : Except Fault Locator × Session σ}
    {session middle : Session σ} {first rest : List Trial} {failure : Fault}
    (exhausted : (search first session.outside).ending = .exhausted)
    (led : session.Led middle (search first session.outside).calls
      (search first session.outside).world)
    (later : FallsBack ended middle (search rest middle.outside) failure) :
    FallsBack ended session (search (first ++ rest) session.outside) failure := by
  rw [led.outside] at later
  obtain ⟨ends⟩ := later
  rw [search_append_of_exhausted exhausted]
  constructor
  rw [SearchEnd.cases_past]
  cases ending : (search rest (search first session.outside).world).ending with
  | found missed taken =>
      rw [ending] at ends
      refine ⟨ends.value, ?_⟩
      rw [List.append_assoc]
      exact led.trans ends.led
  | exhausted =>
      rw [ending] at ends
      exact ⟨ends.1, led.trans ends.2⟩
  | interrupted message =>
      rw [ending] at ends
      exact ⟨ends.1, led.trans ends.2⟩

theorem FallsBack.of_sameRun {ended : Except Fault Locator × Session σ}
    {session middle : Session σ} {trials : List Trial} {failure : Fault}
    (same : session.SameRun middle)
    (later : FallsBack ended middle (search trials middle.outside) failure) :
    FallsBack ended session (search trials session.outside) failure := by
  have started : session.Led middle [] session.outside :=
    ⟨same.outside, same.calls.trans (List.append_nil _).symm⟩
  exact (FallsBack.after_exhausted rfl started later : FallsBack ended session
    (search ([] ++ trials) session.outside) failure)

/-- What is found in the first trials is healed, and after them a look-up falls back on the rest. -/
theorem Follows.fallsBack {α : Type} {play : Play σ α} {next : α → Play σ Locator}
    {session : Session σ} {first rest : List Trial} {found : Trial → α → Prop}
    {exhausted : α → Prop} {failure : Fault}
    (follows : Follows (play session) session (search first session.outside) found exhausted)
    (ofFound : ∀ taken value after, found taken value →
      session.Led after (search first session.outside).calls
        (search first session.outside).world →
      Healed (next value after) session (search first session.outside).calls
        (search first session.outside).world taken)
    (ofExhausted : ∀ value after, exhausted value →
      FallsBack (next value after) after (search rest after.outside) failure) :
    FallsBack ((play >>= next) session) session (search (first ++ rest) session.outside)
      failure := by
  obtain ⟨led, ends⟩ := follows
  cases ending : (search first session.outside).ending with
  | found missed taken =>
      rw [ending] at ends
      obtain ⟨value, ok, fits⟩ := ends
      have ended : play session = (.ok value, (play session).2) := Prod.ext ok rfl
      rw [bind_apply_of_ok ended, search_append_of_ended (by rw [ending]; exact nofun)]
      constructor
      rw [ending]
      exact ofFound taken value _ fits led
  | exhausted =>
      rw [ending] at ends
      obtain ⟨value, ok, fits⟩ := ends
      have ended : play session = (.ok value, (play session).2) := Prod.ext ok rfl
      rw [bind_apply_of_ok ended]
      exact .after_exhausted ending led (ofExhausted value _ fits)
  | interrupted message =>
      rw [ending] at ends
      have ended : play session = (.error (.outside (.interrupt message)), (play session).2) :=
        Prod.ext ends rfl
      rw [bind_apply_of_error ended, search_append_of_ended (by rw [ending]; exact nofun)]
      constructor
      rw [ending]
      exact ⟨rfl, led⟩

/-- The strategies are tried as one search through all their candidates. -/
theorem tryStrategies_fallsBack (strategies : List Strategy) (reference description : String)
    (index : Nat) (session : Session σ) :
    FallsBack (tryStrategies reference description index strategies session) session
      (search (fallbackTrials strategies reference description) session.outside)
      (failureOf strategies reference description) := by
  induction strategies generalizing index session with
  | nil => exact ⟨rfl, rfl, (List.append_nil _).symm⟩
  | cons strategy rest ih =>
      obtain ⟨_, noted, written, same⟩ := Quiet.note .info .healing
        s!"Strategy {index}: {strategy.name} - {strategy.description}" session
      rw [tryStrategies, bind_apply_of_ok written]
      refine FallsBack.of_sameRun same ?_
      by_cases proposes : strategy.proposes reference description = true
      · have failure : failureOf (strategy :: rest) reference description =
            failureOf rest reference description := by
          simp [failureOf, proposes]
        rw [fallbackTrials_cons_of_proposes proposes, failure]
        refine (tryStrategy_follows proposes _).fallsBack ?_ ?_
        · rintro taken ⟨attempt, _⟩ after ⟨candidate, rfl, locator⟩ led
          obtain ⟨_, middle, attempted, same⟩ := noteAttempt_quiet attempt after
          have healed := healed_of_led (led.then_sameRun same) reference strategy.name taken
          rw [locator] at healed
          simp only [bind_apply_of_ok attempted]
          exact healed
        · rintro ⟨attempt, _⟩ after ⟨⟩
          obtain ⟨_, middle, attempted, same⟩ := noteAttempt_quiet attempt after
          simp only [bind_apply_of_ok attempted]
          exact FallsBack.of_sameRun same (ih (index + 1) middle)
      · have absent : strategy.propose reference description = none := by
          simpa [Strategy.proposes] using proposes
        have failure : failureOf (strategy :: rest) reference description = .proposesNothing := by
          simp [failureOf, proposes]
        -- The flat search has no trials from here on, so it is exhausted at once.
        rw [fallbackTrials_cons_of_not_proposes proposes, failure, tryStrategy, absent]
        exact ⟨rfl, rfl, (List.append_nil _).symm⟩

/-- A look-up forgets the attempts of the one before, and tries the reference itself first. -/
theorem resolve_apply (strategies : List Strategy) (reference description : String)
    (session : Session σ) :
    ∃ log, resolve strategies reference description session = ((do
        match ← resolvePrimary reference with
        | some element => return element
        | none =>
          note .info .healing
            s!"Primary selector failed: {reference} -- trying fallback strategies"
          tryStrategies reference description 1 strategies) : Play σ Locator)
      { session with
        log, healer := session.healer.map fun healer => { healer with attempts := [] } } := by
  refine ⟨session.log ++ [⟨.info, .healing, s!"Attempting to locate: {description}"⟩] ++
    [⟨.debug, .healing, s!"Primary selector: {reference}"⟩], ?_⟩
  calc
    resolve strategies reference description session = _ :=
      bind_apply_of_ok (note_apply _ _ _ session) _
    _ = _ := bind_apply_of_ok (note_apply _ _ _ _) _
    _ = _ := bind_apply_of_ok (modify_apply _ _) _

/-- How a look-up ends, by a search through its trials. -/
def Resolves (ended : Except Fault Locator × Session σ) (session : Session σ)
    (reference : String) (failure : Fault) : Searched σ → Prop
  | ⟨.found [] _, calls, world⟩ =>
    ended.1 = .ok (.first (.selector reference)) ∧ session.Led ended.2 calls world
  | ⟨.found (_ :: _) taken, calls, world⟩ => Healed ended session calls world taken
  | ⟨.exhausted, calls, world⟩ => ended.1 = .error failure ∧ session.Led ended.2 calls world
  | ⟨.interrupted message, calls, world⟩ =>
    ended.1 = .error (.outside (.interrupt message)) ∧ session.Led ended.2 calls world

theorem resolve_resolves (strategies : List Strategy) (reference description : String)
    (session : Session σ) :
    Resolves (resolve strategies reference description session) session reference
      (failureOf strategies reference description)
      (search (trialsOf strategies reference description) session.outside) := by
  obtain ⟨log, resolved⟩ := resolve_apply strategies reference description session
  have same : session.SameRun { session with
      log, healer := session.healer.map fun healer => { healer with attempts := [] } } :=
    ⟨rfl, rfl, rfl, rfl, rfl⟩
  generalize ({ session with
    log, healer := session.healer.map fun healer => { healer with attempts := [] } } :
      Session σ) = ready at resolved same
  obtain ⟨after, led, primary⟩ := resolvePrimary_apply reference ready
  rw [resolved, trialsOf]
  rw [same.outside] at led primary
  have reached : session.Led after (Outside.probe (.selector reference) session.outside).calls
      (Outside.probe (.selector reference) session.outside).world :=
    ⟨led.outside, by rw [led.calls, same.calls]⟩
  cases verdict : Trial.verdict ⟨.selector reference, {}⟩
      (Outside.probe (.selector reference) session.outside).answer with
  | taken =>
      rw [verdict] at primary
      rw [search_cons_of_taken verdict, bind_apply_of_ok primary]
      exact ⟨rfl, reached⟩
  | interrupted message =>
      rw [verdict] at primary
      rw [search_cons_of_interrupted verdict, bind_apply_of_error primary]
      exact ⟨rfl, reached⟩
  | missed =>
      rw [verdict] at primary
      obtain ⟨_, noted, written, sameNoted⟩ := Quiet.note .info .healing
        s!"Primary selector failed: {reference} -- trying fallback strategies" after
      rw [bind_apply_of_ok primary]
      simp only [bind_apply_of_ok written]
      have reachedNoted := reached.then_sameRun sameNoted
      obtain ⟨ends⟩ := tryStrategies_fallsBack strategies reference description 1 noted
      rw [search_cons_of_missed verdict]
      simp only
      rw [← reachedNoted.outside]
      cases ending : (search (fallbackTrials strategies reference description)
          noted.outside).ending with
      | found missed taken =>
          rw [ending] at ends
          refine ⟨ends.value, ?_⟩
          rw [List.append_assoc]
          exact reachedNoted.trans ends.led
      | exhausted =>
          rw [ending] at ends
          exact ⟨ends.1, reachedNoted.trans ends.2⟩
      | interrupted message =>
          rw [ending] at ends
          exact ⟨ends.1, reachedNoted.trans ends.2⟩

/-- Only a search that is exhausted, with candidates of all strategies in it, fails for want of an
element. -/
theorem Resolves.unresolved_iff {ended : Except Fault Locator × Session σ} {session : Session σ}
    {strategies : List Strategy} {reference description : String} {searched : Searched σ}
    (resolves : Resolves ended session reference
      (failureOf strategies reference description) searched) :
    ended.1 = .error (.step (.unresolved description reference) none) ↔
      searched.ending = .exhausted ∧
        strategies.all (·.proposes reference description) = true := by
  obtain ⟨ending, calls, world⟩ := searched
  cases ending with
  | exhausted =>
      obtain ⟨failed, -⟩ := resolves
      rw [failed, failureOf]
      split
      · next all => exact ⟨fun _ => ⟨rfl, all⟩, fun _ => rfl⟩
      · next some => exact ⟨nofun, fun both => absurd both.2 some⟩
  | interrupted message =>
      obtain ⟨stopped, -⟩ := resolves
      rw [stopped]
      exact ⟨nofun, nofun⟩
  | found missed taken =>
      refine ⟨fun failed => ?_, nofun⟩
      cases missed with
      | nil =>
          obtain ⟨succeeded, -⟩ := resolves
          rw [succeeded] at failed
          cases failed
      | cons first missed =>
          obtain ⟨healed, -⟩ := resolves
          rw [healed] at failed
          split at failed
          · cases failed
          · cases failed

/-- **A look-up is one search.** A look-up probes the reference and then the candidates of the
strategies, in the order of the strategies and of each one's candidates, and stops at the first
that is accepted; it makes the calls of the flat search and leaves its world. It fails for want of
an element exactly if the search is exhausted and every strategy has a list of candidates; a
strategy without one ends the look-up if nothing was accepted before it. -/
theorem resolve_search (strategies : List Strategy) (reference description : String)
    (session : Session σ) :
    Resolves (resolve strategies reference description session) session reference
        (failureOf strategies reference description)
        (search (trialsOf strategies reference description) session.outside) ∧
      (∀ missed taken, (search (trialsOf strategies reference description) session.outside).ending =
          .found missed taken →
        ∃ later, trialsOf strategies reference description = missed ++ taken :: later) ∧
      ((resolve strategies reference description session).1 =
          .error (.step (.unresolved description reference) none) ↔
        (search (trialsOf strategies reference description) session.outside).ending = .exhausted ∧
          strategies.all (·.proposes reference description) = true) := by
  have resolves := resolve_resolves strategies reference description session
  exact ⟨resolves, fun _ _ => search_found, resolves.unresolved_iff⟩

/-- A strategy without a list of candidates: nothing matches the reference and there is no
candidate, but the look-up does not fail for want of an element. -/
theorem resolve_bare_fault :
    let session : Session Scripted := { outside := {} }
    (Outside.probe (.selector "#x") session.outside).answer = .ok 0 ∧
      Strategy.bare.trials "#x" "link" = [] ∧
      (resolve [Strategy.bare] "#x" "link" session).1 ≠
        .error (.step (.unresolved "link" "#x") none) := by
  intro session
  refine ⟨rfl, rfl, ?_⟩
  have ended : (resolve [Strategy.bare] "#x" "link" session).1 = .error .proposesNothing := rfl
  rw [ended]
  exact nofun

end Play

end Walkthrough
