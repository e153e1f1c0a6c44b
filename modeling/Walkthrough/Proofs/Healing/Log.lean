import Walkthrough.Proofs.Healing.Resolve
import Walkthrough.Proofs.Page.Scope

/-!
# The log of a healer

What a healer knows after look-ups and emptyings of its log, in any order, on a page that may fail
but never interrupts. The log has an entry for each look-up since it was last emptied that a
strategy healed, in order, and the attempts are those of the last look-up alone
(`Walkthrough.Play.useAll_log`).
-/

namespace Walkthrough

/-- The candidates of a strategy; one that proposes nothing by its nature has none. -/
def Strategy.candidates (strategy : Strategy) (reference description : String) : List Candidate :=
  (strategy.propose reference description).getD []

/-- A candidate as a trial of the strategy that proposes it. -/
def Strategy.trial (strategy : Strategy) (candidate : Candidate) : Trial :=
  ⟨candidate.locator, strategy.acceptance⟩

/-- The attempt of a strategy that accepts none of its candidates. -/
def Attempt.missed (reference description : String) (strategy : Strategy) : Attempt where
  strategy := strategy.name
  outcome :=
    if (strategy.candidates reference description).isEmpty then .notApplicable else .noMatch
  tried := (strategy.candidates reference description).map Candidate.expression

/-- The attempt of a strategy that accepts the last of the candidates that it tried. -/
def Attempt.healed (strategy : Strategy) (tried : List Candidate) : Attempt :=
  ⟨strategy.name, .healed, tried.map Candidate.expression⟩

/-- How the fallbacks of a look-up go, by the end of the search through their trials: what the
look-up comes to, what the strategies attempted, and which one healed. -/
inductive FallBack (strategies : List Strategy) (reference description : String) :
    SearchEnd → Except Fault Locator → List Attempt → Option Strategy → Prop
  | healed {before after : List Strategy} {winner : Strategy} {missed untried : List Candidate}
      {taken : Candidate} :
      strategies = before ++ winner :: after →
      winner.candidates reference description = missed ++ taken :: untried →
      FallBack strategies reference description
        (.found (before.flatMap (·.trials reference description) ++ missed.map winner.trial)
          (winner.trial taken))
        (.ok (.first taken.locator))
        (before.map (.missed reference description) ++ [.healed winner (missed ++ [taken])])
        (some winner)
  | exhausted :
      FallBack strategies reference description .exhausted
        (.error (.step (.unresolved description reference) none))
        (strategies.map (.missed reference description)) none

/-- How a look-up goes, by the end of the search through its trials: the reference itself is a hit,
or the look-up falls back on the strategies. -/
inductive LookUp (strategies : List Strategy) (reference description : String) :
    SearchEnd → Except Fault Locator → List Attempt → Option Strategy → Prop
  | hit : LookUp strategies reference description (.found [] ⟨.selector reference, {}⟩)
      (.ok (.first (.selector reference))) [] none
  | fallBack {ending : SearchEnd} {value : Except Fault Locator} {attempts : List Attempt}
      {winner? : Option Strategy} :
      FallBack strategies reference description ending value attempts winner? →
      LookUp strategies reference description (ending.past [⟨.selector reference, {}⟩]) value
        attempts winner?

section Winner

variable {reference description : String}

/-- The strategy that proposes the candidate at a place among all candidates in their order. -/
def proposer? (reference description : String) : List Strategy → Nat → Option Strategy
  | [], _ => none
  | strategy :: rest, place =>
    let count := (strategy.candidates reference description).length
    if place < count then some strategy else proposer? reference description rest (place - count)

/-- The strategy that heals a look-up, by the end of the search through its trials: none does if the
reference itself is a hit, or if nothing is found. -/
def winner? (strategies : List Strategy) (reference description : String) :
    SearchEnd → Option Strategy
  | .found (_ :: missed) _ => proposer? reference description strategies missed.length
  | _ => none

theorem proposer?_append {before after : List Strategy} {winner : Strategy} {place : Nat}
    (within : place < (winner.candidates reference description).length) :
    proposer? reference description (before ++ winner :: after)
      ((before.flatMap (·.trials reference description)).length + place) = some winner := by
  induction before with
  | nil =>
      rw [List.nil_append, List.flatMap_nil, List.length_nil, Nat.zero_add, proposer?]
      exact if_pos within
  | cons strategy rest ih =>
      have count : (strategy.trials reference description).length =
          (strategy.candidates reference description).length := by
        rw [Strategy.trials, List.length_map, Strategy.candidates]
      rw [List.cons_append, proposer?, List.flatMap_cons, List.length_append, count,
        if_neg (by omega), Nat.add_assoc, Nat.add_sub_cancel_left, ih]

theorem FallBack.winner?_past {strategies : List Strategy} {ending : SearchEnd}
    {value : Except Fault Locator} {attempts : List Attempt} {healedBy : Option Strategy}
    (fallen : FallBack strategies reference description ending value attempts healedBy)
    (first : Trial) :
    winner? strategies reference description (ending.past [first]) = healedBy := by
  cases fallen with
  | healed order proposed =>
      rw [SearchEnd.past, List.singleton_append, winner?, order, List.length_append,
        proposer?_append]
      rw [proposed, List.length_map, List.length_append, List.length_cons]
      omega
  | exhausted => rfl

/-- After a strategy whose candidates are all missed, a look-up falls back on the others. -/
theorem FallBack.after_missed {strategies : List Strategy} {ending : SearchEnd}
    {value : Except Fault Locator} {attempts : List Attempt} {healedBy : Option Strategy}
    (fallen : FallBack strategies reference description ending value attempts healedBy)
    (strategy : Strategy) :
    FallBack (strategy :: strategies) reference description
      (ending.past (strategy.trials reference description)) value
      (.missed reference description strategy :: attempts) healedBy := by
  cases fallen with
  | @healed before after winner missed untried taken order proposed =>
      have longer : strategy :: strategies = (strategy :: before) ++ winner :: after :=
        congrArg (strategy :: ·) order
      have whole := FallBack.healed longer proposed
      rw [List.flatMap_cons, List.append_assoc, List.map_cons] at whole
      exact whole
  | exhausted => exact .exhausted

end Winner

variable {σ : Type} [Outside σ]

section Calm

/-- A world whose page may fail but never interrupts, now and after any calls. -/
def Outside.Calm (world : σ) : Prop :=
  ∀ later, Outside.Later world later → ∀ call : Call, call.isOfPage = true →
    ∀ message, (Outside.reply call later).1 ≠ .error (.interrupt message)

variable {world : σ}

theorem Outside.Calm.later {after : σ} (calm : Outside.Calm world)
    (reached : Outside.Later world after) : Outside.Calm after :=
  fun _ further => calm _ (reached.trans further)

theorem Outside.probe_later (locator : Locator) (world : σ) :
    Outside.Later world (Outside.probe locator world).world := by
  unfold Outside.probe
  split
  · next mishap after replied => exact .single ⟨.locate locator, by rw [replied]⟩
  · next middle replied =>
      exact .tail (.single ⟨.locate locator, by rw [replied]⟩) ⟨.element locator .count, rfl⟩

theorem Outside.Calm.probe (calm : Outside.Calm world) (locator : Locator) (message : String) :
    (Outside.probe locator world).answer ≠ .error (.interrupt message) := by
  have located := calm world .refl (.locate locator) rfl message
  unfold Outside.probe
  split
  · next mishap after replied =>
      rw [replied] at located
      rintro ⟨⟩
      exact located rfl
  · next middle replied =>
      have reached : Outside.Later world middle := .single ⟨.locate locator, by rw [replied]⟩
      exact calm middle reached (.element locator .count) rfl message

theorem Outside.Calm.verdict (calm : Outside.Calm world) (trial : Trial) (message : String) :
    trial.verdict (Outside.probe trial.locator world).answer ≠ .interrupted message := by
  have uninterrupted := calm.probe trial.locator
  cases answer : (Outside.probe trial.locator world).answer with
  | ok count =>
      rw [Trial.verdict]
      split
      · rintro ⟨⟩
      · rintro ⟨⟩
  | error mishap =>
      cases mishap with
      | failure kind message => rintro ⟨⟩
      | interrupt other => exact absurd answer (uninterrupted other)

/-- On a calm page a search is never interrupted, and leaves the page calm. -/
theorem Outside.Calm.search (calm : Outside.Calm world) (trials : List Trial) :
    Outside.Calm (Walkthrough.search trials world).world ∧
      ∀ message, (Walkthrough.search trials world).ending ≠ .interrupted message := by
  induction trials generalizing world with
  | nil =>
      refine ⟨calm, ?_⟩
      rintro _ ⟨⟩
  | cons trial rest ih =>
      have probed := calm.later (Outside.probe_later trial.locator world)
      cases verdict : trial.verdict (Outside.probe trial.locator world).answer with
      | taken =>
          rw [search_cons_of_taken verdict]
          refine ⟨probed, ?_⟩
          rintro _ ⟨⟩
      | interrupted message => exact absurd verdict (calm.verdict trial message)
      | missed =>
          obtain ⟨later, uninterrupted⟩ := ih probed
          rw [search_cons_of_missed verdict]
          refine ⟨later, fun message => ?_⟩
          cases ending : (Walkthrough.search rest
              (Outside.probe trial.locator world).world).ending with
          | found missed taken => rintro ⟨⟩
          | exhausted => rintro ⟨⟩
          | interrupted other => exact absurd ending (uninterrupted other)

end Calm

/-- A world that fails wherever another one interrupts. -/
structure Softened (σ : Type) where
  world : σ

instance : Outside (Softened σ) where
  reply call softened :=
    match Outside.reply call softened.world with
    | (.ok answer, after) => (.ok answer, ⟨after⟩)
    | (.error mishap, after) => (.error (.failure .other mishap.message), ⟨after⟩)
  clock softened := Outside.clock softened.world
  now softened := Outside.now softened.world
  mark softened := Outside.mark softened.world

theorem Softened.calm (softened : Softened σ) : Outside.Calm softened := by
  intro later _ call _ message
  simp only [Outside.reply]
  split
  · rintro ⟨⟩
  · rintro ⟨⟩

/-- The references that were healed, each with the name of the strategy that healed it. -/
def Healer.entries (healer : Healer) : List (String × String) :=
  healer.records.map fun record => (record.reference, record.strategy)

/-- A healer that knows from another, but for the attempts of this look-up and an entry for the
strategy that healed it. -/
structure Healer.Learns (before after : Healer) (reference : String) (attempts : List Attempt)
    (winner? : Option Strategy) : Prop where
  strategies : after.strategies = before.strategies
  attempts : after.attempts = before.attempts ++ attempts
  entries : after.entries = before.entries ++
    (winner?.map fun winner => (reference, winner.name)).toList

namespace Play

section Sparing

/-- A play that does not touch the healer. -/
def Spares {α : Type} (play : Play σ α) : Prop :=
  ∀ session, (play session).2.healer = session.healer

namespace Spares

variable {α β : Type}

omit [Outside σ] in
theorem pure (value : α) : Spares (Pure.pure value : Play σ α) :=
  fun _ => rfl

omit [Outside σ] in
theorem fail (fault : Fault) : Spares (throw fault : Play σ α) :=
  fun _ => rfl

omit [Outside σ] in
theorem note (level : LogLevel) (source : LogSource) (message : String) :
    Spares (Play.note level source message : Play σ Unit) :=
  fun _ => rfl

theorem ask (call : Call) : Spares (Play.ask call : Play σ call.Answer) := by
  intro session
  rw [ask_apply]

omit [Outside σ] in
theorem bind {play : Play σ β} {next : β → Play σ α} (first : Spares play)
    (second : ∀ value, Spares (next value)) : Spares (play >>= next) := by
  intro session
  have spared := first session
  rcases ended : play session with ⟨fault | value, middle⟩
  · rw [ended] at spared
    rw [bind_apply_of_error ended]
    exact spared
  · rw [ended] at spared
    rw [bind_apply_of_ok ended]
    exact (second value middle).trans spared

omit [Outside σ] in
theorem recover {play : Play σ α} {handler : Fault → Play σ α} (first : Spares play)
    (second : ∀ fault, Spares (handler fault)) : Spares (Play.recover play handler) := by
  intro session
  have spared := first session
  rcases ended : play session with ⟨fault | value, middle⟩
  · rw [ended] at spared
    cases interrupt : fault.isInterrupt with
    | true =>
        rw [recover_apply_of_interrupt ended interrupt]
        exact spared
    | false =>
        rw [recover_apply_of_failure ended interrupt]
        exact (second fault middle).trans spared
  · rw [ended] at spared
    rw [recover_apply_of_ok ended]
    exact spared

end Spares

theorem probe_spares (locator : Locator) : Spares (probe locator : Play σ Int) :=
  .bind (.bind (.ask _) fun _ => .pure _) fun _ => .ask _

theorem resolvePrimary_spares (reference : String) :
    Spares (resolvePrimary reference : Play σ (Option Locator)) := by
  refine .recover (.bind (probe_spares _) fun count => ?_) fun _ =>
    .bind (.note _ _ _) fun _ => .pure _
  split
  · exact .bind (.note _ _ _) fun _ => .pure _
  · exact .pure _

theorem tryCandidates_spares (strategy : Strategy) (tried : List String)
    (candidates : List Candidate) :
    Spares (tryCandidates strategy tried candidates : Play σ _) := by
  induction candidates generalizing tried with
  | nil => exact .pure _
  | cons candidate rest ih =>
      have probed : Spares (probeCandidate candidate : Play σ (Option Int)) :=
        .recover (.bind (probe_spares _) fun _ => .pure _)
          fun _ => .bind (.note _ _ _) fun _ => .pure _
      refine .bind probed fun count? => ?_
      cases count? with
      | none => exact ih _
      | some count =>
          by_cases accepted : strategy.acceptance.accepts count = true
          · simp only [if_pos accepted]
            exact .bind (.note _ _ _) fun _ => .pure _
          · simp only [if_neg accepted]
            exact .bind (.note _ _ _) fun _ => ih _

theorem tryStrategy_spares (strategy : Strategy) (reference description : String) :
    Spares (tryStrategy strategy reference description : Play σ _) := by
  unfold tryStrategy
  split
  · exact .fail _
  · exact .bind (.note _ _ _) fun _ => .pure _
  · refine .bind (tryCandidates_spares strategy [] _) fun (tried, accepted) => ?_
    cases accepted with
    | none => exact .bind (.note _ _ _) fun _ => .pure _
    | some candidate => exact .pure _

theorem labelOf_spares (locator : Locator) : Spares (labelOf locator : Play σ String) :=
  .recover (.bind (.ask _) fun _ => .pure _) fun _ => .pure _

end Sparing

section LookingUp

variable {strategies : List Strategy} {reference description : String} {session : Session σ}

/-- How candidates are tried after others, by the end of the search through them. -/
inductive Tries (strategy : Strategy) (tried : List String) (candidates : List Candidate) :
    SearchEnd → List String × Option Candidate → Prop
  | accepted {before after : List Candidate} {candidate : Candidate} :
      candidates = before ++ candidate :: after →
      Tries strategy tried candidates
        (.found (before.map strategy.trial) (strategy.trial candidate))
        (tried ++ (before ++ [candidate]).map Candidate.expression, some candidate)
  | rejected :
      Tries strategy tried candidates .exhausted
        (tried ++ candidates.map Candidate.expression, none)

omit [Outside σ] in
theorem Tries.after_missed {strategy : Strategy} {tried : List String} {candidate : Candidate}
    {candidates : List Candidate} {ending : SearchEnd} {result : List String × Option Candidate}
    (tries : Tries strategy (tried ++ [candidate.expression]) candidates ending result) :
    Tries strategy tried (candidate :: candidates) (ending.past [strategy.trial candidate])
      result := by
  cases tries with
  | @accepted before after other split =>
      have longer : candidate :: candidates = (candidate :: before) ++ other :: after :=
        congrArg (candidate :: ·) split
      have whole : Tries strategy tried (candidate :: candidates) _ _ := .accepted longer
      rw [List.cons_append, List.map_cons, List.map_cons, List.append_cons tried] at whole
      exact whole
  | rejected =>
      rw [← List.append_cons, ← List.map_cons]
      exact .rejected

theorem tryCandidates_tries (strategy : Strategy) (tried : List String)
    (candidates : List Candidate) (calm : Outside.Calm session.outside) :
    ∃ result, (tryCandidates strategy tried candidates session).1 = .ok result ∧
      Tries strategy tried candidates
        (search (candidates.map strategy.trial) session.outside).ending result := by
  induction candidates generalizing tried session with
  | nil =>
      refine ⟨(tried, none), rfl, ?_⟩
      have none : Tries strategy tried [] _ _ := .rejected
      rwa [List.map_nil, List.append_nil] at none
  | cons candidate rest ih =>
      obtain ⟨after, led, probed⟩ := probeCandidate_apply candidate session
      have later (middle : Session σ)
          (reached : middle.outside = (Outside.probe candidate.locator session.outside).world)
          (verdict : (strategy.trial candidate).verdict
            (Outside.probe candidate.locator session.outside).answer = .missed) :
          ∃ result,
            (tryCandidates strategy (tried ++ [candidate.expression]) rest middle).1 = .ok result ∧
              Tries strategy tried (candidate :: rest)
                (search ((candidate :: rest).map strategy.trial) session.outside).ending
                result := by
        have calmLater : Outside.Calm middle.outside := by
          rw [reached]
          exact calm.later (Outside.probe_later _ _)
        obtain ⟨result, value, tries⟩ := ih (tried ++ [candidate.expression]) calmLater
        rw [reached] at tries
        refine ⟨result, value, ?_⟩
        rw [List.map_cons, search_cons_of_missed verdict]
        exact tries.after_missed
      rw [tryCandidates]
      cases answer : (Outside.probe candidate.locator session.outside).answer with
      | ok count =>
          rw [answer] at probed
          rw [bind_apply_of_ok probed]
          by_cases accepted : strategy.acceptance.accepts count = true
          · simp only [if_pos accepted]
            refine ⟨_, rfl, ?_⟩
            rw [List.map_cons, search_cons_of_taken (Trial.verdict_of_accepted answer accepted)]
            exact .accepted (List.nil_append (candidate :: rest)).symm
          · simp only [if_neg accepted]
            rw [bind_apply_of_ok (note_apply _ _ _ after)]
            exact later _ led.outside (Trial.verdict_of_rejected answer accepted)
      | error mishap =>
          rw [answer] at probed
          cases mishap with
          | failure kind message =>
              rw [bind_apply_of_ok probed]
              exact later after led.outside (Trial.verdict_of_failure answer)
          | interrupt message => exact absurd answer (calm.probe _ message)

/-- What one strategy does in a look-up, by the end of the search through its trials. -/
inductive Attempts (strategy : Strategy) (reference description : String) :
    SearchEnd → Attempt × Option Candidate → Prop
  | healed {before after : List Candidate} {candidate : Candidate} :
      strategy.candidates reference description = before ++ candidate :: after →
      Attempts strategy reference description
        (.found (before.map strategy.trial) (strategy.trial candidate))
        (.healed strategy (before ++ [candidate]), some candidate)
  | missed :
      Attempts strategy reference description .exhausted
        (.missed reference description strategy, none)

theorem tryStrategy_attempts {strategy : Strategy}
    (proposes : strategy.proposes reference description = true)
    (calm : Outside.Calm session.outside) :
    ∃ result, (tryStrategy strategy reference description session).1 = .ok result ∧
      Attempts strategy reference description
        (search (strategy.trials reference description) session.outside).ending result := by
  obtain ⟨candidates, proposed⟩ := Option.isSome_iff_exists.mp proposes
  have stated : strategy.candidates reference description = candidates := by
    rw [Strategy.candidates, proposed, Option.getD_some]
  have trials : strategy.trials reference description = candidates.map strategy.trial :=
    congrArg (List.map strategy.trial) stated
  rw [trials, tryStrategy, proposed]
  obtain ⟨⟨tried, accepted⟩, value, tries⟩ := tryCandidates_tries strategy [] candidates calm
  have ended : tryCandidates strategy [] candidates session = (.ok (tried, accepted), _) :=
    Prod.ext value rfl
  have ofNone : Attempts strategy reference description .exhausted
      (⟨strategy.name, if candidates.isEmpty then .notApplicable else .noMatch,
        candidates.map Candidate.expression⟩, none) := by
    rw [← stated]
    exact .missed
  cases candidates with
  | nil => exact ⟨_, rfl, ofNone⟩
  | cons first rest =>
      simp only
      rw [bind_apply_of_ok ended]
      generalize (search ((first :: rest).map strategy.trial) session.outside).ending = ending
        at tries ⊢
      cases tries with
      | accepted split => exact ⟨_, rfl, .healed (stated.trans split)⟩
      | rejected => exact ⟨_, rfl, ofNone⟩

omit [Outside σ] in
theorem noteAttempt_apply {healer : Healer} (has : session.healer = some healer)
    (attempt : Attempt) :
    (noteAttempt attempt : Play σ Unit) session = (.ok (), { session with
      healer := some { healer with attempts := healer.attempts ++ [attempt] } }) := by
  rw [noteAttempt, updateHealer, modify_apply, has, Option.map_some]

/-- A healing is recorded, and the element taken, whatever the page tells of it. -/
theorem recordHealing_learns {healer : Healer} (has : session.healer = some healer)
    (calm : Outside.Calm session.outside) (reference : String) (winner : Strategy)
    (element : Locator) :
    ∃ after final, (do
        recordHealing reference (← labelOf element) winner.name
        return element : Play σ Locator) session = (.ok element, final) ∧
      final.healer = some after ∧ healer.Learns after reference [] (some winner) := by
  obtain ⟨labelled, -, told⟩ := labelOf_apply element session
  have spared := labelOf_spares element session
  rw [has] at spared
  have recorded {text : String} (label : labelOf element session = (.ok text, labelled)) :
      ∃ after final, (do
          recordHealing reference (← labelOf element) winner.name
          return element : Play σ Locator) session = (.ok element, final) ∧
        final.healer = some after ∧ healer.Learns after reference [] (some winner) := by
    rw [label] at spared
    rw [bind_apply_of_ok label]
    refine ⟨_, _, rfl, congrArg (Option.map _) spared, rfl, (List.append_nil _).symm, ?_⟩
    simp only [Healer.entries, List.map_append, List.map_cons, List.map_nil, Option.map_some,
      Option.toList_some]
  cases answer : (Outside.reply (.element element .label) session.outside).1 with
  | ok label =>
      rw [answer] at told
      obtain ⟨text, label⟩ := told
      exact recorded label
  | error mishap =>
      cases mishap with
      | failure kind message =>
          rw [answer] at told
          obtain ⟨text, label⟩ := told
          exact recorded label
      | interrupt message => exact absurd answer (calm _ .refl _ rfl message)

/-- The strategies of a look-up fall back one after the other, and the healer notes what each
attempts and which one heals. -/
theorem tryStrategies_fallBack {healer : Healer} (has : session.healer = some healer)
    (calm : Outside.Calm session.outside)
    (proposes : ∀ strategy ∈ strategies, strategy.proposes reference description = true)
    (index : Nat) :
    ∃ attempts healedBy after,
      FallBack strategies reference description
        (search (fallbackTrials strategies reference description) session.outside).ending
        (tryStrategies reference description index strategies session).1 attempts healedBy ∧
      (tryStrategies reference description index strategies session).2.healer = some after ∧
      healer.Learns after reference attempts healedBy := by
  induction strategies generalizing index session healer with
  | nil =>
      refine ⟨[], none, healer, .exhausted, has, rfl, ?_, ?_⟩
      · rw [List.append_nil]
      · exact (List.append_nil _).symm
  | cons strategy rest ih =>
      obtain ⟨first, others⟩ := List.forall_mem_cons.mp proposes
      rw [tryStrategies, bind_apply_of_ok (note_apply _ _ _ session)]
      generalize noted : ({ session with log := _ } : Session σ) = announced
      have hasNoted : announced.healer = some healer := by rw [← noted, ← has]
      have outside : announced.outside = session.outside := by rw [← noted]
      rw [← outside] at calm ⊢
      obtain ⟨led, -⟩ := tryStrategy_follows first announced
      obtain ⟨⟨attempt, accepted⟩, value, attempted⟩ := tryStrategy_attempts first calm
      have spared := tryStrategy_spares strategy reference description announced
      rw [hasNoted] at spared
      have ended : tryStrategy strategy reference description announced =
          (.ok (attempt, accepted), (tryStrategy strategy reference description announced).2) :=
        Prod.ext value rfl
      generalize (tryStrategy strategy reference description announced).2 = middle
        at ended led spared
      have calmLater : Outside.Calm middle.outside := by
        rw [led.outside]
        exact (calm.search _).1
      rw [bind_apply_of_ok ended, fallbackTrials_cons_of_proposes first]
      simp only
      rw [bind_apply_of_ok (noteAttempt_apply spared attempt)]
      generalize ending : (search (strategy.trials reference description)
        announced.outside).ending = how at attempted
      cases attempted with
      | @healed before untried candidate split =>
          have hasAttempt : ({ middle with healer := some { healer with
              attempts := healer.attempts ++ [.healed strategy (before ++ [candidate])] } } :
                Session σ).healer = some _ := rfl
          obtain ⟨after, final, recorded, hasAfter, learns⟩ :=
            recordHealing_learns hasAttempt calmLater reference strategy (.first candidate.locator)
          have fallen := FallBack.healed (List.nil_append (strategy :: rest)).symm split
          simp only
          rw [search_append_of_ended (by rw [ending]; rintro ⟨⟩), ending, recorded]
          exact ⟨_, some strategy, after, fallen, hasAfter, learns.strategies,
            learns.attempts.trans (List.append_nil _), learns.entries⟩
      | missed =>
          simp only
          have hasAttempt : ({ middle with healer := some { healer with
              attempts := healer.attempts ++ [.missed reference description strategy] } } :
                Session σ).healer = some _ := rfl
          obtain ⟨attempts, healedBy, after, fallen, hasAfter, learns⟩ :=
            ih hasAttempt calmLater others (index + 1)
          refine ⟨.missed reference description strategy :: attempts, healedBy, after, ?_,
            hasAfter, ?_⟩
          · rw [search_append_of_exhausted ending, ← led.outside]
            exact fallen.after_missed strategy
          · exact ⟨learns.strategies, learns.attempts.trans (List.append_cons ..).symm,
              learns.entries⟩

/-- A look-up notes its own attempts alone, and who healed it. -/
theorem resolve_lookUp {healer : Healer} (has : session.healer = some healer)
    (calm : Outside.Calm session.outside)
    (proposes : ∀ strategy ∈ strategies, strategy.proposes reference description = true) :
    ∃ after attempts healedBy,
      LookUp strategies reference description
        (search (trialsOf strategies reference description) session.outside).ending
        (resolve strategies reference description session).1 attempts healedBy ∧
      winner? strategies reference description
        (search (trialsOf strategies reference description) session.outside).ending = healedBy ∧
      (resolve strategies reference description session).2.healer = some after ∧
      { healer with attempts := [] }.Learns after reference attempts healedBy := by
  obtain ⟨log, resolved⟩ := resolve_apply strategies reference description session
  rw [has, Option.map_some] at resolved
  rw [resolved]
  obtain ⟨ready, readied⟩ : ∃ ready : Session σ,
      ready = { session with log, healer := some { healer with attempts := [] } } := ⟨_, rfl⟩
  have outside : ready.outside = session.outside := by rw [readied]
  have hasReady : ready.healer = some { healer with attempts := [] } := by rw [readied]
  rw [← readied]
  rw [← outside] at calm ⊢
  obtain ⟨middle, led, primary⟩ := resolvePrimary_apply reference ready
  have spared := resolvePrimary_spares reference ready
  rw [hasReady] at spared
  rw [trialsOf]
  cases verdict : Trial.verdict ⟨.selector reference, {}⟩
      (Outside.probe (.selector reference) ready.outside).answer with
  | taken =>
      rw [verdict] at primary
      simp only at primary
      rw [primary] at spared
      rw [bind_apply_of_ok primary, search_cons_of_taken verdict]
      exact ⟨_, [], none, .hit, rfl, spared, rfl, rfl, (List.append_nil _).symm⟩
  | interrupted message => exact absurd verdict (calm.verdict _ message)
  | missed =>
      rw [verdict] at primary
      simp only at primary
      rw [primary] at spared
      rw [bind_apply_of_ok primary, search_cons_of_missed verdict, ← led.outside]
      simp only
      rw [bind_apply_of_ok (note_apply _ _ _ middle)]
      have calmLater : Outside.Calm middle.outside := by
        rw [led.outside]
        exact calm.later (Outside.probe_later _ _)
      have sparedNoted : ({ middle with log := middle.log ++ [⟨.info, .healing,
          s!"Primary selector failed: {reference} -- trying fallback strategies"⟩] } :
            Session σ).healer = some _ := spared
      obtain ⟨attempts, healedBy, after, fallen, hasAfter, learns⟩ :=
        tryStrategies_fallBack sparedNoted calmLater proposes 1
      exact ⟨after, attempts, healedBy, .fallBack fallen, fallen.winner?_past _, hasAfter, learns⟩

end LookingUp

end Play

/-- What a healer is used for: to look up a reference, or to empty its log. -/
inductive Healer.Use where
  | resolve (reference description : String)
  | clear

namespace Play

section Using

/-- Uses the healer of a session; a look-up may fail. -/
def use (strategies : List Strategy) : Healer.Use → Play σ Unit
  | .resolve reference description => do
    let _ ← ending (resolve strategies reference description)
    return ()
  | .clear => forgetHealing

/-- The session after several uses of its healer. -/
def useAll (strategies : List Strategy) (uses : List Healer.Use) (session : Session σ) :
    Session σ :=
  uses.foldl (fun reached next => (use strategies next reached).2) session

/-- The entries that uses add to the log of a healer: one for each look-up that is healed, in
order. -/
def entriesOf (strategies : List Strategy) : List Healer.Use → Session σ → List (String × String)
  | [], _ => []
  | .clear :: rest, session => entriesOf strategies rest (use strategies .clear session).2
  | .resolve reference description :: rest, session =>
    let searched := search (trialsOf strategies reference description) session.outside
    ((winner? strategies reference description searched.ending).map fun winner =>
      (reference, winner.name)).toList ++
        entriesOf strategies rest (use strategies (.resolve reference description) session).2

variable {strategies : List Strategy} {reference description : String} {session : Session σ}
  {healer : Healer}

theorem use_resolve (strategies : List Strategy) (reference description : String)
    (session : Session σ) :
    (use strategies (.resolve reference description) session).2 =
      (resolve strategies reference description session).2 := by
  have ended : ending (resolve strategies reference description) session =
      (.ok (resolve strategies reference description session).1,
        (resolve strategies reference description session).2) := rfl
  rw [use, bind_apply_of_ok ended, pure_apply]

/-- A use leaves the page calm. -/
theorem use_calm (calm : Outside.Calm session.outside) (next : Healer.Use) :
    Outside.Calm (use strategies next session).2.outside := by
  cases next with
  | clear => exact calm
  | resolve reference description =>
      rw [use_resolve]
      obtain ⟨allowed, -⟩ := (resolve_within anything_pages strategies reference
        description).allows session trivial
      exact calm.later allowed.outside

/-- A use leaves the healer with its strategies. -/
theorem use_keeps (has : session.healer = some healer) (calm : Outside.Calm session.outside)
    (proposes : ∀ strategy ∈ strategies, ∀ reference description,
      strategy.proposes reference description = true) (next : Healer.Use) :
    ∃ after, (use strategies next session).2.healer = some after ∧
      after.strategies = healer.strategies := by
  cases next with
  | clear => exact ⟨_, congrArg (Option.map _) has, rfl⟩
  | resolve reference description =>
      obtain ⟨after, _, _, -, -, hasAfter, learns⟩ := resolve_lookUp has calm
        fun strategy member => proposes strategy member reference description
      rw [use_resolve]
      exact ⟨after, hasAfter, learns.strategies⟩

theorem useAll_append (strategies : List Strategy) (early late : List Healer.Use)
    (session : Session σ) :
    useAll strategies (early ++ late) session =
      useAll strategies late (useAll strategies early session) :=
  List.foldl_append

theorem useAll_calm (calm : Outside.Calm session.outside) (uses : List Healer.Use) :
    Outside.Calm (useAll strategies uses session).outside := by
  induction uses generalizing session with
  | nil => exact calm
  | cons next rest ih => exact ih (use_calm calm next)

theorem useAll_keeps (has : session.healer = some healer) (calm : Outside.Calm session.outside)
    (proposes : ∀ strategy ∈ strategies, ∀ reference description,
      strategy.proposes reference description = true) (uses : List Healer.Use) :
    ∃ after, (useAll strategies uses session).healer = some after ∧
      after.strategies = healer.strategies := by
  induction uses generalizing session healer with
  | nil => exact ⟨healer, has, rfl⟩
  | cons next rest ih =>
      obtain ⟨middle, hasMiddle, same⟩ := use_keeps has calm proposes next
      obtain ⟨after, hasAfter, sameAfter⟩ := ih hasMiddle (use_calm calm next)
      exact ⟨after, hasAfter, sameAfter.trans same⟩

/-- As long as the log is not emptied, look-ups add the entries of those that are healed. -/
theorem useAll_entries (has : session.healer = some healer) (calm : Outside.Calm session.outside)
    (proposes : ∀ strategy ∈ strategies, ∀ reference description,
      strategy.proposes reference description = true) {uses : List Healer.Use}
    (unemptied : Healer.Use.clear ∉ uses) :
    ∃ after, (useAll strategies uses session).healer = some after ∧
      after.entries = healer.entries ++ entriesOf strategies uses session := by
  induction uses generalizing session healer with
  | nil => exact ⟨healer, has, (List.append_nil _).symm⟩
  | cons next rest ih =>
      obtain ⟨isLookUp, restUnemptied⟩ := List.ne_and_not_mem_of_not_mem_cons unemptied
      cases next with
      | clear => exact absurd rfl isLookUp
      | resolve reference description =>
          obtain ⟨middle, _, healedBy, -, winner, hasMiddle, learns⟩ := resolve_lookUp has calm
            fun strategy member => proposes strategy member reference description
          rw [← use_resolve] at hasMiddle
          obtain ⟨after, hasAfter, entries⟩ := ih hasMiddle (use_calm calm _) restUnemptied
          refine ⟨after, hasAfter, ?_⟩
          rw [entries, learns.entries, entriesOf, winner, List.append_assoc]
          rfl

/-- **The log has the look-ups that were healed.** Whatever a healer is used for, and whatever the
page answers as long as it does not interrupt, the log has one entry for each look-up since it was
last emptied that a strategy healed, in order, with the reference and the strategy; hits of the
reference itself and failures add none. The attempts are those of the last look-up: none for a hit,
otherwise one for each strategy up to the one that healed. -/
theorem useAll_log (has : session.healer = some healer) (calm : Outside.Calm session.outside)
    (proposes : ∀ strategy ∈ healer.strategies, ∀ reference description,
      strategy.proposes reference description = true) (uses : List Healer.Use) :
    ∃ after, (useAll healer.strategies uses session).healer = some after ∧
      after.strategies = healer.strategies ∧
      (.clear ∉ uses →
        after.entries = healer.entries ++ entriesOf healer.strategies uses session) ∧
      (∀ early late, uses = early ++ .clear :: late → .clear ∉ late →
        after.entries = entriesOf healer.strategies late
          (useAll healer.strategies (early ++ [.clear]) session)) ∧
      ∀ early reference description, uses = early ++ [.resolve reference description] →
        let reached := useAll healer.strategies early session
        let searched := search (trialsOf healer.strategies reference description) reached.outside
        LookUp healer.strategies reference description searched.ending
          (resolve healer.strategies reference description reached).1 after.attempts
          (winner? healer.strategies reference description searched.ending) := by
  obtain ⟨after, hasAfter, same⟩ := useAll_keeps has calm proposes uses
  refine ⟨after, hasAfter, same, ?_, ?_, ?_⟩
  · intro unemptied
    obtain ⟨other, hasOther, entries⟩ := useAll_entries has calm proposes unemptied
    obtain rfl := Option.some.inj (hasAfter.symm.trans hasOther)
    exact entries
  -- From the last emptying on, the healer is one without records.
  · rintro early late rfl unemptied
    obtain ⟨middle, hasMiddle, -⟩ := useAll_keeps has calm proposes early
    have hasEmptied : (useAll healer.strategies (early ++ [.clear]) session).healer =
        some { middle with records := [] } := by
      rw [useAll_append]
      exact congrArg (Option.map _) hasMiddle
    obtain ⟨other, hasOther, entries⟩ := useAll_entries hasEmptied
      (useAll_calm calm (early ++ [.clear])) proposes unemptied
    rw [← useAll_append, List.append_assoc, List.singleton_append] at hasOther
    obtain rfl := Option.some.inj (hasAfter.symm.trans hasOther)
    exact entries
  · rintro early reference description rfl
    intro reached searched
    obtain ⟨middle, hasMiddle, -⟩ := useAll_keeps has calm proposes early
    obtain ⟨other, attempts, healedBy, lookUp, winner, hasOther, learns⟩ :=
      resolve_lookUp hasMiddle (useAll_calm calm early)
        fun strategy member => proposes strategy member reference description
    rw [useAll_append] at hasAfter
    have last : (useAll healer.strategies [.resolve reference description]
        (useAll healer.strategies early session)).healer = some other :=
      (congrArg Session.healer (use_resolve _ _ _ _)).trans hasOther
    obtain rfl := Option.some.inj (hasAfter.symm.trans last)
    have noted : after.attempts = attempts := learns.attempts
    rw [noted, show winner? _ _ _ searched.ending = healedBy from winner]
    exact lookUp

/-- A healing, an emptied log, a healing, a hit and a failure, on a page that only fails. -/
theorem useAll_log_standard :
    let session : Session (Softened Scripted) :=
      { outside := ⟨{ elements := [("[id=\"save\"]", {}), ("h1", {})] }⟩
        healer := some { strategies := Strategy.standard } }
    let uses : List Healer.Use :=
      [.resolve "#save" "Save", .clear, .resolve "#save" "Save", .resolve "h1" "Heading",
        .resolve "#gone" "x"]
    Outside.Calm session.outside ∧
      (∀ strategy ∈ Strategy.standard, ∀ reference description,
        strategy.proposes reference description = true) ∧
      ∃ after, (useAll Strategy.standard uses session).healer = some after ∧
        after.entries = [("#save", "css_variations")] ∧
        after.attempts.map (·.outcome) =
          [.noMatch, .notApplicable, .notApplicable, .notApplicable, .notApplicable] := by
  intro session uses
  have proposes : ∀ strategy ∈ Strategy.standard, ∀ reference description,
      strategy.proposes reference description = true := by
    intro strategy member reference description
    simp only [Strategy.standard, List.mem_cons, List.not_mem_nil, or_false] at member
    rcases member with rfl | rfl | rfl | rfl | rfl <;> rfl
  have has : session.healer = some { strategies := Strategy.standard } := rfl
  obtain ⟨after, hasAfter, -, -, sinceEmptied, -⟩ :=
    useAll_log has (Softened.calm _) proposes uses
  have entries := sinceEmptied [.resolve "#save" "Save"]
    [.resolve "#save" "Save", .resolve "h1" "Heading", .resolve "#gone" "x"] rfl (by simp)
  refine ⟨Softened.calm _, proposes, after, hasAfter, entries.trans (by decide +kernel), ?_⟩
  have attempts : (useAll Strategy.standard uses session).healer.map
      (·.attempts.map (·.outcome)) = some
        [.noMatch, .notApplicable, .notApplicable, .notApplicable, .notApplicable] := by
    decide +kernel
  rw [hasAfter] at attempts
  exact Option.some.inj attempts

end Using

end Play

end Walkthrough
