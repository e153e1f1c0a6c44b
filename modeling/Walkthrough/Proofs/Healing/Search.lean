import Walkthrough.Healing.Basic
import Walkthrough.Outside.Call

/-!
# Searching a page

A search probes trials one after the other in a world outside, and takes the first that is accepted
(`Walkthrough.search`). It ends in the first trials or goes on in the others
(`Walkthrough.search_append_of_ended`, `Walkthrough.search_append_of_exhausted`), and what it takes
comes after trials that it missed (`Walkthrough.search_found`).
-/

namespace Walkthrough

/-- A locator that may be taken, and the counts of matches with which it is. -/
structure Trial where
  locator : Locator
  acceptance : Acceptance

/-- What a trial comes to. -/
inductive Trial.Verdict where
  | taken
  | missed
  | interrupted (message : String)

/-- A trial is missed if the page fails to count the matches, or their count is not accepted. -/
def Trial.verdict (trial : Trial) : Except Mishap Int → Trial.Verdict
  | .ok count => if trial.acceptance.accepts count then .taken else .missed
  | .error (.failure _ _) => .missed
  | .error (.interrupt message) => .interrupted message

section Verdict

variable {trial : Trial} {answer : Except Mishap Int}

theorem Trial.verdict_of_accepted {count : Int} (answered : answer = .ok count)
    (accepted : trial.acceptance.accepts count = true) : trial.verdict answer = .taken := by
  rw [answered, verdict, if_pos accepted]

theorem Trial.verdict_of_rejected {count : Int} (answered : answer = .ok count)
    (rejected : ¬ trial.acceptance.accepts count = true) : trial.verdict answer = .missed := by
  rw [answered, verdict, if_neg rejected]

theorem Trial.verdict_of_failure {kind : MishapKind} {message : String}
    (failed : answer = .error (.failure kind message)) : trial.verdict answer = .missed := by
  rw [failed, verdict]

theorem Trial.verdict_of_interrupt {message : String}
    (stopped : answer = .error (.interrupt message)) :
    trial.verdict answer = .interrupted message := by
  rw [stopped, verdict]

/-- Without further conditions, any count but none is accepted. -/
theorem Acceptance.accepts_default (count : Int) :
    ({} : Acceptance).accepts count = true ↔ 0 < count := by
  simp only [accepts, Bool.and_true, decide_eq_true_eq]
  omega

end Verdict

/-- The trials that a strategy adds to a look-up. -/
def Strategy.trials (strategy : Strategy) (reference description : String) : List Trial :=
  ((strategy.propose reference description).getD []).map fun candidate =>
    ⟨candidate.locator, strategy.acceptance⟩

/-- Whether a strategy has a list of candidates at all. -/
def Strategy.proposes (strategy : Strategy) (reference description : String) : Bool :=
  (strategy.propose reference description).isSome

/-- The trials of the strategies in order, up to the first that has no list of candidates. -/
def fallbackTrials (strategies : List Strategy) (reference description : String) : List Trial :=
  (strategies.takeWhile (·.proposes reference description)).flatMap
    (·.trials reference description)

theorem fallbackTrials_cons_of_proposes {strategy : Strategy} {reference description : String}
    (proposes : strategy.proposes reference description = true) (rest : List Strategy) :
    fallbackTrials (strategy :: rest) reference description =
      strategy.trials reference description ++ fallbackTrials rest reference description := by
  simp [fallbackTrials, proposes]

theorem fallbackTrials_cons_of_not_proposes {strategy : Strategy} {reference description : String}
    (proposes : ¬ strategy.proposes reference description = true) (rest : List Strategy) :
    fallbackTrials (strategy :: rest) reference description = [] := by
  simp [fallbackTrials, proposes]

/-- The trials of a look-up: the reference itself, with any count but none, and the fallbacks. -/
def trialsOf (strategies : List Strategy) (reference description : String) : List Trial :=
  ⟨.selector reference, {}⟩ :: fallbackTrials strategies reference description

/-- How a search ends: with a trial after those that were missed, without one, or by an
interrupt. -/
inductive SearchEnd where
  | found (missed : List Trial) (taken : Trial)
  | exhausted
  | interrupted (message : String)

namespace SearchEnd

/-- The end of a search that missed other trials before. -/
def past (earlier : List Trial) : SearchEnd → SearchEnd
  | found missed taken => found (earlier ++ missed) taken
  | exhausted => exhausted
  | interrupted message => interrupted message

/-- What holds in each of the ways that a search can end, whatever was missed. -/
def Cases (found : Trial → Prop) (exhausted : Prop) (interrupted : String → Prop) :
    SearchEnd → Prop
  | .found _ taken => found taken
  | .exhausted => exhausted
  | .interrupted message => interrupted message

@[simp] theorem cases_past (earlier : List Trial) (ending : SearchEnd) (found : Trial → Prop)
    (exhausted : Prop) (interrupted : String → Prop) :
    (ending.past earlier).Cases found exhausted interrupted =
      ending.Cases found exhausted interrupted := by
  cases ending with
  | found missed taken => rfl
  | exhausted => rfl
  | interrupted message => rfl

theorem past_eq_exhausted_iff {earlier : List Trial} {ending : SearchEnd} :
    ending.past earlier = .exhausted ↔ ending = .exhausted := by
  cases ending with
  | found missed taken => simp [past]
  | exhausted => simp [past]
  | interrupted message => simp [past]

theorem past_eq_found_iff {earlier missed : List Trial} {taken : Trial} {ending : SearchEnd} :
    ending.past earlier = .found missed taken ↔
      ∃ others, ending = .found others taken ∧ missed = earlier ++ others := by
  cases ending with
  | found others other =>
      constructor
      · rintro ⟨⟩
        exact ⟨others, rfl, rfl⟩
      · rintro ⟨_, ⟨⟩, rfl⟩
        rfl
  | exhausted => simp [past]
  | interrupted message => simp [past]

theorem past_past (first second : List Trial) (ending : SearchEnd) :
    (ending.past second).past first = ending.past (first ++ second) := by
  cases ending with
  | found missed taken => simp [past]
  | exhausted => rfl
  | interrupted message => rfl

end SearchEnd

variable {σ : Type}

/-- What a probe comes to: the answer of the page, the calls that leave a trace, and the world
afterwards. -/
structure Probed (σ : Type) where
  answer : Except Mishap Int
  calls : List Call
  world : σ

/-- What a search comes to: its end, the calls that leave a trace, and the world afterwards. -/
structure Searched (σ : Type) where
  ending : SearchEnd
  calls : List Call
  world : σ

variable [Outside σ]

/-- Counts the matches of a locator, once the page has made it. -/
def Outside.probe (locator : Locator) (world : σ) : Probed σ :=
  match Outside.reply (.locate locator) world with
  | (.error mishap, after) => ⟨.error mishap, [], after⟩
  | (.ok _, middle) =>
    ⟨(Outside.reply (.element locator .count) middle).1, [.element locator .count],
      (Outside.reply (.element locator .count) middle).2⟩

/-- Probes one trial after the other, up to the first that is taken. -/
def search : List Trial → σ → Searched σ
  | [], world => ⟨.exhausted, [], world⟩
  | trial :: rest, world =>
    let probed := Outside.probe trial.locator world
    match trial.verdict probed.answer with
    | .taken => ⟨.found [] trial, probed.calls, probed.world⟩
    | .interrupted message => ⟨.interrupted message, probed.calls, probed.world⟩
    | .missed =>
      let later := search rest probed.world
      ⟨later.ending.past [trial], probed.calls ++ later.calls, later.world⟩

section Search

variable {trial : Trial} {world : σ} {first : List Trial}

theorem search_cons_of_taken
    (verdict : trial.verdict (Outside.probe trial.locator world).answer = .taken)
    (rest : List Trial) :
    search (trial :: rest) world = ⟨.found [] trial, (Outside.probe trial.locator world).calls,
      (Outside.probe trial.locator world).world⟩ := by
  simp only [search, verdict]

theorem search_cons_of_interrupted {message : String}
    (verdict : trial.verdict (Outside.probe trial.locator world).answer = .interrupted message)
    (rest : List Trial) :
    search (trial :: rest) world = ⟨.interrupted message,
      (Outside.probe trial.locator world).calls, (Outside.probe trial.locator world).world⟩ := by
  simp only [search, verdict]

theorem search_cons_of_missed
    (verdict : trial.verdict (Outside.probe trial.locator world).answer = .missed)
    (rest : List Trial) :
    search (trial :: rest) world =
      ⟨(search rest (Outside.probe trial.locator world).world).ending.past [trial],
        (Outside.probe trial.locator world).calls ++
          (search rest (Outside.probe trial.locator world).world).calls,
        (search rest (Outside.probe trial.locator world).world).world⟩ := by
  simp only [search, verdict]

/-- A search that finds nothing in the first trials goes on in the others. -/
theorem search_append_of_exhausted (ended : (search first world).ending = .exhausted)
    (second : List Trial) :
    search (first ++ second) world =
      ⟨(search second (search first world).world).ending.past first,
        (search first world).calls ++ (search second (search first world).world).calls,
        (search second (search first world).world).world⟩ := by
  induction first generalizing world with
  | nil =>
      rw [List.nil_append, search]
      obtain ⟨ending, calls, after⟩ := search second world
      cases ending with
      | found missed taken => rfl
      | exhausted => rfl
      | interrupted message => rfl
  | cons trial rest ih =>
      cases verdict : trial.verdict (Outside.probe trial.locator world).answer with
      | taken =>
          rw [search_cons_of_taken verdict] at ended
          cases ended
      | interrupted message =>
          rw [search_cons_of_interrupted verdict] at ended
          cases ended
      | missed =>
          rw [search_cons_of_missed verdict] at ended
          rw [List.cons_append, search_cons_of_missed verdict, search_cons_of_missed verdict,
            ih (SearchEnd.past_eq_exhausted_iff.mp ended), SearchEnd.past_past, List.append_assoc]
          rfl

/-- A search that ends in the first trials makes none of the others. -/
theorem search_append_of_ended (ended : (search first world).ending ≠ .exhausted)
    (second : List Trial) :
    search (first ++ second) world = search first world := by
  induction first generalizing world with
  | nil => exact absurd rfl ended
  | cons trial rest ih =>
      rw [List.cons_append]
      cases verdict : trial.verdict (Outside.probe trial.locator world).answer with
      | taken => rw [search_cons_of_taken verdict, search_cons_of_taken verdict]
      | interrupted message =>
          rw [search_cons_of_interrupted verdict, search_cons_of_interrupted verdict]
      | missed =>
          rw [search_cons_of_missed verdict] at ended
          rw [search_cons_of_missed verdict, search_cons_of_missed verdict, ih]
          exact fun restEnded => ended (SearchEnd.past_eq_exhausted_iff.mpr restEnded)

/-- What a search finds is one of its trials, and it missed those before it. -/
theorem search_found {trials missed : List Trial} {taken : Trial}
    (found : (search trials world).ending = .found missed taken) :
    ∃ later, trials = missed ++ taken :: later := by
  induction trials generalizing world missed with
  | nil => cases found
  | cons trial rest ih =>
      cases verdict : trial.verdict (Outside.probe trial.locator world).answer with
      | taken =>
          rw [search_cons_of_taken verdict] at found
          cases found
          exact ⟨rest, rfl⟩
      | interrupted message =>
          rw [search_cons_of_interrupted verdict] at found
          cases found
      | missed =>
          rw [search_cons_of_missed verdict] at found
          obtain ⟨others, ending, rfl⟩ := SearchEnd.past_eq_found_iff.mp found
          obtain ⟨later, rfl⟩ := ih ending
          exact ⟨later, rfl⟩

end Search

end Walkthrough
