import Mathlib.Data.List.Nodup
import Mathlib.Data.Set.Card
import Walkthrough.Proofs.Json.Names
import Walkthrough.Proofs.Steps.Request

/-!
# What variables remember

What is known of variables after any uses of them, told by the uses alone: a name has the value that
it was last given, unless it was taken away since; names stand in the order in which they were first
given a value since they had none; and time is measured from the last clearing. A use either changes
the variables or only reads them (`Walkthrough.Session.afterEvent_vars`); what one use keeps is
`Walkthrough.Variables.Reflects.changed`, and what sessions answer after any uses is
`Walkthrough.Session.afterHistory_remembers`.
-/

namespace Walkthrough

namespace Variables

/-- What can be done with the variables of a run. -/
inductive Use where
  | set (name : String) (value : Json)
  | remove (name : String)
  | clear
  | get (name : String) (default : Json)
  | has (name : String)
  | size
  | snapshot
  | expand (text : String)
  | note
  | elapsed

namespace Use

/-- What a use is answered with. -/
def Answer : Use → Type
  | set _ _ | remove _ | clear | note => Unit
  | get _ _ => Json
  | has _ => Bool
  | size => Nat
  | snapshot => List (String × Json)
  | expand _ => String
  | elapsed => Float

/-- A use that gives a name a value. -/
def Gives (name : String) : Use → Prop
  | set other _ => other = name
  | _ => False

/-- A use that takes a name's value away, if it has one. -/
def Takes (name : String) : Use → Prop
  | remove other => other = name
  | clear => True
  | _ => False

/-- Whether a use is the clearing of all variables. -/
def isClear : Use → Bool
  | clear => true
  | _ => false

/-- A use that asks what there is, and sets, removes or clears nothing. -/
inductive Reads : Use → Prop
  | get (name : String) (default : Json) : Reads (.get name default)
  | has (name : String) : Reads (.has name)
  | size : Reads .size
  | snapshot : Reads .snapshot
  | expand (text : String) : Reads (.expand text)
  | note : Reads .note
  | elapsed : Reads .elapsed

/-- A use after which a name has the value, or has none, that it had before. -/
def Spares (name : String) (use : Use) : Prop :=
  ¬ use.Gives name ∧ ¬ use.Takes name

theorem Gives.exists {name : String} {use : Use} (gives : use.Gives name) :
    ∃ value, use = .set name value := by
  cases use with
  | set other value => exact ⟨value, congrArg (set · value) gives⟩
  | _ => exact gives.elim

theorem Reads.spares {use : Use} (reads : use.Reads) (name : String) : use.Spares name := by
  cases reads <;> exact ⟨id, id⟩

theorem Reads.isClear {use : Use} (reads : use.Reads) : use.isClear = false := by
  cases reads <;> rfl

theorem Gives.not_takes {name other : String} {use : Use} (gives : use.Gives name) :
    ¬ use.Takes other := by
  obtain ⟨value, rfl⟩ := gives.exists
  exact id

end Use

/-- A use, and the world outside by then. -/
structure Event (σ : Type) where
  outside : σ
  use : Use

end Variables

section Uses

variable {σ : Type} [Outside σ]

/-- Does what a use asks for. -/
def Play.useVariables : (use : Variables.Use) → Play σ use.Answer
  | .set name value => setVariable name value
  | .remove name => removeVariable name
  | .clear => clearVariables
  | .get name default => getVariable name default
  | .has name => do return (← get).vars.has name
  | .size => do return (← get).vars.size
  | .snapshot => do return (← get).vars.entries
  | .expand text => expand text
  | .note => noteVariables
  | .elapsed => elapsed

/-- The session with variables that were made just now. -/
def Session.renewed (session : Session σ) : Session σ :=
  { session with vars := { started := Outside.clock session.outside } }

/-- The session after a use, in the world as it is by then. A use that ends with a fault is over. -/
def Session.afterEvent (session : Session σ) (event : Variables.Event σ) : Session σ :=
  (Play.useVariables event.use { session with outside := event.outside }).2

/-- The session after uses, one after the other. -/
def Session.afterHistory (session : Session σ) (history : List (Variables.Event σ)) : Session σ :=
  history.foldl Session.afterEvent session

end Uses

namespace Variables

variable {σ : Type} {history : List (Event σ)} {event : Event σ} {name : String} {value : Json}

/-- The last use that decides about the name gives it the value. -/
def IsSetTo (history : List (Event σ)) (name : String) (value : Json) : Prop :=
  ∃ before outside later, history = before ++ ⟨outside, .set name value⟩ :: later ∧
    ∀ event ∈ later, event.use.Spares name

/-- The last use that decides about the name gives it a value. -/
def IsPresent (history : List (Event σ)) (name : String) : Prop :=
  ∃ value, IsSetTo history name value

/-- No use gives the name a value after the last one that took its value away, or none at all if
its value was never taken. -/
def IsAbsent (history : List (Event σ)) (name : String) : Prop :=
  ∃ old idle, history = old ++ idle ∧ (∀ last ∈ old.getLast?, last.use.Takes name) ∧
    ∀ event ∈ idle, event.use.Spares name

/-- The use at this place is the first to give the name a value after the last use that took its
value away, or the first at all if none did. -/
def IsOrigin (history : List (Event σ)) (name : String) (place : Nat) : Prop :=
  ∃ before event later, history = before ++ event :: later ∧ place = before.length ∧
    event.use.Gives name ∧ IsAbsent before name ∧ ∀ event ∈ later, ¬ event.use.Takes name

section Histories

/-- An item of a list with a last item is that one, or one before it. -/
theorem concat_eq_append_cons {α : Type} {items before later : List α} {item last : α}
    (cut : items ++ [last] = before ++ item :: later) :
    (later = [] ∧ before = items ∧ item = last) ∨
      ∃ middle, later = middle ++ [last] ∧ items = before ++ item :: middle := by
  rcases later.eq_nil_or_concat with rfl | ⟨middle, other, rfl⟩
  · obtain ⟨same, ends⟩ := List.append_inj' cut rfl
    exact Or.inl ⟨rfl, same.symm, (List.cons.inj ends).1.symm⟩
  · have joined : items ++ [last] = (before ++ item :: middle) ++ [other] := by
      simpa using cut
    obtain ⟨same, ends⟩ := List.append_inj' joined rfl
    exact Or.inr ⟨middle, by rw [List.concat_eq_append, ends], same⟩

theorem isSetTo_concat :
    IsSetTo (history ++ [event]) name value ↔
      event.use = .set name value ∨ IsSetTo history name value ∧ event.use.Spares name := by
  constructor
  · rintro ⟨before, outside, later, cut, spared⟩
    rcases concat_eq_append_cons cut with ⟨rfl, rfl, rfl⟩ | ⟨middle, rfl, rfl⟩
    · exact Or.inl rfl
    · have spares := List.forall_mem_append.mp spared
      exact Or.inr ⟨⟨before, outside, middle, rfl, spares.1⟩,
        spares.2 event List.mem_cons_self⟩
  · rintro (set | ⟨⟨before, outside, later, rfl, spared⟩, spares⟩)
    · refine ⟨history, event.outside, [], ?_, List.forall_mem_nil _⟩
      rw [← set]
    · refine ⟨before, outside, later ++ [event], by simp, ?_⟩
      exact List.forall_mem_append.mpr ⟨spared, List.forall_mem_singleton.mpr spares⟩

theorem isPresent_concat :
    IsPresent (history ++ [event]) name ↔
      event.use.Gives name ∨ IsPresent history name ∧ event.use.Spares name := by
  constructor
  · rintro ⟨value, set⟩
    rcases isSetTo_concat.mp set with gives | ⟨earlier, spares⟩
    · left
      rw [gives]
      rfl
    · exact Or.inr ⟨⟨value, earlier⟩, spares⟩
  · rintro (gives | ⟨⟨value, earlier⟩, spares⟩)
    · obtain ⟨value, set⟩ := gives.exists
      exact ⟨value, isSetTo_concat.mpr (Or.inl set)⟩
    · exact ⟨value, isSetTo_concat.mpr (Or.inr ⟨earlier, spares⟩)⟩

theorem not_isPresent_nil : ¬ IsPresent ([] : List (Event σ)) name := by
  rintro ⟨value, before, outside, later, cut, -⟩
  exact List.append_ne_nil_of_right_ne_nil before (List.cons_ne_nil _ _) cut.symm

theorem isAbsent_nil : IsAbsent ([] : List (Event σ)) name := by
  refine ⟨[], [], rfl, ?_, List.forall_mem_nil _⟩
  rintro last ⟨⟩

theorem isAbsent_concat :
    IsAbsent (history ++ [event]) name ↔
      event.use.Takes name ∨ IsAbsent history name ∧ event.use.Spares name := by
  constructor
  · rintro ⟨old, idle, cut, taken, spared⟩
    rcases idle.eq_nil_or_concat with rfl | ⟨middle, last, rfl⟩
    · rw [List.append_nil] at cut
      refine Or.inl (taken event ?_)
      rw [← cut, List.getLast?_concat, Option.mem_def]
    · rw [List.concat_eq_append] at cut spared
      rw [← List.append_assoc] at cut
      obtain ⟨same, ends⟩ := List.append_inj' cut rfl
      obtain ⟨rfl, -⟩ := List.cons.inj ends
      have spares := List.forall_mem_append.mp spared
      exact Or.inr ⟨⟨old, middle, same, taken, spares.1⟩, spares.2 event List.mem_cons_self⟩
  · rintro (takes | ⟨⟨old, idle, rfl, taken, spared⟩, spares⟩)
    · refine ⟨history ++ [event], [], (List.append_nil _).symm, ?_, List.forall_mem_nil _⟩
      intro last among
      rw [List.getLast?_concat] at among
      exact Option.some.inj among ▸ takes
    · refine ⟨old, idle ++ [event], List.append_assoc _ _ _, taken, ?_⟩
      exact List.forall_mem_append.mpr ⟨spared, List.forall_mem_singleton.mpr spares⟩

/-- A name without a value is one that was given none since its value was last taken away. -/
theorem not_isPresent_iff : ¬ IsPresent history name ↔ IsAbsent history name := by
  induction history using List.reverseRecOn with
  | nil => exact iff_of_true not_isPresent_nil isAbsent_nil
  | append_singleton history event ih =>
      have apart : event.use.Gives name → ¬ event.use.Takes name := Use.Gives.not_takes
      rw [isPresent_concat, isAbsent_concat, ← ih, Use.Spares]
      tauto

/-- A name has its place by the use that found it without a value, until the value is taken. -/
theorem isOrigin_concat {place : Nat} :
    IsOrigin (history ++ [event]) name place ↔
      (event.use.Gives name ∧ IsAbsent history name ∧ place = history.length) ∨
        IsOrigin history name place ∧ ¬ event.use.Takes name := by
  constructor
  · rintro ⟨before, giver, later, cut, rfl, gives, absent, kept⟩
    rcases concat_eq_append_cons cut with ⟨rfl, rfl, rfl⟩ | ⟨middle, rfl, rfl⟩
    · exact Or.inl ⟨gives, absent, rfl⟩
    · have keeps := List.forall_mem_append.mp kept
      exact Or.inr ⟨⟨before, giver, middle, rfl, rfl, gives, absent, keeps.1⟩,
        keeps.2 event List.mem_cons_self⟩
  · rintro (⟨gives, absent, rfl⟩ |
      ⟨⟨before, giver, later, rfl, rfl, gives, absent, kept⟩, keeps⟩)
    · exact ⟨history, event, [], rfl, rfl, gives, absent, List.forall_mem_nil _⟩
    · refine ⟨before, giver, later ++ [event], by simp, rfl, gives, absent, ?_⟩
      exact List.forall_mem_append.mpr ⟨kept, List.forall_mem_singleton.mpr keeps⟩

theorem not_isOrigin_nil {place : Nat} : ¬ IsOrigin ([] : List (Event σ)) name place := by
  rintro ⟨before, event, later, cut, -⟩
  exact List.append_ne_nil_of_right_ne_nil _ (List.cons_ne_nil _ _) cut.symm

theorem IsOrigin.isPresent {place : Nat} (origin : IsOrigin history name place) :
    IsPresent history name := by
  induction history using List.reverseRecOn with
  | nil => exact absurd origin not_isOrigin_nil
  | append_singleton history event ih =>
      refine isPresent_concat.mpr ?_
      rcases isOrigin_concat.mp origin with ⟨gives, -, -⟩ | ⟨earlier, keeps⟩
      · exact Or.inl gives
      · by_cases gives : event.use.Gives name
        · exact Or.inl gives
        · exact Or.inr ⟨ih earlier, gives, keeps⟩

/-- A name with a value has a place. -/
theorem IsPresent.exists_isOrigin (present : IsPresent history name) :
    ∃ place, IsOrigin history name place := by
  induction history using List.reverseRecOn with
  | nil => exact absurd present not_isPresent_nil
  | append_singleton history event ih =>
      by_cases earlier : IsPresent history name ∧ ¬ event.use.Takes name
      · obtain ⟨place, origin⟩ := ih earlier.1
        exact ⟨place, isOrigin_concat.mpr (Or.inr ⟨origin, earlier.2⟩)⟩
      · rcases isPresent_concat.mp present with gives | ⟨before, spares⟩
        · have absent := not_isPresent_iff.mp fun before => earlier ⟨before, gives.not_takes⟩
          exact ⟨history.length, isOrigin_concat.mpr (Or.inl ⟨gives, absent, rfl⟩)⟩
        · exact absurd ⟨before, spares.2⟩ earlier

theorem IsOrigin.lt {place : Nat} (origin : IsOrigin history name place) :
    place < history.length := by
  obtain ⟨before, event, later, rfl, rfl, -⟩ := origin
  rw [List.length_append, List.length_cons]
  omega

/-- A name has one place. -/
theorem IsOrigin.unique {place other : Nat} (origin : IsOrigin history name place)
    (also : IsOrigin history name other) : place = other := by
  induction history using List.reverseRecOn with
  | nil => exact absurd origin not_isOrigin_nil
  | append_singleton history event ih =>
      rcases isOrigin_concat.mp origin with ⟨-, absent, here⟩ | ⟨earlier, -⟩ <;>
        rcases isOrigin_concat.mp also with ⟨-, lacks, there⟩ | ⟨before, -⟩
      · exact here.trans there.symm
      · exact absurd before.isPresent (not_isPresent_iff.mpr absent)
      · exact absurd earlier.isPresent (not_isPresent_iff.mpr lacks)
      · exact ih earlier before

end Histories

/-- The world in which all variables were last cleared, or else the one in which they were made. -/
def lastEmptied (made : σ) (history : List (Event σ)) : σ :=
  ((history.reverse.find? (·.use.isClear)).map (·.outside)).getD made

section Changes

variable {σ : Type} [Outside σ] {made : σ} {history : List (Event σ)} {event : Event σ}
  {vars : Variables} {name : String}

/-- The variables after a use. -/
def changed (vars : Variables) (event : Event σ) : Variables :=
  match event.use with
  | .set name value => vars.set name value
  | .remove name => vars.remove name
  | .clear => { started := Outside.clock event.outside }
  | .get _ _ | .has _ | .size | .snapshot | .expand _ | .note | .elapsed => vars

theorem changed_of_reads (reads : event.use.Reads) : vars.changed event = vars := by
  obtain ⟨outside, use⟩ := event
  cases reads <;> rfl

/-- One name stands before another if it has been there for longer. -/
def Precedes (history : List (Event σ)) (first second : String) : Prop :=
  ∃ earlier later, IsOrigin history first earlier ∧ IsOrigin history second later ∧
    earlier < later

omit [Outside σ] in
theorem Precedes.concat {first second : String} (precedes : Precedes history first second)
    (keeps : ¬ event.use.Takes first) (keepsToo : ¬ event.use.Takes second) :
    Precedes (history ++ [event]) first second := by
  obtain ⟨earlier, later, origin, also, before⟩ := precedes
  exact ⟨earlier, later, isOrigin_concat.mpr (Or.inr ⟨origin, keeps⟩),
    isOrigin_concat.mpr (Or.inr ⟨also, keepsToo⟩), before⟩

/-- Variables that are as the uses since they were made let expect. -/
structure Reflects (made : σ) (history : List (Event σ)) (vars : Variables) : Prop where
  once : (vars.entries.map (·.1)).Nodup
  holds : ∀ name value, (name, value) ∈ vars.entries ↔ IsSetTo history name value
  ordered : (vars.entries.map (·.1)).Pairwise (Precedes history)
  started : vars.started = Outside.clock (lastEmptied made history)

omit [Outside σ] in
theorem lastEmptied_concat (made : σ) (history : List (Event σ)) (event : Event σ) :
    lastEmptied made (history ++ [event]) =
      if event.use.isClear then event.outside else lastEmptied made history := by
  rw [lastEmptied, List.reverse_append, List.reverse_singleton, List.singleton_append,
    List.find?_cons]
  cases event.use.isClear <;> rfl

theorem reflects_nil (made : σ) :
    Reflects made [] { started := Outside.clock made } where
  once := List.nodup_nil
  holds := by
    intro name value
    exact iff_of_false List.not_mem_nil fun set => not_isPresent_nil ⟨value, set⟩
  ordered := List.Pairwise.nil
  started := rfl

namespace Reflects

theorem get?_eq_some_iff (reflects : Reflects made history vars) {value : Json} :
    vars.get? name = some value ↔ IsSetTo history name value :=
  (Fields.get?_eq_some_iff reflects.once).trans (reflects.holds name value)

theorem isPresent_iff (reflects : Reflects made history vars) :
    name ∈ vars.entries.map (·.1) ↔ IsPresent history name := by
  constructor
  · intro among
    obtain ⟨⟨_, value⟩, held, rfl⟩ := List.mem_map.mp among
    exact ⟨value, (reflects.holds _ value).mp held⟩
  · rintro ⟨value, set⟩
    exact List.mem_map.mpr ⟨(name, value), (reflects.holds name value).mpr set, rfl⟩

theorem get?_eq_none_iff (reflects : Reflects made history vars) :
    vars.get? name = none ↔ ¬ IsPresent history name :=
  Fields.get?_eq_none_iff.trans (not_congr reflects.isPresent_iff)

/-- After a use that gives a name a value: a new name stands last, another keeps its place. -/
theorem set (reflects : Reflects made history vars) {value : Json}
    (sets : event.use = .set name value) :
    Reflects made (history ++ [event]) (vars.set name value) where
  once := Fields.nodup_put reflects.once
  holds := by
    intro other held
    have spares : event.use.Spares other ↔ other ≠ name := by
      rw [sets]
      exact ⟨fun spares same => spares.1 same.symm, fun other => ⟨fun same => other same.symm, id⟩⟩
    have gives : event.use = .set other held ↔ other = name ∧ held = value := by
      rw [sets, Use.set.injEq]
      exact and_congr eq_comm eq_comm
    rw [isSetTo_concat, gives, spares, @and_comm (IsSetTo history other held)]
    exact (Fields.mem_put_iff reflects.once).trans
      (or_congr Iff.rfl (and_congr_right' (reflects.holds other held)))
  ordered := by
    have keeps (other : String) : ¬ event.use.Takes other := by
      rw [sets]
      exact id
    have before := reflects.ordered.imp fun precedes => precedes.concat (keeps _) (keeps _)
    rw [Variables.set, Fields.map_put]
    by_cases known : name ∈ vars.entries.map (·.1)
    · rw [if_pos known]
      exact before
    · -- The new name stands last, and its place is the end of the history.
      rw [if_neg known, List.pairwise_append]
      refine ⟨before, List.pairwise_singleton _ _, fun first among second last => ?_⟩
      obtain ⟨place, origin⟩ := (reflects.isPresent_iff.mp among).exists_isOrigin
      rw [List.mem_singleton.mp last]
      refine ⟨place, history.length, isOrigin_concat.mpr (Or.inr ⟨origin, keeps first⟩),
        isOrigin_concat.mpr (Or.inl ⟨?_, ?_, rfl⟩), origin.lt⟩
      · rw [sets]
        rfl
      · exact not_isPresent_iff.mp fun present => known (reflects.isPresent_iff.mpr present)
  started := by
    rw [lastEmptied_concat, sets]
    exact reflects.started

/-- After a use that takes the value of one name away, the others stand as they did. -/
theorem remove (reflects : Reflects made history vars) (removes : event.use = .remove name) :
    Reflects made (history ++ [event]) (vars.remove name) where
  once := by
    rw [Variables.remove, Fields.map_erase]
    exact reflects.once.filter _
  holds := by
    intro other held
    have spares : event.use.Spares other ↔ other ≠ name := by
      rw [removes]
      exact ⟨fun spares same => spares.2 same.symm, fun other => ⟨id, fun same => other same.symm⟩⟩
    have gives : event.use ≠ .set other held := by
      rw [removes]
      rintro ⟨⟩
    rw [isSetTo_concat, spares, or_iff_right gives, ← reflects.holds other held]
    exact Fields.mem_erase_iff
  ordered := by
    have keeps {other : String} (among : other ∈ (vars.entries.map (·.1)).filter (· ≠ name)) :
        ¬ event.use.Takes other := by
      rw [removes]
      intro same
      exact (of_decide_eq_true (List.mem_filter.mp among).2) same.symm
    rw [Variables.remove, Fields.map_erase]
    refine (reflects.ordered.filter _).imp_of_mem fun first second precedes => ?_
    exact precedes.concat (keeps first) (keeps second)
  started := by
    rw [lastEmptied_concat, removes]
    exact reflects.started

/-- After the clearing there are no names, and time is measured from then. -/
theorem clear (clears : event.use = .clear) :
    Reflects made (history ++ [event]) { started := Outside.clock event.outside } where
  once := List.nodup_nil
  holds := by
    intro name value
    refine iff_of_false List.not_mem_nil fun set => ?_
    rcases isSetTo_concat.mp set with gives | ⟨-, spares⟩
    · rw [clears] at gives
      cases gives
    · rw [clears] at spares
      exact spares.2 trivial
  ordered := List.Pairwise.nil
  started := by
    rw [lastEmptied_concat, clears]
    rfl

/-- A use that only reads leaves all as it is. -/
theorem reads (reflects : Reflects made history vars) (reads : event.use.Reads) :
    Reflects made (history ++ [event]) vars where
  once := reflects.once
  holds := by
    intro name value
    have gives : event.use ≠ .set name value := by
      intro sets
      rw [sets] at reads
      cases reads
    rw [isSetTo_concat, or_iff_right gives, and_iff_left (reads.spares name)]
    exact reflects.holds name value
  ordered := reflects.ordered.imp fun precedes =>
    precedes.concat (reads.spares _).2 (reads.spares _).2
  started := by
    rw [lastEmptied_concat, reads.isClear]
    exact reflects.started

/-- What one use keeps: variables that are as the uses let expect are so after one more. -/
theorem changed (reflects : Reflects made history vars) (event : Event σ) :
    Reflects made (history ++ [event]) (vars.changed event) := by
  by_cases reads : event.use.Reads
  · rw [changed_of_reads reads]
    exact reflects.reads reads
  · obtain ⟨outside, use⟩ := event
    cases use with
    | set name value => exact reflects.set rfl
    | remove name => exact reflects.remove rfl
    | clear => exact clear rfl
    | _ => exact absurd (by constructor) reads

end Reflects

end Changes

end Variables

/-- A session answers what the uses of its variables since they were made let expect. -/
structure Session.Remembers {σ : Type} [Outside σ] (session : Session σ) (made : σ)
    (history : List (Variables.Event σ)) : Prop where
  has : ∀ name, ∃ answer : Bool, (Play.useVariables (.has name) session).1 = .ok answer ∧
    (answer = true ↔ Variables.IsPresent history name)
  get : ∀ name default value, Variables.IsSetTo history name value →
    (Play.useVariables (.get name default) session).1 = .ok value
  default : ∀ name default, ¬ Variables.IsPresent history name →
    (Play.useVariables (.get name default) session).1 = .ok default
  snapshot : ∃ entries : List (String × Json),
    (Play.useVariables .snapshot session).1 = .ok entries ∧
    (entries.map (·.1)).Nodup ∧
    (∀ name value, (name, value) ∈ entries ↔ Variables.IsSetTo history name value) ∧
    (∀ entry ∈ entries, ∃ place, Variables.IsOrigin history entry.1 place) ∧
    entries.Pairwise fun first second => ∀ earlier later,
      Variables.IsOrigin history first.1 earlier → Variables.IsOrigin history second.1 later →
        earlier < later
  size : (Play.useVariables .size session).1 =
    .ok (Set.ncard {name | Variables.IsPresent history name})
  elapsed : (Play.useVariables .elapsed session).1 =
    .ok (Outside.clock session.outside - Outside.clock (Variables.lastEmptied made history))
  reads : ∀ use : Variables.Use, use.Reads → ∃ log,
    (Play.useVariables use session).2 = { session with log }

section Sessions

variable {σ : Type} [Outside σ]

namespace Play

omit [Outside σ] in
theorem getVariable_apply (name : String) (default : Json) (session : Session σ) :
    ∃ log, getVariable name default session =
      (.ok ((session.vars.get? name).getD default), { session with log }) := by
  rw [getVariable, bind_apply_of_ok (get_apply session)]
  rcases session.vars.get? name with _ | value <;> exact ⟨_, rfl⟩

omit [Outside σ] in
theorem getVariable_fst (name : String) (default : Json) (session : Session σ) :
    (getVariable name default session).1 = .ok ((session.vars.get? name).getD default) := by
  obtain ⟨log, ended⟩ := getVariable_apply name default session
  rw [ended]

/-- A use that only reads leaves the session as it is but for its log. -/
theorem useVariables_reads {use : Variables.Use} (reads : use.Reads) (session : Session σ) :
    ∃ log, (useVariables use session).2 = { session with log } := by
  cases reads with
  | has | size | snapshot | elapsed => exact ⟨session.log, rfl⟩
  | get name default =>
      obtain ⟨log, ended⟩ := getVariable_apply name default session
      exact ⟨log, congrArg Prod.snd ended⟩
  | expand text =>
      rcases filled : session.vars.expand text with missing | expanded
      · exact ⟨session.log, congrArg Prod.snd (expand_of_error filled)⟩
      · obtain ⟨after, ⟨lines, rfl⟩, ended⟩ := expand_of_ok filled
        exact ⟨_, congrArg Prod.snd ended⟩
  | note =>
      obtain ⟨_, log, ended⟩ := noteVariables_silent session
      exact ⟨log, congrArg Prod.snd ended⟩

end Play

/-- A session whose variables are as the uses let expect answers as they let expect. -/
theorem Variables.Reflects.remembers {made : σ} {history : List (Variables.Event σ)}
    {session : Session σ} (reflects : Variables.Reflects made history session.vars) :
    session.Remembers made history where
  has := by
    intro name
    refine ⟨_, rfl, ?_⟩
    rw [Variables.has, Option.isSome_iff_exists]
    exact exists_congr fun value => reflects.get?_eq_some_iff
  get := by
    intro name default value set
    refine (Play.getVariable_fst name default session).trans ?_
    rw [reflects.get?_eq_some_iff.mpr set, Option.getD_some]
    rfl
  default := by
    intro name default absent
    refine (Play.getVariable_fst name default session).trans ?_
    rw [reflects.get?_eq_none_iff.mpr absent, Option.getD_none]
    rfl
  snapshot := by
    refine ⟨session.vars.entries, rfl, reflects.once, reflects.holds, ?_, ?_⟩
    · intro entry among
      exact (reflects.isPresent_iff.mp (List.mem_map_of_mem among)).exists_isOrigin
    · refine (List.pairwise_map.mp reflects.ordered).imp ?_
      rintro first second ⟨place, other, origin, also, before⟩ earlier later here there
      rwa [here.unique origin, there.unique also]
  size := by
    have names : {name | Variables.IsPresent history name} =
        ((session.vars.entries.map (·.1)).toFinset : Set String) := by
      ext name
      rw [Finset.mem_coe, List.mem_toFinset, reflects.isPresent_iff]
      rfl
    rw [names, Set.ncard_coe_finset, List.toFinset_card_of_nodup reflects.once, List.length_map]
    rfl
  elapsed := by
    rw [← reflects.started]
    rfl
  reads := fun _ reads => Play.useVariables_reads reads session

namespace Session

/-- A use changes the variables by itself alone, in the world as it is by then. -/
theorem afterEvent_vars (session : Session σ) (event : Variables.Event σ) :
    (session.afterEvent event).vars = session.vars.changed event := by
  by_cases reads : event.use.Reads
  · obtain ⟨log, ended⟩ := Play.useVariables_reads reads { session with outside := event.outside }
    have kept := congrArg Session.vars ended
    rw [Variables.changed_of_reads reads]
    exact kept
  · obtain ⟨outside, use⟩ := event
    cases use with
    | set | remove | clear => rfl
    | _ => exact absurd (by constructor) reads

/-- What a run of uses keeps. -/
theorem afterHistory_reflects (session : Session σ) (history : List (Variables.Event σ)) :
    Variables.Reflects session.outside history (session.renewed.afterHistory history).vars := by
  -- A use is judged by what comes before it, so the history grows at its end.
  induction history using List.reverseRecOn with
  | nil => exact Variables.reflects_nil session.outside
  | append_singleton history event ih =>
      rw [afterHistory, List.foldl_concat, afterEvent_vars]
      exact ih.changed event

/-- **What variables answer after any uses of them.** Take a session whose variables are made in the
world as it is, and any uses, each in a world of its own time. Asked in whatever world, the session
has a value for just the names that were last given one, and it is the last that was given; all
other names have the default. All names with a value are listed once, by the uses that first gave
them one since they had none, and counted; the time that has passed is that since the last clearing
or since the variables were made; and no question changes anything but the log. -/
theorem afterHistory_remembers (session : Session σ) (history : List (Variables.Event σ))
    (world : σ) :
    ({ session.renewed.afterHistory history with outside := world } : Session σ).Remembers
      session.outside history :=
  Variables.Reflects.remembers (afterHistory_reflects session history)

end Session

end Sessions

end Walkthrough
