import Walkthrough.Outside.Scripted
import Walkthrough.Proofs.Page.Parallel

/-!
# Pages on which the first element is the element

What healing takes for granted of a page (`Walkthrough.Outside.Steady`): it makes no difference
whether elements are counted, and what is done to the first element of a locator is done to the
element of the locator. A scripted world is such a page, up to its clock
(`Walkthrough.Scripted.steady`).
-/

namespace Walkthrough

variable {σ : Type}

/-- The same answer, in worlds that count as the same. -/
structure Outside.SameReply {α : Type} (same : σ → σ → Prop) (reply other : Except Mishap α × σ) :
    Prop where
  answer : reply.1 = other.1
  world : same reply.2 other.2

theorem Outside.SameReply.of_eq {α : Type} {same : σ → σ → Prop} (refl : ∀ world, same world world)
    {reply other : Except Mishap α × σ} (equal : reply = other) : SameReply same reply other := by
  cases equal
  exact ⟨rfl, refl _⟩

/-- A locator leads to elements: their count is answered, and it is not zero. -/
def Outside.Finds [Outside σ] (world : σ) (locator : Locator) : Prop :=
  ∃ count : Int, (Outside.reply (.element locator .count) world).1 = .ok count ∧ 0 < count

/-- Two locators of the same part, of the first element of a locator and of its element. -/
inductive Locator.SamePart : Locator → Locator → Prop
  | within (table : Locator) (expression : String) :
    SamePart (.within (.first table) expression) (.within table expression)
  | row {part other : Locator} (same : SamePart part other) (index : Nat) :
    SamePart (.row part index) (.row other index)

/-- Worlds that count as the same answer alike, a world in which elements are counted counts as the
same as before, and the first element of a locator answers like the element of the locator. A
failure may show the locator, so that the latter is only asked for where there are elements. -/
structure Outside.Steady [Outside σ] (same : σ → σ → Prop) : Prop where
  equivalence : Equivalence same
  replies : ∀ {world other}, same world other → ∀ call,
    Outside.SameReply same (Outside.reply call world) (Outside.reply call other)
  counting : ∀ locator world, same (Outside.reply (.element locator .count) world).2 world
  first : ∀ {locator world}, Outside.Finds world locator → ∀ act : ElementAct, act.isTouch = true →
    Outside.SameReply same (Outside.reply (.element (.first locator) act) world)
      (Outside.reply (.element locator act) world)
  parts : ∀ {part other}, Locator.SamePart part other → ∀ act world,
    Outside.SameReply same (Outside.reply (.element part act) world)
      (Outside.reply (.element other act) world)

theorem Locator.SamePart.key {part other : Locator} (same : SamePart part other) :
    part.key = other.key := by
  induction same with
  | within table expression => rfl
  | row same index ih => rw [Locator.key, Locator.key, ih]

theorem Locator.SamePart.shown {part other : Locator} (same : SamePart part other) :
    part.shown = other.shown := by
  cases same with
  | within table expression => rfl
  | row same index => exact (SamePart.row same index).key

namespace Scripted

/-- The world with its clock at zero. -/
def stopped (world : Scripted) : Scripted :=
  { world with clock := 0.0 }

/-- Two worlds with the same script, at any times. -/
def SameScript (world other : Scripted) : Prop :=
  world.stopped = other.stopped

theorem stopped_spend (world : Scripted) (name : String) :
    (world.spend name).stopped = world.stopped := by
  unfold spend
  split
  · rfl
  · rfl

theorem answerOf_congr (element : ScriptedElement) {locator other : Locator}
    (shown : locator.shown = other.shown) (act : ElementAct) :
    answerOf element locator act = answerOf element other act := by
  cases act <;> simp only [answerOf, needing, shown]

/-- The answer to a touch of an element that is there does not show the locator. -/
theorem answerOf_touch {element : ScriptedElement} (there : 0 < element.count)
    (locator other : Locator) {act : ElementAct} (touch : act.isTouch = true) :
    answerOf element locator act = answerOf element other act := by
  have absent : ¬ element.count < 1 := by omega
  cases act with
  | click timeout => simp only [answerOf, needing, if_neg absent]
  | fill value => simp only [answerOf, needing, if_neg absent]
  | _ => cases touch

theorem nextReply_stopped (world : Scripted) :
    (nextReply world).1 = (nextReply world.stopped).1 ∧
      (nextReply world).2.stopped = (nextReply world.stopped).2.stopped := by
  have replies : world.stopped.replies = world.replies := rfl
  rw [nextReply, nextReply, replies]
  cases world.replies with
  | nil => exact ⟨rfl, rfl⟩
  | cons reply rest => exact ⟨rfl, rfl⟩

theorem turn_stopped (world : Scripted) (name : String)
    (shown : List (String × ScriptedElement)) :
    (turn world name shown).1 = (turn world.stopped name shown).1 ∧
      (turn world name shown).2.stopped = (turn world.stopped name shown).2.stopped := by
  have spent : (world.spend name).stopped = (world.stopped.spend name).stopped := by
    rw [stopped_spend, stopped_spend]
    rfl
  have fails : (world.stopped.spend name).pageFails = (world.spend name).pageFails :=
    (congrArg pageFails spent).symm
  simp only [turn, fails]
  split
  · exact ⟨rfl, spent⟩
  · exact ⟨rfl, congrArg (·.withElements shown) spent⟩

theorem touch_stopped (world : Scripted) (locator : Locator) (act : ElementAct) :
    (touch world locator act).1 = (touch world.stopped locator act).1 ∧
      (touch world locator act).2.stopped = (touch world.stopped locator act).2.stopped := by
  have spent : (world.spend act.name).stopped = (world.stopped.spend act.name).stopped := by
    rw [stopped_spend, stopped_spend]
    rfl
  cases locator with
  | row table index => exact ⟨rfl, spent⟩
  | _ => exact ⟨rfl, congrArg (withElements · _) spent⟩

/-- No reply depends on the clock. -/
theorem reply_stopped (call : Call) (world : Scripted) :
    (reply call world).1 = (reply call world.stopped).1 ∧
      (reply call world).2.stopped = (reply call world.stopped).2.stopped := by
  cases call with
  | request method url timeout body => exact nextReply_stopped world
  | goto url => exact turn_stopped world _ _
  | awaitIdle => exact turn_stopped world _ _
  | screenshot path => exact turn_stopped world _ _
  | element locator act => exact touch_stopped world locator act
  | closeClient => exact ⟨rfl, rfl⟩
  | locate locator => exact ⟨rfl, rfl⟩
  | browser call => exact ⟨rfl, rfl⟩

theorem count_of_answerOf {element : ScriptedElement} {locator : Locator} {count : Int}
    (answered : answerOf element locator .count = .ok count) : element.count = count := by
  simp only [answerOf, unlessFails] at answered
  split at answered
  · cases answered
  · exact Except.ok.inj answered

/-- An answer of elements that are no rows, and the world after it. -/
def touched (world : Scripted) (element : ScriptedElement) (act : ElementAct)
    (answer : Except Mishap act.Answer) : Except Mishap act.Answer × Scripted :=
  (answer, (world.spend act.name).withElements
    (if act matches .click _ && answer.isOk then element.onClick else []))

theorem touch_eq_touched {locator : Locator} (noRow : ∀ table index, locator ≠ .row table index)
    (act : ElementAct) (world : Scripted) :
    touch world locator act = touched world (world.elementAt locator.key) act
      (answerOf (world.elementAt locator.key) locator act) := by
  cases locator with
  | row table index => exact absurd rfl (noRow table index)
  | _ => cases act <;> rfl

theorem noRow_of_finds {world : Scripted} {locator : Locator} (finds : Outside.Finds world locator)
    (table : Locator) (index : Nat) : locator ≠ .row table index := by
  rintro rfl
  obtain ⟨count, answered, positive⟩ := finds
  have none : (touch world (.row table index) .count).1 = .ok 0 := by
    simp only [touch]
    split
    · rfl
    · rfl
  cases Except.ok.inj (none.symm.trans answered)
  cases positive

theorem touch_first {world : Scripted} {locator : Locator} (finds : Outside.Finds world locator)
    {act : ElementAct} (touches : act.isTouch = true) :
    touch world (.first locator) act = touch world locator act := by
  have noRow := noRow_of_finds finds
  have noRowFirst : ∀ table index, Locator.first locator ≠ .row table index := by
    rintro _ _ ⟨⟩
  obtain ⟨count, answered, positive⟩ := finds
  have counted : answerOf (world.elementAt locator.key) locator .count = .ok count := by
    rw [← answered]
    exact (congrArg Prod.fst (touch_eq_touched noRow .count world)).symm
  rw [touch_eq_touched noRow, touch_eq_touched noRowFirst]
  exact congrArg (touched world _ act)
    (answerOf_touch (count_of_answerOf counted ▸ positive) _ _ touches)

theorem touch_part {part other : Locator} (same : Locator.SamePart part other) (act : ElementAct)
    (world : Scripted) : touch world part act = touch world other act := by
  cases same with
  | within table expression =>
      have noRow : ∀ outer row index, Locator.within outer expression ≠ .row row index := by
        rintro _ _ _ ⟨⟩
      rw [touch_eq_touched (noRow _), touch_eq_touched (noRow _)]
      exact congrArg (touched world _ act)
        (answerOf_congr _ (Locator.SamePart.within table expression).shown act)
  | row same index =>
      simp only [touch, same.key, answerOf_congr _ (same.row index).shown act]

theorem steady : Outside.Steady SameScript where
  equivalence := ⟨fun _ => rfl, Eq.symm, Eq.trans⟩
  replies {world other} same call := by
    obtain ⟨answer, after⟩ := reply_stopped call world
    obtain ⟨otherAnswer, otherAfter⟩ := reply_stopped call other
    rw [show world.stopped = other.stopped from same] at answer after
    exact ⟨answer.trans otherAnswer.symm, after.trans otherAfter.symm⟩
  counting locator world := by
    cases locator with
    | row table index => exact stopped_spend world _
    | _ => exact stopped_spend world _
  first finds act touches :=
    .of_eq (fun world => Eq.refl world.stopped) (touch_first finds touches)
  parts same act world := .of_eq (fun world => Eq.refl world.stopped) (touch_part same act world)

end Scripted

end Walkthrough
