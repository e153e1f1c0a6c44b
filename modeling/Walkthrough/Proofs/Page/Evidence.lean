import Walkthrough.Proofs.Page.Deed

/-!
# Evidence for a value

A value is looked for in the table of results, row by row up to the first that holds it
(`Walkthrough.SearchesRows`, `Walkthrough.SearchesTable`), and if it is in no row as a text of the
page (`Walkthrough.LooksFor`). Each of these ends in one way for every page. A value is found only
where there is evidence of it (`Walkthrough.lookFor_true_iff`).
-/

namespace Walkthrough

variable {σ : Type} [Outside σ]

namespace Outside

/-- What looking up the rows of the table of a reference comes to. -/
def tableRows (manner : Manner) (reference : String) (world : σ) : Deed σ (List Locator) :=
  (lookUp manner.strategies reference (.selector reference) world).andThen fun table after =>
    (act (.within table "tr") .rows after).andThen fun (count : Nat) =>
      .pure ((List.range count).map (Locator.row (.within table "tr")))

/-- What reading rows comes to, up to the first that holds a value. -/
def searchRows (value : String) : List Locator → σ → Deed σ Bool
  | [], world => .pure false world
  | row :: rest, world =>
    (act row .textContent world).andThen fun (text : Option String) after =>
      if occurs value (text.getD "") then .pure true after else searchRows value rest after

/-- What looking up the rows comes to where no table that can be resolved means no rows. -/
def tableRows? (manner : Manner) (reference : String) (world : σ) :
    Deed σ (Option (List Locator)) :=
  ((tableRows manner reference world).andThen fun rows => .pure (some rows)).orElse
    fun fault after =>
      match fault with
      | .step (.unresolved _ _) _ => .pure none after
      | other => ⟨.error other, [], after⟩

/-- What looking for a value in the table of a reference comes to. -/
def searchTable (manner : Manner) (reference value : String) (world : σ) : Deed σ Bool :=
  (tableRows? manner reference world).andThen fun rows? after =>
    match rows? with
    | none => .pure false after
    | some rows => searchRows value rows after

/-- What making a locator of the first element with a text comes to. -/
def firstWithText (text : String) (world : σ) : Deed σ Locator :=
  (locate (.withText text) world).andThen fun elements => .pure (.first elements)

/-- What looking at the first element with a text comes to. -/
def seen (text : String) (world : σ) : Deed σ Bool :=
  (firstWithText text world).andThen fun element => act element .isVisible

/-- What waiting for the first element with a text comes to. -/
def awaited (text : String) (time : Int) (world : σ) : Deed σ Unit :=
  (firstWithText text world).andThen fun element => act element (.waitVisible time)

/-- What a look for a text comes to that sees nothing where it fails. -/
def isSeen (text : String) (world : σ) : Deed σ Bool :=
  (((seen text world).andThen fun (shown : Bool) => .pure (some shown)).orElse fun _ =>
    .pure none).andThen fun shown? => .pure (shown?.getD false)

/-- What looking for a value on the page comes to. -/
def lookFor (manner : Manner) (reference value : String) (world : σ) : Deed σ Bool :=
  (searchTable manner reference value world).andThen fun held after =>
    if held then .pure true after else isSeen value after

end Outside

/-- Rows that are read in their order, from one world to another, and that do not hold a value. A
row without a text holds the empty text. -/
inductive PassesRows (value : String) : List Locator → σ → σ → Prop
  | nil (world : σ) : PassesRows value [] world world
  | cons {row : Locator} {rest : List Locator} {world after : σ} {text : Option String} :
      (Outside.act row .textContent world).ended = .ok text →
      occurs value (text.getD "") = false →
      PassesRows value rest (Outside.act row .textContent world).world after →
        PassesRows value (row :: rest) world after

/-- The calls that read rows. -/
def readingsOf (rows : List Locator) : List Call :=
  rows.map fun row => .element row .textContent

/-- What reading rows comes to: the first row that holds the value ends it, and so does the first
one that cannot be read. -/
inductive SearchesRows (value : String) : List Locator → σ → Deed σ Bool → Prop
  | held {early late : List Locator} {row : Locator} {world between : σ} {text : Option String} :
      PassesRows value early world between →
      (Outside.act row .textContent between).ended = .ok text →
      occurs value (text.getD "") = true →
        SearchesRows value (early ++ row :: late) world
          ⟨.ok true, readingsOf (early ++ [row]), (Outside.act row .textContent between).world⟩
  | missed {rows : List Locator} {world after : σ} : PassesRows value rows world after →
        SearchesRows value rows world ⟨.ok false, readingsOf rows, after⟩
  | unread {early late : List Locator} {row : Locator} {world between : σ} {fault : Fault} :
      PassesRows value early world between →
      (Outside.act row .textContent between).ended = .error fault →
        SearchesRows value (early ++ row :: late) world
          ⟨.error fault, readingsOf (early ++ [row]), (Outside.act row .textContent between).world⟩

/-- What looking for a value in the table of a reference comes to. No table that can be resolved is
no match; any other fault on the way to its rows goes on. -/
inductive SearchesTable (manner : Manner) (reference value : String) (world : σ) :
    Deed σ Bool → Prop
  | unresolved {description missing : String} {place : Option Step} :
      (Outside.tableRows manner reference world).ended =
        .error (.step (.unresolved description missing) place) →
      SearchesTable manner reference value world
        ⟨.ok false, (Outside.tableRows manner reference world).calls,
          (Outside.tableRows manner reference world).world⟩
  | lost {fault : Fault} :
      (Outside.tableRows manner reference world).ended = .error fault →
      (∀ description missing place, fault ≠ .step (.unresolved description missing) place) →
      SearchesTable manner reference value world
        ⟨.error fault, (Outside.tableRows manner reference world).calls,
          (Outside.tableRows manner reference world).world⟩
  | read {rows : List Locator} {deed : Deed σ Bool} :
      (Outside.tableRows manner reference world).ended = .ok rows →
      SearchesRows value rows (Outside.tableRows manner reference world).world deed →
      SearchesTable manner reference value world
        ⟨deed.ended, (Outside.tableRows manner reference world).calls ++ deed.calls, deed.world⟩

/-- What looking for a value on the page comes to: in the table of a reference, and if it is in none
of its rows as a text of the page. Nothing is seen where the look at the text fails. -/
inductive LooksFor (manner : Manner) (reference value : String) (world : σ) : Deed σ Bool → Prop
  | settled {deed : Deed σ Bool} : SearchesTable manner reference value world deed →
      deed.ended ≠ .ok false → LooksFor manner reference value world deed
  | seen {deed : Deed σ Bool} {shown : Bool} : SearchesTable manner reference value world deed →
      deed.ended = .ok false → (Outside.seen value deed.world).ended = .ok shown →
      LooksFor manner reference value world
        ⟨.ok shown, deed.calls ++ (Outside.seen value deed.world).calls,
          (Outside.seen value deed.world).world⟩
  | failed {deed : Deed σ Bool} : SearchesTable manner reference value world deed →
      deed.ended = .ok false → (Outside.seen value deed.world).Fails →
      LooksFor manner reference value world
        ⟨.ok false, deed.calls ++ (Outside.seen value deed.world).calls,
          (Outside.seen value deed.world).world⟩
  | interrupted {deed : Deed σ Bool} {fault : Fault} :
      SearchesTable manner reference value world deed → deed.ended = .ok false →
      (Outside.seen value deed.world).ended = .error fault → fault.isInterrupt = true →
      LooksFor manner reference value world
        ⟨.error fault, deed.calls ++ (Outside.seen value deed.world).calls,
          (Outside.seen value deed.world).world⟩

/-- Evidence for a value on the page: the first row that holds it, or else, where it is in no row, a
text that can be seen. -/
inductive HasEvidence (manner : Manner) (reference value : String) (world : σ) : Prop
  | row {early late : List Locator} {row : Locator} {between : σ} {text : Option String} :
      (Outside.tableRows manner reference world).ended = .ok (early ++ row :: late) →
      PassesRows value early (Outside.tableRows manner reference world).world between →
      (Outside.act row .textContent between).ended = .ok text →
      occurs value (text.getD "") = true → HasEvidence manner reference value world
  | text {deed : Deed σ Bool} : SearchesTable manner reference value world deed →
      deed.ended = .ok false → (Outside.seen value deed.world).ended = .ok true →
      HasEvidence manner reference value world

section Rows

variable {value : String} {row : Locator} {early late rest rows : List Locator}
  {world between after : σ} {deed : Deed σ Bool}

omit [Outside σ] in
theorem readingsOf_append (early late : List Locator) :
    readingsOf (early ++ late) = readingsOf early ++ readingsOf late :=
  List.map_append

/-- A row that is read ends the search, or the rows after it are searched. -/
theorem searchRows_cons {text : Option String}
    (read : (Outside.act row .textContent world).ended = .ok text) :
    Outside.searchRows value (row :: rest) world =
      if occurs value (text.getD "") then
        ⟨.ok true, readingsOf [row], (Outside.act row .textContent world).world⟩
      else
        ⟨(Outside.searchRows value rest (Outside.act row .textContent world).world).ended,
          .element row .textContent ::
            (Outside.searchRows value rest (Outside.act row .textContent world).world).calls,
          (Outside.searchRows value rest (Outside.act row .textContent world).world).world⟩ := by
  rw [Outside.searchRows, Deed.andThen_of_ok read]
  split
  · rfl
  · rfl

theorem searchRows_cons_of_error {fault : Fault}
    (failed : (Outside.act row .textContent world).ended = .error fault) :
    Outside.searchRows value (row :: rest) world =
      ⟨.error fault, readingsOf [row], (Outside.act row .textContent world).world⟩ := by
  rw [Outside.searchRows, Deed.andThen_of_error failed]
  rfl

/-- Rows that do not hold the value are passed, and the rows after them are searched. -/
theorem searchRows_append (passes : PassesRows value early world between)
    (rest : List Locator) :
    Outside.searchRows value (early ++ rest) world =
      ⟨(Outside.searchRows value rest between).ended,
        readingsOf early ++ (Outside.searchRows value rest between).calls,
        (Outside.searchRows value rest between).world⟩ := by
  induction passes with
  | nil world => rfl
  | cons read missing _ ih =>
      rw [List.cons_append, searchRows_cons read, missing, ih]
      rfl

theorem SearchesRows.cons {text : Option String}
    (read : (Outside.act row .textContent world).ended = .ok text)
    (missing : occurs value (text.getD "") = false)
    (later : SearchesRows value rest (Outside.act row .textContent world).world deed) :
    SearchesRows value (row :: rest) world
      ⟨deed.ended, .element row .textContent :: deed.calls, deed.world⟩ := by
  cases later with
  | held passes found holds => exact .held (.cons read missing passes) found holds
  | missed passes => exact .missed (.cons read missing passes)
  | unread passes failed => exact .unread (.cons read missing passes) failed

theorem searchRows_searches (value : String) (rows : List Locator) (world : σ) :
    SearchesRows value rows world (Outside.searchRows value rows world) := by
  induction rows generalizing world with
  | nil => exact .missed (.nil world)
  | cons row rest ih =>
      cases read : (Outside.act row .textContent world).ended with
      | error fault =>
          have first : SearchesRows value ([] ++ row :: rest) world _ := .unread (.nil world) read
          rw [searchRows_cons_of_error read]
          exact first
      | ok text =>
          rw [searchRows_cons read]
          by_cases holds : occurs value (Option.getD text "") = true
          · have first : SearchesRows value ([] ++ row :: rest) world _ :=
              .held (.nil world) read holds
            rw [if_pos holds]
            exact first
          · rw [if_neg holds]
            exact .cons read (Bool.eq_false_iff.mpr holds) (ih _)

/-- Searching rows ends in one way. -/
theorem searchesRows_iff :
    SearchesRows value rows world deed ↔ deed = Outside.searchRows value rows world := by
  constructor
  · intro searches
    cases searches with
    | held passes found holds =>
        rw [searchRows_append passes, searchRows_cons found, if_pos holds, readingsOf_append]
    | missed passes =>
        have whole := searchRows_append passes []
        rw [List.append_nil, Outside.searchRows] at whole
        rw [whole, Deed.pure, List.append_nil]
    | unread passes failed =>
        rw [searchRows_append passes, searchRows_cons_of_error failed, readingsOf_append]
  · intro same
    rw [same]
    exact searchRows_searches value rows world

end Rows

section Table

variable {manner : Manner} {reference value : String} {world : σ} {deed : Deed σ Bool}

/-- A table of which the rows are found is searched row by row. -/
theorem searchTable_of_rows {rows : List Locator}
    (found : (Outside.tableRows manner reference world).ended = .ok rows) :
    Outside.searchTable manner reference value world =
      ⟨(Outside.searchRows value rows (Outside.tableRows manner reference world).world).ended,
        (Outside.tableRows manner reference world).calls ++
          (Outside.searchRows value rows (Outside.tableRows manner reference world).world).calls,
        (Outside.searchRows value rows
          (Outside.tableRows manner reference world).world).world⟩ := by
  have present : Outside.tableRows? manner reference world =
      ⟨.ok (some rows), (Outside.tableRows manner reference world).calls,
        (Outside.tableRows manner reference world).world⟩ := by
    rw [Outside.tableRows?, Deed.andThen_of_ok found, Deed.pure, List.append_nil]
    exact Deed.orElse_of_ok rfl _
  rw [Outside.searchTable, present]
  rfl

theorem searchTable_of_unresolved {description missing : String} {place : Option Step}
    (unresolved : (Outside.tableRows manner reference world).ended =
      .error (.step (.unresolved description missing) place)) :
    Outside.searchTable manner reference value world =
      ⟨.ok false, (Outside.tableRows manner reference world).calls,
        (Outside.tableRows manner reference world).world⟩ := by
  have absent : Outside.tableRows? manner reference world =
      ⟨.ok none, (Outside.tableRows manner reference world).calls,
        (Outside.tableRows manner reference world).world⟩ := by
    rw [Outside.tableRows?, Deed.andThen_of_error unresolved, Deed.orElse_of_failure rfl rfl,
      Deed.pure, List.append_nil]
  rw [Outside.searchTable, absent]
  refine (Deed.andThen_of_ok rfl _).trans ?_
  rw [Deed.pure, List.append_nil]

theorem searchTable_of_lost {fault : Fault}
    (lost : (Outside.tableRows manner reference world).ended = .error fault)
    (other : ∀ description missing place, fault ≠ .step (.unresolved description missing) place) :
    Outside.searchTable manner reference value world =
      ⟨.error fault, (Outside.tableRows manner reference world).calls,
        (Outside.tableRows manner reference world).world⟩ := by
  have goesOn : Outside.tableRows? manner reference world =
      ⟨.error fault, (Outside.tableRows manner reference world).calls,
        (Outside.tableRows manner reference world).world⟩ := by
    rw [Outside.tableRows?, Deed.andThen_of_error lost]
    cases interrupt : fault.isInterrupt with
    | true => exact Deed.orElse_of_interrupt rfl interrupt _
    | false =>
        rw [Deed.orElse_of_failure rfl interrupt]
        split
        · next description missing place => exact absurd rfl (other description missing place)
        · rw [List.append_nil]
  rw [Outside.searchTable, goesOn]
  exact Deed.andThen_of_error rfl _

/-- Searching the table ends in one way. -/
theorem searchesTable_iff :
    SearchesTable manner reference value world deed ↔
      deed = Outside.searchTable manner reference value world := by
  constructor
  · intro searches
    cases searches with
    | unresolved none => rw [searchTable_of_unresolved none]
    | lost fails other => rw [searchTable_of_lost fails other]
    | read found rows => rw [searchTable_of_rows found, searchesRows_iff.mp rows]
  · intro same
    rw [same]
    cases ended : (Outside.tableRows manner reference world).ended with
    | ok rows =>
        rw [searchTable_of_rows ended]
        exact .read ended (searchRows_searches value rows _)
    | error fault =>
        by_cases unresolved : ∃ description missing place,
            fault = .step (.unresolved description missing) place
        · obtain ⟨description, missing, place, rfl⟩ := unresolved
          rw [searchTable_of_unresolved ended]
          exact .unresolved ended
        · have other description missing place :
              fault ≠ .step (.unresolved description missing) place :=
            fun same => unresolved ⟨description, missing, place, same⟩
          rw [searchTable_of_lost ended other]
          exact .lost ended other

end Table

section Looking

variable {manner : Manner} {reference value : String} {world : σ} {deed looked : Deed σ Bool}

theorem isSeen_of_ok {shown : Bool} (sees : (Outside.seen value world).ended = .ok shown) :
    Outside.isSeen value world =
      ⟨.ok shown, (Outside.seen value world).calls, (Outside.seen value world).world⟩ := by
  rw [Outside.isSeen, Deed.andThen_of_ok sees, Deed.pure, Deed.orElse_of_ok rfl,
    Deed.andThen_of_ok rfl, Deed.pure, List.append_nil, List.append_nil]
  rfl

theorem isSeen_of_failure (fails : (Outside.seen value world).Fails) :
    Outside.isSeen value world =
      ⟨.ok false, (Outside.seen value world).calls, (Outside.seen value world).world⟩ := by
  obtain ⟨fault, ended, caught⟩ := fails
  rw [Outside.isSeen, Deed.andThen_of_error ended, Deed.orElse_of_failure rfl caught,
    Deed.andThen_of_ok rfl, Deed.pure, Deed.pure, List.append_nil, List.append_nil]
  rfl

theorem isSeen_of_interrupt {fault : Fault}
    (ended : (Outside.seen value world).ended = .error fault)
    (interrupt : fault.isInterrupt = true) :
    Outside.isSeen value world =
      ⟨.error fault, (Outside.seen value world).calls, (Outside.seen value world).world⟩ := by
  rw [Outside.isSeen, Deed.andThen_of_error ended, Deed.orElse_of_interrupt rfl interrupt]
  exact Deed.andThen_of_error rfl _

/-- Where the value is in no row, it is looked for as a text. -/
theorem lookFor_of_missed
    (missed : (Outside.searchTable manner reference value world).ended = .ok false) :
    Outside.lookFor manner reference value world =
      ⟨(Outside.isSeen value (Outside.searchTable manner reference value world).world).ended,
        (Outside.searchTable manner reference value world).calls ++
          (Outside.isSeen value (Outside.searchTable manner reference value world).world).calls,
        (Outside.isSeen value
          (Outside.searchTable manner reference value world).world).world⟩ := by
  rw [Outside.lookFor, Deed.andThen_of_ok missed]
  rfl

theorem lookFor_of_settled
    (settled : (Outside.searchTable manner reference value world).ended ≠ .ok false) :
    Outside.lookFor manner reference value world =
      Outside.searchTable manner reference value world := by
  rw [Outside.lookFor]
  rcases searched : Outside.searchTable manner reference value world with
    ⟨fault | held, calls, after⟩
  · exact Deed.andThen_of_error rfl _
  · cases held with
    | false =>
        rw [searched] at settled
        exact absurd rfl settled
    | true =>
        rw [Deed.andThen_of_ok rfl, if_pos rfl, Deed.pure, List.append_nil]

/-- Looking for a value ends in one way. -/
theorem looksFor_iff :
    LooksFor manner reference value world looked ↔
      looked = Outside.lookFor manner reference value world := by
  constructor
  · intro looks
    cases looks with
    | settled searches ended =>
        rw [searchesTable_iff] at searches
        subst searches
        rw [lookFor_of_settled ended]
    | seen searches missed sees =>
        rw [searchesTable_iff] at searches
        subst searches
        rw [lookFor_of_missed missed, isSeen_of_ok sees]
    | failed searches missed fails =>
        rw [searchesTable_iff] at searches
        subst searches
        rw [lookFor_of_missed missed, isSeen_of_failure fails]
    | interrupted searches missed ended interrupt =>
        rw [searchesTable_iff] at searches
        subst searches
        rw [lookFor_of_missed missed, isSeen_of_interrupt ended interrupt]
  · intro same
    rw [same]
    have searches : SearchesTable manner reference value world
        (Outside.searchTable manner reference value world) := searchesTable_iff.mpr rfl
    by_cases missed : (Outside.searchTable manner reference value world).ended = .ok false
    · rw [lookFor_of_missed missed]
      cases sees : (Outside.seen value
          (Outside.searchTable manner reference value world).world).ended with
      | ok shown =>
          rw [isSeen_of_ok sees]
          exact .seen searches missed sees
      | error fault =>
          cases interrupt : fault.isInterrupt with
          | true =>
              rw [isSeen_of_interrupt sees interrupt]
              exact .interrupted searches missed sees interrupt
          | false =>
              rw [isSeen_of_failure ⟨fault, sees, interrupt⟩]
              exact .failed searches missed ⟨fault, sees, interrupt⟩
    · rw [lookFor_of_settled missed]
      exact .settled searches missed

/-- A value is found exactly where there is evidence of it. -/
theorem lookFor_true_iff :
    (Outside.lookFor manner reference value world).ended = .ok true ↔
      HasEvidence manner reference value world := by
  have looks : LooksFor manner reference value world
      (Outside.lookFor manner reference value world) := looksFor_iff.mpr rfl
  constructor
  · intro found
    generalize Outside.lookFor manner reference value world = looked at looks found
    cases looks with
    | settled searches =>
        cases searches with
        | unresolved none => cases found
        | lost fails other => cases found
        | read rows searched =>
            cases searched with
            | held passes read holds => exact .row rows passes read holds
            | missed passes => cases found
            | unread passes failed => cases found
    | seen searches missed sees =>
        cases found
        exact .text searches missed sees
    | failed searches missed fails => cases found
    | interrupted searches missed ended interrupt => cases found
  · intro evidence
    cases evidence with
    | row rows passes read holds =>
        have searches := searchesTable_iff.mp (.read rows (.held passes read holds))
        rw [lookFor_of_settled, ← searches]
        rw [← searches]
        exact nofun
    | text searches missed sees =>
        rw [← looksFor_iff.mp (.seen searches missed sees)]

end Looking

end Walkthrough
