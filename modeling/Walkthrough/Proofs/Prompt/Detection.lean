import Walkthrough.Proofs.Prompt.Directive
import Walkthrough.Proofs.Prompt.Scan
import Walkthrough.Proofs.Text.LineOf
import Walkthrough.Proofs.Text.Reading

/-!
# Where the directive is detected

A directive is read at the start of the text and behind each line feed, and across all blanks. So a
line that holds one is not seen if something stands before it that only another line break than a
line feed parts from it, or if blanks stand before its mark; and a line with the name alone takes
its answer from a later line. The first line at which an answer is detected counts
(`Walkthrough.Directive.ofText?_eq_some_iff`,
`Walkthrough.Document.selfHealing_eq_some_iff`).
-/

namespace Walkthrough

namespace Directive

open Text Text.Pattern

/-- The name of the directive. -/
def name : List Char := "Self-Healing:".toList

/-- A text without the mark at its front. -/
def unmark : List Char → List Char
  | [] => []
  | c :: rest => if c == '#' then rest else c :: rest

/-- What stands behind the name of the directive, where a text begins with it. -/
def named? (s : List Char) : Option (List Char) :=
  spelled? name ((unmark s).dropWhile isBlank)

/-- The text of the answer that a text begins with. -/
def spoken? (s : List Char) : Option (List Char) :=
  ((spelled? "YES".toList s).or (spelled? "NO".toList s)).map fun rest =>
    s.take (s.length - rest.length)

/-- The answer that a text begins with. -/
def answer? (s : List Char) : Option Bool :=
  (spoken? s).map fun answer => upper answer == "YES".toList

section Reading

variable {s t rest : List Char}

theorem isBlankless_name : isBlankless name = true := by decide

/-- The part of the pattern behind the mark. -/
def body : List Pattern :=
  [many isBlank, letters name, many isBlank, keep (either (word "YES") (word "NO"))]

theorem run_body (s : List Char) :
    (all body).run (fun kept _ => some kept) [] s =
      (spelled? name (s.dropWhile isBlank)).bind fun rest =>
        (spoken? (rest.dropWhile isBlank)).map fun answer => [answer] := by
  have inside {letter c : Char} (outside : isBlank (foldLetter letter) = false)
      (rest : List Char) (blank : isBlank c = true) :
      ∀ d ∈ (c :: rest).head?, sameLetter letter d = false := by
    rintro _ ⟨⟩
    exact sameLetter_of_isBlank outside blank
  have answer (s : List Char) :
      (all [keep (either (word "YES") (word "NO"))]).run (fun kept _ => some kept) [] s =
        (spoken? s).map fun answer => [answer] := by
    change (either (letters "YES".toList) (letters "NO".toList)).run
      (fun kept rest => some (kept ++ [s.take (s.length - rest.length)])) [] s = _
    rw [run, run_letters, run_letters, spoken?]
    cases spelled? "YES".toList s with
    | some rest => rfl
    | none =>
        cases spelled? "NO".toList s with
        | some rest => rfl
        | none => rfl
  have answers (s : List Char) :
      (all [many isBlank, keep (either (word "YES") (word "NO"))]).run
          (fun kept _ => some kept) [] s =
        (spoken? (s.dropWhile isBlank)).map fun answer => [answer] := by
    rw [← answer]
    refine run_blanks (fun c rest blank => refuses_answer ?_ ?_) _ _ _
    · exact inside (by decide) rest blank
    · exact inside (by decide) rest blank
  have passes := @run_blanks (List (List Char))
    (all [word "Self-Healing:", many isBlank, keep (either (word "YES") (word "NO"))])
    fun c rest blank => refuses_name (inside (by decide) rest blank)
  refine (passes _ _ _).trans ?_
  change (letters name).run _ [] _ = _
  rw [run_letters]
  congr 1
  funext rest
  exact answers rest
/-- The mark, the name and the answer are read one after the other, with blanks between them. -/
theorem front?_eq (s : List Char) :
    front? s = (named? s).bind fun rest => answer? (rest.dropWhile isBlank) := by
  have marked : pattern.run (fun kept _ => some kept) [] s =
      (all body).run (fun kept _ => some kept) [] (unmark s) := by
    cases s with
    | nil => rfl
    | cons c rest =>
        let next (kept : List (List Char)) (_ : List Char) := some kept
        change (either (seq (one (· == '#')) (all body)) (all body)).run next [] (c :: rest) = _
        rw [unmark, run]
        by_cases mark : (c == '#') = true
        · have first : (seq (one (· == '#')) (all body)).run next [] (c :: rest) =
              (all body).run next [] rest := if_pos mark
          have unmarked : (all body).run next [] (c :: rest) = none := by
            obtain rfl := beq_iff_eq.mp mark
            exact run_body _
          rw [if_pos mark, first, unmarked]
          cases (all body).run next [] rest with
          | none => rfl
          | some found => rfl
        · have first : (seq (one (· == '#')) (all body)).run next [] (c :: rest) = none :=
            if_neg mark
          rw [if_neg mark, first]
  obtain ⟨spoken, same⟩ : ∃ spoken, ((named? s).bind fun rest =>
    spoken? (rest.dropWhile isBlank)) = spoken := ⟨_, rfl⟩
  have kept : (pattern.front? s).map (·.1) = spoken.map fun answer => [answer] := by
    rw [← same, Option.map_bind]
    exact (map_run pattern _ _ [] s).trans (marked.trans (run_body _))
  have answered : ((named? s).bind fun rest => answer? (rest.dropWhile isBlank)) =
      spoken.map fun answer => upper answer == "YES".toList := by
    rw [← same, Option.map_bind]
    rfl
  rw [answered, front?]
  cases spoken with
  | none =>
      rw [Option.map_none, Option.map_eq_none_iff] at kept
      split
      · next found =>
          rw [kept] at found
          cases found
      · rfl
  | some answer =>
      obtain ⟨⟨_, rest⟩, found, rfl⟩ := Option.map_eq_some_iff.mp kept
      split
      · next other late here =>
          rw [found] at here
          cases here
          rfl
      · next other => exact absurd found (other answer rest)

end Reading

section Leads

variable {s t rest lead spelled : List Char}

/-- What may stand before the name: a mark or none, and blanks. -/
def IsLead (s : List Char) : Prop :=
  ∀ c ∈ unmark s, isBlank c = true

theorem IsLead.blank {c : Char} (lead : IsLead s) (member : c ∈ s) :
    c = '#' ∨ isBlank c = true := by
  cases s with
  | nil => cases member
  | cons d more =>
      rw [IsLead, unmark] at lead
      split at lead
      · next mark =>
          rcases List.mem_cons.mp member with rfl | inside
          · exact .inl (beq_iff_eq.mp mark)
          · exact .inr (lead c inside)
      · exact .inr (lead c member)

theorem isLead_of_blank (blank : ∀ c ∈ s, isBlank c = true) : IsLead s := by
  cases s with
  | nil => exact blank
  | cons c rest =>
      rw [IsLead, unmark]
      split
      · exact (List.forall_mem_cons.mp blank).2
      · exact blank

/-- What the name is spelled as begins with a character that no lead holds. -/
theorem solid_of_name (name : spelled? name spelled = some []) :
    ∃ c ∈ spelled.head?, isBlank c = false ∧ c ≠ '#' := by
  cases spelled with
  | nil => cases name
  | cons c rest =>
      refine ⟨c, rfl, isBlank_of_spelled? isBlankless_name name c List.mem_cons_self, ?_⟩
      rintro rfl
      cases name

/-- Behind the first character of a lead there are blanks alone. -/
theorem IsLead.behind {front : List Char} (isLead : IsLead (front ++ s)) (nonempty : front ≠ []) :
    ∀ c ∈ s, isBlank c = true := by
  obtain ⟨d, more, rfl⟩ := List.exists_cons_of_ne_nil nonempty
  rw [List.cons_append, IsLead, unmark] at isLead
  split at isLead
  · exact fun c member => isLead c (List.mem_append_right _ member)
  · exact fun c member => isLead c (List.mem_cons_of_mem _ (List.mem_append_right _ member))

/-- Behind a lead and the name stands what is read behind the name. -/
theorem named?_lead (isLead : IsLead lead) (spells : spelled? name spelled = some [])
    (rest : List Char) : named? (lead ++ (spelled ++ rest)) = some rest := by
  obtain ⟨c, first, solid, other⟩ := solid_of_name spells
  obtain ⟨more, rfl⟩ := List.head?_eq_some_iff.mp first
  have bare : unmark (lead ++ (c :: more ++ rest)) = unmark lead ++ (c :: more ++ rest) := by
    cases lead with
    | nil => exact if_neg (by simpa using other)
    | cons d later =>
        rw [List.cons_append, unmark, unmark]
        split
        · rfl
        · rfl
  rw [named?, bare, List.dropWhile_append_of_pos isLead, List.cons_append,
    List.dropWhile_cons_of_neg (by simp [solid]), ← List.cons_append, spelled?_append spells]
  rfl

/-- Blanks at the front do not count, either. -/
theorem named?_trimStart_lead (isLead : IsLead lead) (spells : spelled? name spelled = some [])
    (rest : List Char) : named? (trimStart (lead ++ (spelled ++ rest))) = some rest := by
  have ofBlank (blank : ∀ c ∈ lead, isBlank c = true) :
      named? (trimStart (lead ++ (spelled ++ rest))) = some rest := by
    obtain ⟨c, first, solid, -⟩ := solid_of_name spells
    have bare : (spelled ++ rest).dropWhile isBlank = spelled ++ rest := by
      refine dropWhile_eq_self fun d head => ?_
      rw [List.head?_append, first, Option.some_or] at head
      cases head
      exact solid
    rw [trimStart, List.dropWhile_append_of_pos blank, bare]
    exact named?_lead (isLead_of_blank (s := []) (by simp)) spells rest
  cases lead with
  | nil => exact ofBlank (by simp)
  | cons d more =>
      by_cases mark : (d == '#') = true
      · have solid : isBlank d = false := by
          rw [beq_iff_eq.mp mark]
          decide
        rw [trimStart, List.cons_append, List.dropWhile_cons_of_neg (by simp [solid])]
        exact named?_lead isLead spells rest
      · rw [IsLead, unmark, if_neg mark] at isLead
        exact ofBlank isLead

/-- A text that begins with the name does so behind a lead. -/
theorem exists_of_named? (found : named? s = some rest) :
    ∃ lead spelled, s = lead ++ (spelled ++ rest) ∧ IsLead lead ∧
      spelled? name spelled = some [] := by
  obtain ⟨spelled, split, spells⟩ := exists_of_spelled? found
  have whole : unmark s = (unmark s).takeWhile isBlank ++ (spelled ++ rest) := by
    rw [← split, List.takeWhile_append_dropWhile]
  have blank : ∀ c ∈ (unmark s).takeWhile isBlank, isBlank c = true :=
    fun c member => List.mem_takeWhile_imp member
  cases s with
  | nil => cases found
  | cons c more =>
      rw [unmark] at whole blank
      split at whole
      · next mark =>
          rw [if_pos mark] at blank
          exact ⟨c :: more.takeWhile isBlank, spelled, congrArg (c :: ·) whole,
            by rwa [IsLead, unmark, if_pos mark], spells⟩
      · next bare =>
          rw [if_neg bare] at blank
          exact ⟨_, spelled, whole, isLead_of_blank blank, spells⟩

theorem named?_append (found : named? s = some rest) (t : List Char) :
    named? (s ++ t) = some (rest ++ t) := by
  obtain ⟨lead, spelled, rfl, isLead, name⟩ := exists_of_named? found
  rw [List.append_assoc, List.append_assoc]
  exact named?_lead isLead name _

/-- Blanks at the end do not count. -/
theorem named?_of_margin {margin tail : List Char} (blank : ∀ c ∈ margin, isBlank c = true)
    (found : named? (s ++ margin) = some tail) :
    ∃ core, named? s = some core ∧ core <:+ s ∧ tail = core ++ margin := by
  obtain ⟨lead, spelled, split, isLead, spells⟩ := exists_of_named? found
  have inside : ∃ core, s = lead ++ (spelled ++ core) ∧ tail = core ++ margin := by
    rw [← List.append_assoc] at split
    rcases List.append_eq_append_iff.mp split with ⟨more, longer, rest⟩ | ⟨core, same, rest⟩
    · -- What is spelled like the name holds no blank.
      have gone : more = [] := by
        by_contra nonempty
        obtain ⟨c, last⟩ : ∃ c, c ∈ more.getLast? := ⟨_, List.getLast?_eq_some_getLast nonempty⟩
        have inSpelled : c ∈ spelled := by
          obtain ⟨d, first, -⟩ := solid_of_name spells
          have solid : spelled ≠ [] := by
            rintro rfl
            cases first
          refine List.mem_of_getLast? ?_
          rw [← List.getLast?_append_of_ne_nil lead solid, longer,
            List.getLast?_append_of_ne_nil s nonempty]
          exact last
        have inMargin : c ∈ margin := by
          rw [rest]
          exact List.mem_append_left _ (List.mem_of_getLast? last)
        have solid := isBlank_of_spelled? isBlankless_name spells c inSpelled
        rw [blank c inMargin] at solid
        cases solid
      subst gone
      exact ⟨[], by simpa using longer.symm, by simpa using rest.symm⟩
    · exact ⟨core, by rw [same, List.append_assoc], rest⟩
  obtain ⟨core, rfl, rfl⟩ := inside
  exact ⟨core, named?_lead isLead spells core,
    (List.suffix_append spelled core).trans (List.suffix_append lead _), rfl⟩

theorem answer?_append (blank : ∀ c ∈ t.head?, isBlank c = true) (s : List Char) :
    answer? (s ++ t) = answer? s := by
  cases t with
  | nil => rw [List.append_nil]
  | cons c later =>
      have apart := blank c rfl
      have spoken : spoken? (s ++ c :: later) = spoken? s := by
        rw [spoken?, spelled?_append_cons (by decide) apart,
          spelled?_append_cons (by decide) apart, ← Option.map_or, Option.map_map, spoken?]
        congr 1
        funext rest
        simp only [Function.comp_apply]
        rw [List.length_append, List.length_append, Nat.add_sub_add_right,
          List.take_append_of_le_length (Nat.sub_le _ _)]
      rw [answer?, spoken, answer?]

end Leads

section Lines

variable {text : List Char}

/-- What a line states by itself. -/
def ofLine? (line : List Char) : Option Bool :=
  front? (trim line)

/-- The answer that a line takes from the text behind it, where the line is nothing but the name. -/
def torn? (line back : List Char) : Option Bool :=
  if named? (trim line) = some [] then answer? (back.dropWhile isBlank) else none

/-- What stands before a line behind the last line feed. -/
def rowOf (front : List Char) : List Char :=
  front.rtakeWhile (· != '\n')

/-- From the start of its row on, a line reads as it does by itself. -/
def IsSeen (place : LineOf text) : Prop :=
  named? (rowOf place.front ++ place.line) = named? (trimStart place.line)

instance (place : LineOf text) : Decidable (IsSeen place) :=
  inferInstanceAs (Decidable (_ = _))

/-- What is detected at a line: what it states, or takes from the text behind it, if what stands
before it on its row does not hide the name. -/
def detected? (place : LineOf text) : Option Bool :=
  if IsSeen place then (ofLine? place.line).or (torn? place.line place.back) else none

/-- Where the name is read from the start of a row and stands on a line, the answer is that of the
line. -/
theorem front?_of_named? (place : LineOf text) {early tail : List Char}
    (seen : named? (early ++ place.line) = some tail)
    (stands : named? (trimStart place.line) = some tail) :
    front? (early ++ (place.line ++ place.back)) =
      (ofLine? place.line).or (torn? place.line place.back) := by
  obtain ⟨margin, whole, blank⟩ := trimStart_eq place.line
  rw [whole] at stands
  obtain ⟨core, named, suffix, rfl⟩ := named?_of_margin blank stands
  have behind : ∀ c ∈ (margin ++ place.back).head?, isBlank c = true := by
    cases margin with
    | nil => exact fun c first => isBlank_of_isLineBreak (place.closes c first)
    | cons d more =>
        rintro _ ⟨⟩
        exact blank d List.mem_cons_self
  rw [← List.append_assoc, front?_eq, named?_append seen, Option.bind_some, ofLine?, front?_eq,
    named, Option.bind_some, torn?, named, List.append_assoc]
  cases core with
  | nil =>
      rw [if_pos rfl, List.nil_append, List.dropWhile_append_of_pos blank]
      rfl
  | cons c more =>
      have ends : EndsSolid (c :: more) := EndsSolid.of_suffix (isTrim_trim _).back suffix
      rw [if_neg (by simp), Option.or_none, ends.dropWhile_append (List.cons_ne_nil c more),
        answer?_append behind]

/-- Where something is detected, the name stands on the line. -/
theorem exists_of_detected? {place : LineOf text} {answer : Bool}
    (found : detected? place = some answer) :
    ∃ tail, named? (trimStart place.line) = some tail ∧
      named? (rowOf place.front ++ place.line) = some tail ∧
      front? (rowOf place.front ++ (place.line ++ place.back)) = some answer := by
  rw [detected?] at found
  split at found
  · next seen =>
      cases stands : named? (trimStart place.line) with
      | some tail =>
          have row := seen.trans stands
          exact ⟨tail, rfl, row, (front?_of_named? place row stands).trans found⟩
      | none =>
          obtain ⟨margin, whole, -⟩ := trimStart_eq place.line
          have nothing : named? (trim place.line) = none := by
            by_contra some
            obtain ⟨core, named⟩ := Option.ne_none_iff_exists'.mp some
            rw [whole, named?_append named] at stands
            cases stands
          rw [ofLine?, front?_eq, torn?, nothing] at found
          cases found
  · cases found

/-- A text that a row can begin behind. -/
def StartsRow (s : List Char) : Prop :=
  ∀ c ∈ s.getLast?, c = '\n'

/-- The row of a line begins behind a line feed, if not at the start of the text. -/
theorem exists_startsRow (front : List Char) :
    ∃ early, front = early ++ rowOf front ∧ StartsRow early :=
  ⟨front.rdropWhile (· != '\n'), (List.rdropWhile_append_rtakeWhile ..).symm,
    fun c last => by simpa using getLast?_rdropWhile c last⟩

/-- It begins behind any other place where a row can begin. -/
theorem rowOf_suffix {early : List Char} (starts : StartsRow early) (mid : List Char) :
    rowOf (early ++ mid) <:+ mid := by
  obtain ⟨before, split, -⟩ := exists_startsRow (early ++ mid)
  rcases List.append_eq_append_iff.mp split with ⟨more, -, same⟩ | ⟨more, same, row⟩
  · exact ⟨more, same.symm⟩
  · -- A row holds no line feed, so it cannot begin before the line feed in front of it.
    have gone : more = [] := by
      by_contra nonempty
      obtain ⟨c, last⟩ : ∃ c, c ∈ more.getLast? := ⟨_, List.getLast?_eq_some_getLast nonempty⟩
      have feed : c = '\n' := starts c (by rwa [same, List.getLast?_append_of_ne_nil _ nonempty])
      have inRow : c ∈ rowOf (early ++ mid) := by
        rw [row]
        exact List.mem_append_left _ (List.mem_of_getLast? last)
      have other := List.mem_rtakeWhile_imp inRow
      simp [feed] at other
    rw [row, gone]
    exact List.suffix_refl mid

/-- A line that the name stands on holds a character that no lead holds. -/
theorem exists_solid_of_named? {line tail : List Char}
    (stands : named? (trimStart line) = some tail) :
    ∃ c ∈ line, isBlank c = false ∧ c ≠ '#' := by
  obtain ⟨lead, spelled, split, -, spells⟩ := exists_of_named? stands
  obtain ⟨c, first, solid, unmarked⟩ := solid_of_name spells
  refine ⟨c, (List.dropWhile_sublist isBlank).subset ?_, solid, unmarked⟩
  rw [show line.dropWhile isBlank = _ from split]
  exact List.mem_append_right _ (List.mem_append_left _ (List.mem_of_mem_head? first))

/-- What a row reads is detected at the line that the name stands on. -/
theorem exists_detected? {early s : List Char} {answer : Bool} (split : text = early ++ s)
    (starts : StartsRow early) (reads : front? s = some answer) :
    ∃ (place : LineOf text) (mid : List Char), place.front = early ++ mid ∧
      detected? place = some answer ∧ ∀ c ∈ mid, c = '#' ∨ isBlank c = true := by
  obtain ⟨rest, named, -⟩ := Option.bind_eq_some_iff.mp ((front?_eq s).symm.trans reads)
  obtain ⟨lead, spelled, rfl, isLead, spells⟩ := exists_of_named? named
  obtain ⟨mid, own, rfl, plain, opens⟩ : ∃ mid own, lead = mid ++ own ∧
      (∀ c ∈ own, isLineBreak c = false) ∧ ∀ c ∈ mid.getLast?, isLineBreak c = true :=
    ⟨lead.rdropWhile (!isLineBreak ·), lead.rtakeWhile (!isLineBreak ·),
      (List.rdropWhile_append_rtakeWhile ..).symm,
      fun c member => by simpa using List.mem_rtakeWhile_imp member,
      fun c last => by simpa using getLast?_rdropWhile c last⟩
  obtain ⟨tail, back, rfl, plainTail, closes⟩ : ∃ tail back, rest = tail ++ back ∧
      (∀ c ∈ tail, isLineBreak c = false) ∧ ∀ c ∈ back.head?, isLineBreak c = true :=
    ⟨rest.takeWhile (!isLineBreak ·), rest.dropWhile (!isLineBreak ·),
      List.takeWhile_append_dropWhile.symm,
      fun c member => by simpa using List.mem_takeWhile_imp member,
      fun c first => by simpa using head?_dropWhile c first⟩
  have solid : ∀ c ∈ spelled, isLineBreak c = false := by
    intro c member
    refine Bool.eq_false_iff.mpr fun breaks => ?_
    have solid := isBlank_of_spelled? isBlankless_name spells c member
    rw [isBlank_of_isLineBreak breaks] at solid
    cases solid
  let place : LineOf text :=
    { front := early ++ mid
      line := own ++ (spelled ++ tail)
      back := back
      split := by simp only [split, List.append_assoc]
      opens := by
        cases mid with
        | nil =>
            rw [List.append_nil]
            rintro c last
            rw [starts c last]
            exact isLineBreak_lineFeed
        | cons d more => rwa [List.getLast?_append_of_ne_nil _ (List.cons_ne_nil d more)]
      plain := by
        simp only [List.forall_mem_append]
        exact ⟨plain, solid, plainTail⟩
      closes := closes }
  have seen : named? (mid ++ place.line) = some tail := by
    rw [← List.append_assoc]
    exact named?_lead isLead spells tail
  -- What is left of a lead without its front is a lead, too.
  have isLeadFrom {front late : List Char} (same : front ++ late = mid ++ own) : IsLead late := by
    rw [← same] at isLead
    by_cases gone : front = []
    · rwa [gone] at isLead
    · exact isLead_of_blank (isLead.behind gone)
  have stands : named? (trimStart place.line) = some tail :=
    named?_trimStart_lead (isLeadFrom rfl) spells tail
  have row : named? (rowOf place.front ++ place.line) = some tail := by
    obtain ⟨more, same⟩ := rowOf_suffix starts mid
    rw [← List.append_assoc]
    exact named?_lead (isLeadFrom (by rw [← List.append_assoc, same])) spells tail
  refine ⟨place, mid, rfl, ?_, fun c member => isLead.blank (List.mem_append_left _ member)⟩
  have isSeen : IsSeen place := row.trans stands.symm
  rw [detected?, if_pos isSeen, ← front?_of_named? place seen stands, ← reads]
  simp only [place, List.append_assoc]

end Lines

section Detection

variable {s front t : List Char} {answer : Bool}

theorem StartsRow.of_cons {c : Char} (starts : StartsRow (c :: s)) (nonempty : s ≠ []) :
    StartsRow s := by
  rwa [StartsRow, ← List.getLast?_append_of_ne_nil [c] nonempty]

/-- What is found below the first row is found at the first of the other rows where it is read. -/
theorem exists_of_below? (found : below? s = some answer) :
    ∃ front t, s = front ++ t ∧ front ≠ [] ∧ StartsRow front ∧ front? t = some answer ∧
      ∀ other late, s = other ++ late → other ≠ [] → StartsRow other →
        other.length < front.length → front? late = none := by
  induction s with
  | nil => cases found
  | cons c rest ih =>
      by_cases feed : c = '\n' ∧ front? rest = some answer
      · obtain ⟨rfl, reads⟩ := feed
        refine ⟨['\n'], rest, rfl, by simp, by simp [StartsRow], reads, ?_⟩
        intro other late _ nonempty _ shorter
        exact absurd (List.length_eq_zero_iff.mp (Nat.lt_one_iff.mp shorter)) nonempty
      · obtain ⟨later, nothing⟩ : below? rest = some answer ∧
            (c = '\n' → front? rest = none) := by
          rw [below?] at found
          split at found
          · next same =>
              split at found
              · next other reads =>
                  cases found
                  exact absurd ⟨beq_iff_eq.mp same, reads⟩ feed
              · next reads => exact ⟨found, fun _ => reads⟩
          · next other => exact ⟨found, fun same => absurd same (by simpa using other)⟩
        obtain ⟨front, t, rfl, nonempty, starts, reads, before⟩ := ih later
        refine ⟨c :: front, t, rfl, List.cons_ne_nil c front, ?_, reads, ?_⟩
        · rwa [StartsRow, ← List.singleton_append, List.getLast?_append_of_ne_nil _ nonempty]
        · intro other late split some starts shorter
          obtain ⟨d, more, rfl⟩ := List.exists_cons_of_ne_nil some
          obtain ⟨rfl, same⟩ := List.cons.inj split
          by_cases gone : more = []
          · subst gone
            have same : front ++ t = late := same
            rw [← same]
            exact nothing (starts c rfl)
          · exact before more late same gone (starts.of_cons gone) (Nat.lt_of_succ_lt_succ shorter)

/-- Whatever a row reads below the first one, something is found. -/
theorem isSome_below? (nonempty : front ≠ []) (starts : StartsRow front)
    (reads : (front? t).isSome = true) : (below? (front ++ t)).isSome = true := by
  induction front with
  | nil => exact absurd rfl nonempty
  | cons c rest ih =>
      rw [List.cons_append, below?]
      by_cases gone : rest = []
      · subst gone
        obtain rfl := starts c rfl
        obtain ⟨answer, reads⟩ := Option.isSome_iff_exists.mp reads
        rw [if_pos (beq_self_eq_true '\n'), List.nil_append, reads]
        rfl
      · have later := ih gone (starts.of_cons gone)
        split
        · split
          · rfl
          · exact later
        · exact later

/-- What a text states is read at the first row that states something. -/
theorem exists_of_ofText? {text : String} (found : ofText? text = some answer) :
    ∃ front t, text.toList = front ++ t ∧ StartsRow front ∧ front? t = some answer ∧
      ∀ other late, text.toList = other ++ late → StartsRow other →
        other.length < front.length → front? late = none := by
  rw [ofText?] at found
  split at found
  · next first reads =>
      cases found
      exact ⟨[], text.toList, rfl, by simp [StartsRow], reads, by simp⟩
  · next reads =>
      obtain ⟨front, t, split, -, starts, readsBelow, before⟩ := exists_of_below? found
      refine ⟨front, t, split, starts, readsBelow, fun other late split starts shorter => ?_⟩
      by_cases gone : other = []
      · rw [gone, List.nil_append] at split
        rw [← split, reads]
      · exact before other late split gone starts shorter

theorem isSome_ofText? {text : String} (split : text.toList = front ++ t) (starts : StartsRow front)
    (reads : (front? t).isSome = true) : (ofText? text).isSome = true := by
  rw [ofText?]
  split
  · rfl
  · next nothing =>
      rw [split]
      refine isSome_below? ?_ starts reads
      rintro rfl
      rw [List.nil_append] at split
      rw [← split, nothing] at reads
      cases reads

/-- **A text states what is detected at the first of its lines where something is.** -/
theorem ofText?_eq_some_iff {text : String} :
    ofText? text = some answer ↔ IsFirst (@detected? text.toList) answer := by
  have forward {answer : Bool} (found : ofText? text = some answer) :
      IsFirst (@detected? text.toList) answer := by
    obtain ⟨early, s, split, starts, reads, before⟩ := exists_of_ofText? found
    obtain ⟨place, mid, front, detected, lead⟩ := exists_detected? split starts reads
    refine ⟨place, detected, fun other sooner => ?_⟩
    by_contra stated
    obtain ⟨answer, stated⟩ := Option.ne_none_iff_exists'.mp stated
    obtain ⟨tail, stands, -, otherReads⟩ := exists_of_detected? stated
    obtain ⟨otherEarly, otherFront, otherStarts⟩ := exists_startsRow other.front
    have late : early.length ≤ otherEarly.length := by
      by_contra earlier
      have nothing := before otherEarly _
        (by rw [← List.append_assoc, ← otherFront]; exact other.split) otherStarts
        (Nat.lt_of_not_le earlier)
      rw [otherReads] at nothing
      cases nothing
    -- So the other line is among what stands before the name, where no name can be.
    obtain ⟨c, inside, solid, unmarked⟩ := exists_solid_of_named? stands
    have inMid : c ∈ mid := by
      obtain ⟨inner, sameFront, sameLine⟩ := place.exists_within other sooner
      have joined := front.symm.trans inner.split
      rw [sameFront, sameLine, otherFront, List.append_assoc] at joined
      rcases List.append_eq_append_iff.mp joined with ⟨more, -, same⟩ | ⟨more, longer, same⟩
      · rw [same]
        simp [inside]
      · have none : more = [] := by
          rw [longer, List.length_append] at late
          exact List.length_eq_zero_iff.mp (by omega)
        rw [none, List.nil_append] at same
        rw [← same]
        simp [inside]
    rcases lead c inMid with rfl | blank
    · exact unmarked rfl
    · rw [blank] at solid
      cases solid
  constructor
  · exact forward
  · intro first
    obtain ⟨place, detected, -⟩ := id first
    obtain ⟨tail, -, -, reads⟩ := exists_of_detected? detected
    obtain ⟨early, front, starts⟩ := exists_startsRow place.front
    have split : text.toList = early ++ (rowOf place.front ++ (place.line ++ place.back)) := by
      rw [← List.append_assoc, ← front]
      exact place.split
    obtain ⟨other, found⟩ := Option.isSome_iff_exists.mp <|
      isSome_ofText? split starts (by rw [reads]; rfl)
    rw [found, (forward found).unique first]

/-- A line that states something is detected if it is seen. -/
theorem detected?_of_isSeen {text : List Char} {place : LineOf text} (seen : IsSeen place)
    (stated : ofLine? place.line = some answer) : detected? place = some answer := by
  rw [detected?, if_pos seen, stated, Option.some_or]

/-- Read line by line, the first line that states something counts. -/
theorem findSome?_linesOf_iff {text : String} :
    (linesOf text).findSome? (fun line => ofLine? line.toList) = some answer ↔
      IsFirst (fun place : LineOf text.toList => ofLine? place.line) answer := by
  have same : (fun line : String => ofLine? line.toList) ∘ String.ofList = ofLine? := by
    funext line
    rw [Function.comp_apply, String.toList_ofList]
  rw [linesOf, List.findSome?_map, same]
  exact findSome?_lines_iff rfl

/-- Where all lines that state something are seen, and none takes its answer from behind it, a text
states what it states when it is read line by line. -/
theorem ofText?_eq_findSome? {text : String}
    (seen : ∀ place : LineOf text.toList, (ofLine? place.line).isSome = true → IsSeen place)
    (whole : ∀ place : LineOf text.toList, torn? place.line place.back = none) :
    ofText? text = (linesOf text).findSome? fun line => ofLine? line.toList := by
  have same : @detected? text.toList = fun place => ofLine? place.line := by
    funext place
    rw [detected?, whole, Option.or_none]
    split
    · rfl
    · next hidden =>
        exact (Option.not_isSome_iff_eq_none.mp fun stated => hidden (seen place stated)).symm
  refine Option.ext fun answer => ?_
  rw [ofText?_eq_some_iff, findSome?_linesOf_iff, same]

end Detection

end Directive

namespace Document

open Text

variable {text : String} {document : Document}

/-- **A document has the answer of the first line at which the directive is detected.** Read line by
line, the first line that states an answer would count. A line that states one is detected if it is
seen from the start of its row, so it takes effect, or one before it does. -/
theorem selfHealing_eq_some_iff (read : ofText text = .ok document) :
    (∀ answer, document.selfHealing = some answer ↔
        IsFirst (@Directive.detected? text.toList) answer) ∧
      (∀ answer, (linesOf text).findSome? (fun line => Directive.ofLine? line.toList) =
          some answer ↔
        IsFirst (fun place : LineOf text.toList => Directive.ofLine? place.line) answer) ∧
      ∀ place : LineOf text.toList, Directive.isDirective (String.ofList place.line) = true →
        Directive.IsSeen place → document.selfHealing.isSome = true := by
  have stated : document.selfHealing = Directive.ofText? text := by
    obtain ⟨cut, rfl⟩ := sections_of_ofText read
    rfl
  have detected (answer : Bool) : document.selfHealing = some answer ↔
      IsFirst (@Directive.detected? text.toList) answer := by
    rw [stated]
    exact Directive.ofText?_eq_some_iff
  refine ⟨detected, fun answer => Directive.findSome?_linesOf_iff, fun place directive seen => ?_⟩
  rw [Directive.isDirective, String.toList_ofList] at directive
  obtain ⟨answer, states⟩ := Option.isSome_iff_exists.mp directive
  have found := Directive.detected?_of_isSeen seen states
  obtain ⟨first, isFirst⟩ := exists_isFirst place (Option.isSome_iff_exists.mpr ⟨answer, found⟩)
  rw [(detected first).mpr isFirst]
  rfl

/-- A directive on the first line. -/
theorem selfHealing_eq_some_iff_off :
    ∃ document, ofText "Self-Healing: NO\n1. Click 'Go'" = .ok document ∧
      document.selfHealing = some false ∧
      IsFirst (@Directive.detected? "Self-Healing: NO\n1. Click 'Go'".toList) false := by
  let document : Document :=
    { steps := [⟨1, "Click 'Go'", .uiClick, {}⟩], misses := [], selfHealing := some false }
  have read : ofText "Self-Healing: NO\n1. Click 'Go'" = .ok document := by decide +kernel
  exact ⟨document, read, rfl, ((selfHealing_eq_some_iff read).1 false).mp rfl⟩

/-- A line behind another line break than a line feed, or with a margin before its mark, is not
detected, and a line without an answer takes that of a later line. -/
theorem selfHealing_of_other_lines :
    (((ofText "Intro\x0cSelf-Healing: YES\n1. Click 'Go'").toOption.map fun document =>
        (document.misses, document.selfHealing)) = some ([⟨1, "Intro"⟩], none) ∧
      (linesOf "Intro\x0cSelf-Healing: YES\n1. Click 'Go'").findSome?
        (fun line => Directive.ofLine? line.toList) = some true) ∧
    (((ofText "  # Self-Healing: YES\n1. Click 'Go'").toOption.map (·.selfHealing)) = some none ∧
      (linesOf "  # Self-Healing: YES\n1. Click 'Go'").findSome?
        (fun line => Directive.ofLine? line.toList) = some true) ∧
    ((ofText "Self-Healing:\nYES\nSelf-Healing: NO\n1. Click 'Go'").toOption.map
        (·.selfHealing)) = some (some true) ∧
      (linesOf "Self-Healing:\nYES\nSelf-Healing: NO\n1. Click 'Go'").findSome?
        (fun line => Directive.ofLine? line.toList) = some false := by
  decide +kernel

end Document

end Walkthrough
