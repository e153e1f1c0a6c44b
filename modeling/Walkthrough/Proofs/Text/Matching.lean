import Walkthrough.Text.Pattern

/-!
# What a pattern matches

Which stretches of text fit a pattern, whatever way to match is preferred, and what the pattern
keeps of them (`Walkthrough.Text.Pattern.Matches`). A run of a pattern takes such a stretch from the
front of the text and goes on with the rest (`Walkthrough.Text.Pattern.matches_of_run`), so every
match that a text is cut at is one (`Walkthrough.Text.Pattern.matches_of_found`).
-/

namespace Walkthrough.Text.Pattern

/-- A stretch of text fits a pattern, which keeps some parts of it. -/
inductive Matches : Pattern → List Char → List (List Char) → Prop
  | empty : Matches empty [] []
  | one {accepts : Char → Bool} {c : Char} : accepts c = true → Matches (one accepts) [c] []
  | many {accepts : Char → Bool} {s : List Char} :
      (∀ c ∈ s, accepts c = true) → Matches (many accepts) s []
  | few {accepts : Char → Bool} {s : List Char} :
      (∀ c ∈ s, accepts c = true) → Matches (few accepts) s []
  | seq {first second : Pattern} {s t : List Char} {kept more : List (List Char)} :
      Matches first s kept → Matches second t more →
        Matches (seq first second) (s ++ t) (kept ++ more)
  | left {first second : Pattern} {s : List Char} {kept : List (List Char)} :
      Matches first s kept → Matches (either first second) s kept
  | right {first second : Pattern} {s : List Char} {kept : List (List Char)} :
      Matches second s kept → Matches (either first second) s kept
  | keep {inner : Pattern} {s : List Char} {kept : List (List Char)} :
      Matches inner s kept → Matches (keep inner) s (kept ++ [s])

section Inversion

variable {first second inner : Pattern} {accepts : Char → Bool} {s : List Char}
  {kept : List (List Char)}

theorem matches_empty : Matches empty s kept ↔ s = [] ∧ kept = [] := by
  constructor
  · rintro ⟨⟩
    exact ⟨rfl, rfl⟩
  · rintro ⟨rfl, rfl⟩
    exact .empty

theorem matches_one :
    Matches (one accepts) s kept ↔ (∃ c, accepts c = true ∧ s = [c]) ∧ kept = [] := by
  constructor
  · rintro ⟨⟩
    exact ⟨⟨_, ‹_›, rfl⟩, rfl⟩
  · rintro ⟨⟨c, accepted, rfl⟩, rfl⟩
    exact .one accepted

theorem matches_many :
    Matches (many accepts) s kept ↔ (∀ c ∈ s, accepts c = true) ∧ kept = [] := by
  constructor
  · rintro ⟨⟩
    exact ⟨‹_›, rfl⟩
  · rintro ⟨accepted, rfl⟩
    exact .many accepted

theorem matches_optional :
    Matches (optional (one accepts)) s kept ↔
      (s = [] ∨ ∃ c, accepts c = true ∧ s = [c]) ∧ kept = [] := by
  constructor
  · intro fits
    cases fits with
    | left taken =>
        obtain ⟨single, rfl⟩ := matches_one.mp taken
        exact ⟨.inr single, rfl⟩
    | right passed =>
        obtain ⟨rfl, rfl⟩ := matches_empty.mp passed
        exact ⟨.inl rfl, rfl⟩
  · rintro ⟨rfl | ⟨c, accepted, rfl⟩, rfl⟩
    · exact .right .empty
    · exact .left (.one accepted)

theorem matches_seq :
    Matches (seq first second) s kept ↔
      ∃ front back early late, s = front ++ back ∧ kept = early ++ late ∧
        Matches first front early ∧ Matches second back late := by
  constructor
  · rintro ⟨⟩
    exact ⟨_, _, _, _, rfl, rfl, ‹_›, ‹_›⟩
  · rintro ⟨front, back, early, late, rfl, rfl, fits, fitsLate⟩
    exact .seq fits fitsLate

theorem matches_keep :
    Matches (keep inner) s kept ↔ ∃ early, kept = early ++ [s] ∧ Matches inner s early := by
  constructor
  · rintro ⟨⟩
    exact ⟨_, rfl, ‹_›⟩
  · rintro ⟨early, rfl, fits⟩
    exact .keep fits

/-- Fixed characters match themselves alone, and nothing of them is kept. -/
theorem matches_exactly {text : List Char} :
    Matches (exactly text) s kept ↔ s = text ∧ kept = [] := by
  induction text generalizing s kept with
  | nil => exact matches_empty
  | cons c rest ih =>
      rw [exactly, List.foldr_cons, ← exactly, matches_seq]
      constructor
      · rintro ⟨front, back, early, late, rfl, rfl, fits, fitsLate⟩
        obtain ⟨⟨d, same, rfl⟩, rfl⟩ := matches_one.mp fits
        obtain ⟨rfl, rfl⟩ := ih.mp fitsLate
        rw [beq_iff_eq.mp same]
        exact ⟨rfl, rfl⟩
      · rintro ⟨rfl, rfl⟩
        exact ⟨[c], rest, [], [], rfl, rfl, .one (beq_self_eq_true c), ih.mpr ⟨rfl, rfl⟩⟩

theorem matches_oneOrMore :
    Matches (oneOrMore accepts) s kept ↔ s ≠ [] ∧ (∀ c ∈ s, accepts c = true) ∧ kept = [] := by
  rw [oneOrMore, matches_seq]
  constructor
  · rintro ⟨front, back, early, late, rfl, rfl, fits, fitsLate⟩
    obtain ⟨⟨c, accepted, rfl⟩, rfl⟩ := matches_one.mp fits
    obtain ⟨allAccepted, rfl⟩ := matches_many.mp fitsLate
    exact ⟨by simp, by simpa using ⟨accepted, allAccepted⟩, rfl⟩
  · rintro ⟨some, accepted, rfl⟩
    obtain ⟨c, rest, rfl⟩ := List.exists_cons_of_ne_nil some
    obtain ⟨first, others⟩ := List.forall_mem_cons.mp accepted
    exact ⟨[c], rest, [], [], rfl, rfl, .one first, .many others⟩

section Silent

variable {Fits : List Char → Prop}

/-- A run of characters of a class keeps nothing. -/
theorem matches_oneOrMore_silent :
    Matches (oneOrMore accepts) s kept ↔
      (s ≠ [] ∧ ∀ c ∈ s, accepts c = true) ∧ kept = [] := by
  rw [matches_oneOrMore, and_assoc]

/-- Behind a pattern that keeps nothing, the rest keeps what is kept. -/
theorem matches_seq_of_silent
    (silent : ∀ t more, Matches first t more ↔ Fits t ∧ more = []) :
    Matches (seq first second) s kept ↔
      ∃ front back, s = front ++ back ∧ Fits front ∧ Matches second back kept := by
  rw [matches_seq]
  constructor
  · rintro ⟨front, back, early, late, rfl, rfl, matched, fitsLate⟩
    obtain ⟨fits, rfl⟩ := (silent _ _).mp matched
    exact ⟨front, back, rfl, fits, fitsLate⟩
  · rintro ⟨front, back, rfl, fits, fitsLate⟩
    exact ⟨front, back, [], kept, rfl, rfl, (silent _ _).mpr ⟨fits, rfl⟩, fitsLate⟩

/-- What fits a pattern that keeps nothing is kept whole, before what the rest keeps. -/
theorem matches_keep_of_silent
    (silent : ∀ t more, Matches inner t more ↔ Fits t ∧ more = []) :
    Matches (seq (keep inner) second) s kept ↔
      ∃ text back late, s = text ++ back ∧ kept = text :: late ∧ Fits text ∧
        Matches second back late := by
  rw [matches_seq]
  constructor
  · rintro ⟨text, back, _, late, rfl, rfl, keeps, fitsLate⟩
    obtain ⟨early, rfl, matched⟩ := matches_keep.mp keeps
    obtain ⟨fits, rfl⟩ := (silent _ _).mp matched
    exact ⟨text, back, late, rfl, rfl, fits, fitsLate⟩
  · rintro ⟨text, back, late, rfl, rfl, fits, fitsLate⟩
    have keeps : Matches (keep inner) text [text] :=
      matches_keep.mpr ⟨[], rfl, (silent _ _).mpr ⟨fits, rfl⟩⟩
    exact ⟨text, back, [text], late, rfl, rfl, keeps, fitsLate⟩

/-- A stretch between fixed characters is kept without them. -/
theorem matches_enclosed {before behind : List Char} :
    Matches (all [exactly before, keep (oneOrMore accepts), exactly behind]) s kept ↔
      ∃ inside, inside ≠ [] ∧ (∀ c ∈ inside, accepts c = true) ∧
        s = before ++ inside ++ behind ∧ kept = [inside] := by
  simp only [Pattern.all, List.foldr_cons, List.foldr_nil,
    matches_seq_of_silent (fun _ _ => matches_exactly),
    matches_keep_of_silent (fun _ _ => matches_oneOrMore_silent), matches_empty]
  constructor
  · rintro ⟨_, _, rfl, rfl, inside, _, _, rfl, rfl, ⟨nonempty, accepted⟩, _, _, rfl, rfl, rfl, rfl⟩
    exact ⟨inside, nonempty, accepted, by simp, rfl⟩
  · rintro ⟨inside, nonempty, accepted, rfl, rfl⟩
    exact ⟨before, inside ++ behind, by simp, rfl, inside, behind, [], rfl, rfl,
      ⟨nonempty, accepted⟩, behind, [], by simp, rfl, rfl, rfl⟩

end Silent

end Inversion

section Running

variable {β : Type} {found : β}

theorem taken_of_runMany {accepts : Char → Bool} {next : List Char → Option β} {s : List Char}
    (run : runMany accepts next s = some found) :
    ∃ taken rest, s = taken ++ rest ∧ (∀ c ∈ taken, accepts c = true) ∧ next rest = some found := by
  induction s with
  | nil => exact ⟨[], [], rfl, by simp, run⟩
  | cons c rest ih =>
      have here (stopped : next (c :: rest) = some found) :
          ∃ taken after, c :: rest = taken ++ after ∧
            (∀ c ∈ taken, accepts c = true) ∧ next after = some found :=
        ⟨[], c :: rest, rfl, by simp, stopped⟩
      rw [runMany] at run
      split at run
      · next accepted =>
          split at run
          · next longer =>
              obtain ⟨taken, after, rfl, allAccepted, ended⟩ := ih (longer.trans run)
              exact ⟨c :: taken, after, rfl, List.forall_mem_cons.mpr ⟨accepted, allAccepted⟩,
                ended⟩
          · exact here run
      · exact here run

theorem taken_of_runFew {accepts : Char → Bool} {next : List Char → Option β} {s : List Char}
    (run : runFew accepts next s = some found) :
    ∃ taken rest, s = taken ++ rest ∧ (∀ c ∈ taken, accepts c = true) ∧ next rest = some found := by
  induction s with
  | nil => exact ⟨[], [], rfl, by simp, run⟩
  | cons c rest ih =>
      rw [runFew] at run
      split at run
      · next stopped => exact ⟨[], c :: rest, rfl, by simp, stopped.trans run⟩
      · split at run
        · next accepted =>
            obtain ⟨taken, after, rfl, allAccepted, ended⟩ := ih run
            exact ⟨c :: taken, after, rfl, List.forall_mem_cons.mpr ⟨accepted, allAccepted⟩, ended⟩
        · cases run

/-- A run with a result takes a stretch that fits from the front of the text, and goes on behind it
with what the pattern keeps of the stretch. -/
theorem matches_of_run {pattern : Pattern} {next : List (List Char) → List Char → Option β}
    {kept : List (List Char)} {s : List Char} (run : pattern.run next kept s = some found) :
    ∃ taken rest more, s = taken ++ rest ∧ pattern.Matches taken more ∧
      next (kept ++ more) rest = some found := by
  induction pattern generalizing next kept s with
  | empty => exact ⟨[], s, [], rfl, .empty, by rwa [List.append_nil]⟩
  | one accepts =>
      cases s with
      | nil => cases run
      | cons c rest =>
          rw [Pattern.run] at run
          split at run
          · next accepted => exact ⟨[c], rest, [], rfl, .one accepted, by rwa [List.append_nil]⟩
          · cases run
  | many accepts =>
      obtain ⟨taken, rest, rfl, accepted, ended⟩ := taken_of_runMany run
      exact ⟨taken, rest, [], rfl, .many accepted, by rwa [List.append_nil]⟩
  | few accepts =>
      obtain ⟨taken, rest, rfl, accepted, ended⟩ := taken_of_runFew run
      exact ⟨taken, rest, [], rfl, .few accepted, by rwa [List.append_nil]⟩
  | seq first second ihFirst ihSecond =>
      obtain ⟨front, middle, early, rfl, fits, later⟩ := ihFirst run
      obtain ⟨back, rest, late, rfl, fitsLate, ended⟩ := ihSecond later
      refine ⟨front ++ back, rest, early ++ late, (List.append_assoc ..).symm,
        .seq fits fitsLate, ?_⟩
      rwa [← List.append_assoc]
  | either first second ihFirst ihSecond =>
      rw [Pattern.run] at run
      split at run
      · next preferred =>
          obtain ⟨taken, rest, more, rfl, fits, ended⟩ := ihFirst (preferred.trans run)
          exact ⟨taken, rest, more, rfl, .left fits, ended⟩
      · obtain ⟨taken, rest, more, rfl, fits, ended⟩ := ihSecond run
        exact ⟨taken, rest, more, rfl, .right fits, ended⟩
  | keep inner ih =>
      obtain ⟨taken, rest, early, rfl, fits, ended⟩ := ih run
      refine ⟨taken, rest, early ++ [taken], rfl, .keep fits, ?_⟩
      have whole : (taken ++ rest).take ((taken ++ rest).length - rest.length) = taken := by simp
      rwa [whole, List.append_assoc] at ended

theorem matches_of_front? {pattern : Pattern} {s rest : List Char} {kept : List (List Char)}
    (front : pattern.front? s = some (kept, rest)) :
    ∃ taken, s = taken ++ rest ∧ pattern.Matches taken kept := by
  obtain ⟨taken, after, more, rfl, fits, ended⟩ := matches_of_run front
  cases ended
  exact ⟨taken, rfl, fits⟩

/-- Wherever a text is cut at a match, a stretch of it fits the pattern. -/
theorem matches_of_found {pattern : Pattern} {s : List Char} {skipped : Nat}
    {kept : List (List Char)} (member : .found kept ∈ pattern.cut s skipped) :
    ∃ taken, pattern.Matches taken kept := by
  fun_induction cut pattern s skipped with
  | case1 => cases member
  | case2 _ _ _ ih => exact ih member
  | case3 c rest kept' after front _ ih =>
      rcases List.mem_cons.mp member with here | later
      · cases here
        obtain ⟨taken, -, fits⟩ := matches_of_front? front
        exact ⟨taken, fits⟩
      · exact ih later
  | case4 c rest _ _ _ _ ih => exact ih (by simpa using member)
  | case5 c rest _ ih => exact ih (by simpa using member)

end Running

section Cutting

variable {pattern : Pattern} {s rest : List Char}

theorem cut_skipped (skipped : Nat) :
    pattern.cut s skipped = pattern.pieces (s.drop skipped) := by
  induction s generalizing skipped with
  | nil => rw [List.drop_nil, pieces, cut, cut]
  | cons c rest ih =>
      cases skipped with
      | zero => rfl
      | succ skipped => rw [cut, ih, List.drop_succ_cons]

/-- A text is cut behind a match of some characters that it begins with. -/
theorem pieces_of_front? {kept : List (List Char)} (nonempty : s ≠ [])
    (front : pattern.front? (s ++ rest) = some (kept, rest)) :
    pattern.pieces (s ++ rest) = .found kept :: pattern.pieces rest := by
  obtain ⟨c, others, rfl⟩ := List.exists_cons_of_ne_nil nonempty
  rw [List.cons_append] at front ⊢
  have shorter : rest.length ≤ (others ++ rest).length := by
    rw [List.length_append]
    omega
  have behind : (others ++ rest).drop ((others ++ rest).length - rest.length) = rest := by
    rw [List.length_append, Nat.add_sub_cancel_right, List.drop_left]
  rw [pieces, cut, front]
  simp only [shorter, if_true, cut_skipped, behind]

end Cutting

end Walkthrough.Text.Pattern
