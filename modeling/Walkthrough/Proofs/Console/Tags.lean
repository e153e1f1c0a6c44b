import Mathlib.Data.List.TakeWhile
import Walkthrough.Console.Markup
import Walkthrough.Proofs.Text.Backslashes
import Walkthrough.Proofs.Text.Preference

/-!
# Tags in markup

A tag has its meaning if an even number of backslashes stands right before it
(`Walkthrough.Markup.tags`). Whether there is one can be told place by place, so that the tags of a
text are those of its parts if no tag runs from one into the other
(`Walkthrough.Markup.tagsFrom_append`), and a text that is escaped has none
(`Walkthrough.Markup.tags_escape`).
-/

namespace Walkthrough.Markup

open Text Text.Pattern

/-- The tags of a text that have their meaning: those that an even number of backslashes stands
right before. -/
def tags (markup : String) : List String :=
  ((tagPattern.findAll markup.toList).filter fun kept => !byOdd (kept.headD []).length).map
    fun kept => String.ofList (kept.drop 1).flatten

/-- The signs that a tag stands between. -/
def isBracket (c : Char) : Bool :=
  c == '[' || c == ']'

/-- The first bracket of a text. -/
def firstBracket (s : List Char) : Option Char :=
  s.find? isBracket

/-- The last bracket of a text. -/
def lastBracket (s : List Char) : Option Char :=
  s.reverse.find? isBracket

/-- The tag that a text begins with: a bracket, a character that can start a tag, and all up to the
next bracket, which closes it. -/
def tag? : List Char → Option (List Char)
  | '[' :: rest =>
    if rest.head?.any startsTag && firstBracket rest == some ']' then
      some ('[' :: rest.takeWhile (!isBracket ·) ++ [']'])
    else none
  | _ => none

/-- What comes of a text, place by place: something for each tag, and something for each
character. So many backslashes stand right before the text. -/
def scan {β : Type} (atTag : Nat → List Char → List β) (atChar : Char → List β) (slashes : Nat) :
    List Char → List β
  | [] => []
  | c :: rest =>
    (tag? (c :: rest)).toList.flatMap (atTag slashes) ++ atChar c ++
      scan atTag atChar (slashesBehind slashes c) rest

/-- The tags of a text that have their meaning, place by place. -/
def tagsFrom (slashes : Nat) (s : List Char) : List (List Char) :=
  scan (fun slashes tag => if byOdd slashes then [] else [tag]) (fun _ => []) slashes s

/-- A text with its tags made plain, place by place. -/
def escapedFrom (slashes : Nat) (s : List Char) : List Char :=
  scan (fun slashes _ => List.replicate (slashes + 1) '\\') (fun c => [c]) slashes s

variable {c : Char} {s t rest tag : List Char} {slashes : Nat}

section Brackets

theorem not_isBracket_of_startsTag (starts : startsTag c = true) : isBracket c = false := by
  rw [Bool.eq_false_iff]
  intro bracket
  rcases (Bool.or_eq_true ..).mp bracket with opens | closes
  · rw [eq_of_beq opens] at starts
    exact absurd starts (by decide)
  · rw [eq_of_beq closes] at starts
    exact absurd starts (by decide)

theorem tag?_of_ne (other : c ≠ '[') (rest : List Char) : tag? (c :: rest) = none := by
  unfold tag?
  split
  · next same => exact absurd (List.cons.inj same).1 other
  · rfl

theorem tag?_bracket (rest : List Char) :
    tag? ('[' :: rest) =
      if rest.head?.any startsTag && firstBracket rest == some ']' then
        some ('[' :: rest.takeWhile (!isBracket ·) ++ [']'])
      else none := rfl

theorem tag?_isSome (rest : List Char) :
    (tag? ('[' :: rest)).isSome = (rest.head?.any startsTag && firstBracket rest == some ']') := by
  rw [tag?_bracket]
  split
  · next holds => rw [holds]; rfl
  · next fails => rw [Bool.eq_false_iff.mpr fails]; rfl

theorem firstBracket_append (s t : List Char) :
    firstBracket (s ++ t) = (firstBracket s).or (firstBracket t) :=
  List.find?_append

theorem firstBracket_of_bracketless (bracketless : ∀ c ∈ s, isBracket c = false) :
    firstBracket s = none :=
  List.find?_eq_none.mpr fun c member => by simp [bracketless c member]

theorem lastBracket_append (s t : List Char) :
    lastBracket (s ++ t) = (lastBracket t).or (lastBracket s) := by
  rw [lastBracket, List.reverse_append, List.find?_append]
  rfl

theorem lastBracket_eq_none_iff : lastBracket s = none ↔ firstBracket s = none := by
  simp [lastBracket, firstBracket]

/-- The shape of a tag. -/
theorem tag?_eq_some_iff :
    tag? s = some tag ↔ ∃ body after, tag = '[' :: body ++ [']'] ∧ s = tag ++ after ∧
      body.head?.any startsTag = true ∧ ∀ c ∈ body, isBracket c = false := by
  constructor
  · intro found
    cases s with
    | nil => cases found
    | cons c rest =>
        by_cases opens : c = '['
        · subst opens
          rw [tag?_bracket] at found
          split at found
          · next holds =>
              obtain ⟨starts, closes⟩ := (Bool.and_eq_true ..).mp holds
              cases found
              obtain ⟨-, body, after, whole, bare⟩ :=
                List.find?_eq_some_iff_append.mp (eq_of_beq closes)
              have bare : ∀ c ∈ body, isBracket c = false := fun c member => by
                simpa using bare c member
              have taken : rest.takeWhile (!isBracket ·) = body := by
                rw [whole, List.takeWhile_append_of_pos (by simpa using bare)]
                simp [isBracket]
              rw [taken]
              refine ⟨body, after, rfl, by rw [whole]; simp, ?_, bare⟩
              rw [whole] at starts
              cases body with
              | nil => exact absurd (show startsTag ']' = true from starts) (by decide)
              | cons d more => exact starts
          · cases found
        · rw [tag?_of_ne opens] at found
          cases found
  · rintro ⟨body, after, rfl, rfl, starts, bare⟩
    have first : firstBracket (body ++ ']' :: after) = some ']' := by
      rw [firstBracket_append, firstBracket_of_bracketless bare]
      rfl
    have taken : (body ++ ']' :: after).takeWhile (!isBracket ·) = body := by
      rw [List.takeWhile_append_of_pos (by simpa using bare)]
      simp [isBracket]
    have head : (body ++ ']' :: after).head?.any startsTag = true := by
      cases body with
      | nil => cases starts
      | cons d more => exact starts
    have shape : '[' :: body ++ [']'] ++ after = '[' :: (body ++ ']' :: after) := by simp
    rw [shape, tag?_bracket, head, first, taken]
    rfl

/-- No tag runs from one text into the next if no bracket is left open before the next one, or no
bracket is closed in it. -/
def Apart (s t : List Char) : Prop :=
  lastBracket s ≠ some '[' ∨ firstBracket t ≠ some ']'

theorem Apart.tail (apart : Apart (c :: s) t) : Apart s t := by
  refine apart.imp_left fun other opens => other ?_
  rw [← List.singleton_append, lastBracket_append, opens, Option.some_or]

/-- Then a text begins with the tag that it begins with by itself. -/
theorem Apart.tag?_eq (apart : Apart (c :: s) t) : tag? (c :: s ++ t) = tag? (c :: s) := by
  cases found : tag? (c :: s) with
  | some tag =>
      obtain ⟨body, after, shape, whole, starts, bare⟩ := tag?_eq_some_iff.mp found
      exact tag?_eq_some_iff.mpr
        ⟨body, after ++ t, shape, by rw [whole, List.append_assoc], starts, bare⟩
  | none =>
      by_cases opens : c = '['
      · subst opens
        rw [← Option.not_isSome_iff_eq_none] at found ⊢
        rw [tag?_isSome] at found
        rw [List.cons_append, tag?_isSome, firstBracket_append]
        intro holds
        cases first : firstBracket s with
        | none =>
            have last : lastBracket ('[' :: s) = some '[' := by
              rw [← List.singleton_append, lastBracket_append, lastBracket_eq_none_iff.mpr first]
              rfl
            rw [first, Option.none_or] at holds
            exact apart.elim (· last) (· (eq_of_beq ((Bool.and_eq_true ..).mp holds).2))
        | some bracket =>
            cases s with
            | nil => cases first
            | cons d more =>
                rw [first, Option.some_or] at holds
                rw [first] at found
                exact found holds
      · exact tag?_of_ne opens _

end Brackets

section Pattern

variable {β : Type} {next : List Char → Option β}

/-- A lazy run up to a closing bracket ends at the first bracket. -/
theorem runFew_eq_none (closing : ∀ s, s.head? ≠ some ']' → next s = none)
    (first : firstBracket s ≠ some ']') : runFew (· != '[') next s = none := by
  induction s with
  | nil => exact closing [] (by simp)
  | cons c rest ih =>
      by_cases bracket : isBracket c = true
      · have other : c ≠ ']' := by
          rintro rfl
          exact first rfl
        have opens : c = '[' := by simpa [isBracket, other] using bracket
        rw [runFew, closing _ (by simpa using other), opens]
        rfl
      · have others : c ≠ '[' ∧ c ≠ ']' := by simpa [isBracket] using bracket
        rw [firstBracket, List.find?_cons_of_neg bracket] at first
        rw [runFew, closing _ (by simpa using others.2)]
        simp [others.1, ih first]

theorem runFew_of_bracketless (closing : ∀ s, s.head? ≠ some ']' → next s = none)
    (bare : ∀ c ∈ s, isBracket c = false) (ends : (next (']' :: rest)).isSome = true) :
    runFew (· != '[') next (s ++ ']' :: rest) = next (']' :: rest) := by
  obtain ⟨found, ends⟩ := Option.isSome_iff_exists.mp ends
  induction s with
  | nil => rw [List.nil_append, runFew, ends]
  | cons c more ih =>
      obtain ⟨first, others⟩ := List.forall_mem_cons.mp bare
      have signs : c ≠ '[' ∧ c ≠ ']' := by simpa [isBracket] using first
      rw [List.cons_append, runFew, closing _ (by simpa using signs.2)]
      simp [signs.1, ih others]

/-- What a tag looks like as a pattern. -/
def tagBody : Pattern :=
  all [one (· == '['), one startsTag, few (· != '['), one (· == ']')]

theorem run_tagBody {next : List (List Char) → List Char → Option β} {kept : List (List Char)}
    (total : ∀ rest, (next kept rest).isSome = true) (s : List Char) :
    tagBody.run next kept s = (tag? s).bind fun tag => next kept (s.drop tag.length) := by
  have closing : ∀ s : List Char, s.head? ≠ some ']' →
      (one (· == ']')).run (empty.run next) kept s = none := by
    intro s other
    cases s with
    | nil => rfl
    | cons c rest =>
        rw [run]
        exact if_neg (by simpa using other)
  have step (d : Char) (more : List Char) (starts : startsTag d = true) :
      tagBody.run next kept ('[' :: d :: more) =
        runFew (· != '[') ((one (· == ']')).run (empty.run next) kept) more := by
    simp only [tagBody, all, List.foldr, run, beq_self_eq_true, if_true, starts]
  cases found : tag? s with
  | some tag =>
      obtain ⟨body, after, rfl, rfl, starts, bare⟩ := tag?_eq_some_iff.mp found
      cases body with
      | nil => cases starts
      | cons d more =>
          have behind : ('[' :: (d :: more) ++ [']'] ++ after).drop
              ('[' :: (d :: more) ++ [']']).length = after := List.drop_left
          have shape :
              '[' :: (d :: more) ++ [']'] ++ after = '[' :: d :: (more ++ ']' :: after) := by
            simp
          rw [Option.bind_some, behind, shape, step d _ starts]
          exact runFew_of_bracketless closing (List.forall_mem_cons.mp bare).2 (total after)
  | none =>
      -- The pattern fails at its bracket, at the character behind it, or at the next bracket.
      rw [Option.bind_none]
      cases s with
      | nil => rfl
      | cons c rest =>
          by_cases opens : c = '['
          · subst opens
            cases rest with
            | nil => rfl
            | cons d more =>
                cases starts : startsTag d with
                | false => simp [tagBody, all, run, starts]
                | true =>
                    have missing := tag?_isSome (d :: more)
                    have no : ¬isBracket d = true := by simp [not_isBracket_of_startsTag starts]
                    rw [found, firstBracket, List.find?_cons_of_neg no] at missing
                    rw [step d more starts]
                    refine runFew_eq_none closing fun first => ?_
                    rw [← firstBracket, first, List.head?_cons, Option.any_some, starts] at missing
                    cases missing
          · simp [tagBody, all, run, opens]

/-- A tag is looked for behind all backslashes at the start of a text. -/
theorem front?_tagPattern (s : List Char) :
    tagPattern.front? s = (tag? (s.dropWhile (· == '\\'))).map fun tag =>
      ([s.takeWhile (· == '\\'), tag], (s.dropWhile (· == '\\')).drop tag.length) := by
  have slashes : s.take (s.length - (s.dropWhile (· == '\\')).length) =
      s.takeWhile (· == '\\') := by
    have lengths := congrArg List.length (@List.takeWhile_append_dropWhile _ (· == '\\') s)
    rw [List.length_append] at lengths
    rw [← lengths, Nat.add_sub_cancel_right]
    exact (List.prefix_iff_eq_take.mp (List.takeWhile_prefix _)).symm
  have body (rest : List Char) : (keep tagBody).run (empty.run fun kept rest => some (kept, rest))
      [s.take (s.length - rest.length)] rest =
        (tag? rest).map fun tag =>
          ([s.take (s.length - rest.length), tag], rest.drop tag.length) := by
    rw [run, run_tagBody (fun _ => rfl)]
    cases found : tag? rest with
    | none => rfl
    | some tag =>
        obtain ⟨_, after, -, rfl, -⟩ := tag?_eq_some_iff.mp found
        simp [run]
  have whole : tagPattern.front? s =
      runMany (· == '\\') (fun rest => (keep tagBody).run
        (empty.run fun kept rest => some (kept, rest)) [s.take (s.length - rest.length)] rest) s :=
    rfl
  rw [whole, runMany_of_refused, body, slashes]
  intro c rest backslash
  rw [body, eq_of_beq backslash, tag?_of_ne (by decide), Option.map_none]

end Pattern

section Pieces

theorem pieces_char (none : tag? ((c :: rest).dropWhile (· == '\\')) = none) :
    tagPattern.pieces (c :: rest) = .char c :: tagPattern.pieces rest := by
  rw [pieces, cut, front?_tagPattern, none]
  rfl

theorem pieces_found {backslashes after : List Char} (all : ∀ c ∈ backslashes, c = '\\')
    (found : tag? (tag ++ after) = some tag) :
    tagPattern.pieces (backslashes ++ tag ++ after) =
      .found [backslashes, tag] :: tagPattern.pieces after := by
  obtain ⟨body, _, rfl, -⟩ := tag?_eq_some_iff.mp found
  have accepted : ∀ c ∈ backslashes, (c == '\\') = true :=
    fun c member => beq_iff_eq.mpr (all c member)
  refine pieces_of_front? (by simp) ?_
  rw [List.append_assoc, front?_tagPattern, List.dropWhile_append_of_pos accepted,
    List.takeWhile_append_of_pos accepted]
  simp only [List.cons_append] at found ⊢
  rw [List.dropWhile_cons_of_neg (by decide), List.takeWhile_cons_of_neg (by decide), found]
  simp

/-- A text is empty, or goes on behind a character, or behind a tag with all backslashes before
it. -/
theorem tagPattern_induction {motive : List Char → Prop} (nil : motive [])
    (char : ∀ c rest, tag? ((c :: rest).dropWhile (· == '\\')) = none → motive rest →
      motive (c :: rest))
    (found : ∀ backslashes tag after, (∀ c ∈ backslashes, c = '\\') →
      tag? (tag ++ after) = some tag → motive after → motive (backslashes ++ tag ++ after))
    (s : List Char) : motive s := by
  -- On the length of the text, since a tag is passed over whole with the backslashes before it.
  induction size : s.length using Nat.strong_induction_on generalizing s with
  | _ n ih =>
    cases s with
    | nil => exact nil
    | cons c rest =>
        cases first : tag? ((c :: rest).dropWhile (· == '\\')) with
        | none => exact char c rest first (ih rest.length (by rw [← size]; simp) rest rfl)
        | some tag =>
            obtain ⟨body, after, shape, behind, -⟩ := tag?_eq_some_iff.mp first
            have whole : c :: rest = (c :: rest).takeWhile (· == '\\') ++ tag ++ after := by
              rw [List.append_assoc, ← behind, List.takeWhile_append_dropWhile]
            have shorter : after.length < n := by
              rw [← size, whole, shape]
              simp
              omega
            rw [behind] at first
            rw [whole]
            refine found _ _ _ (fun d member => ?_) first (ih _ shorter after rfl)
            exact eq_of_beq (List.mem_takeWhile_imp (p := (· == '\\')) member)

end Pieces

section Places

variable {β : Type} {atTag : Nat → List Char → List β} {atChar : Char → List β}

theorem scan_cons_of_ne (other : c ≠ '[') (slashes : Nat) (rest : List Char) :
    scan atTag atChar slashes (c :: rest) =
      atChar c ++ scan atTag atChar (slashesBehind slashes c) rest := by
  rw [scan, tag?_of_ne other]
  rfl

theorem scan_append_of_openless (openless : '[' ∉ s) (slashes : Nat) (t : List Char) :
    scan atTag atChar slashes (s ++ t) =
      s.flatMap atChar ++ scan atTag atChar (slashesAfter slashes s) t := by
  induction s generalizing slashes with
  | nil => rfl
  | cons c rest ih =>
      rw [List.cons_append, scan_cons_of_ne (List.ne_of_not_mem_cons openless).symm,
        ih (List.not_mem_of_not_mem_cons openless), List.flatMap_cons, List.append_assoc,
        slashesAfter_cons]

/-- The backslashes before a text only matter if a tag stands behind them and those that the text
begins with. -/
theorem scan_of_tagless (none : tag? (s.dropWhile (· == '\\')) = none) (slashes other : Nat) :
    scan atTag atChar slashes s = scan atTag atChar other s := by
  induction s generalizing slashes other with
  | nil => rfl
  | cons c rest ih =>
      by_cases backslash : c = '\\'
      · subst backslash
        rw [List.dropWhile_cons_of_pos (by decide)] at none
        rw [scan_cons_of_ne (by decide), scan_cons_of_ne (by decide), ih none]
      · rw [List.dropWhile_cons_of_neg (by simpa using backslash)] at none
        rw [scan, scan, none, slashesBehind_of_ne backslash, slashesBehind_of_ne backslash]
        rfl

/-- A character is passed over if no tag stands behind it and the backslashes after it. -/
theorem scan_char (none : tag? ((c :: rest).dropWhile (· == '\\')) = none) :
    scan atTag atChar 0 (c :: rest) = atChar c ++ scan atTag atChar 0 rest := by
  by_cases backslash : c = '\\'
  · subst backslash
    rw [List.dropWhile_cons_of_pos (by decide)] at none
    rw [scan_cons_of_ne (by decide), scan_of_tagless none _ 0]
  · rw [List.dropWhile_cons_of_neg (by simpa using backslash)] at none
    rw [scan, none, slashesBehind_of_ne backslash]
    rfl

/-- Within a tag there is no other one. -/
theorem scan_tag {after : List Char} (found : tag? (tag ++ after) = some tag) (slashes : Nat) :
    scan atTag atChar slashes (tag ++ after) =
      atTag slashes tag ++ tag.flatMap atChar ++ scan atTag atChar 0 after := by
  obtain ⟨body, _, rfl, -, -, bare⟩ := tag?_eq_some_iff.mp found
  have openless : '[' ∉ body ++ [']'] := by
    simp only [List.mem_append, List.mem_singleton]
    rintro (member | same)
    · exact absurd (bare _ member) (by decide)
    · exact absurd same (by decide)
  have shape : '[' :: body ++ [']'] ++ after = '[' :: (body ++ [']'] ++ after) := by simp
  rw [shape] at found ⊢
  rw [scan, found, scan_append_of_openless openless, slashesAfter_append]
  simp [slashesBehind]

theorem tagsFrom_append_of_openless (openless : '[' ∉ s) (slashes : Nat) (t : List Char) :
    tagsFrom slashes (s ++ t) = tagsFrom (slashesAfter slashes s) t := by
  rw [tagsFrom, scan_append_of_openless openless, tagsFrom]
  simp

theorem tagsFrom_tag {after : List Char} (found : tag? (tag ++ after) = some tag) (slashes : Nat) :
    tagsFrom slashes (tag ++ after) =
      (if byOdd slashes then [] else [tag]) ++ tagsFrom 0 after := by
  rw [tagsFrom, scan_tag found, tagsFrom]
  simp

theorem tagsFrom_found {backslashes after : List Char} (all : ∀ c ∈ backslashes, c = '\\')
    (found : tag? (tag ++ after) = some tag) :
    tagsFrom 0 (backslashes ++ tag ++ after) =
      (if byOdd backslashes.length then [] else [tag]) ++ tagsFrom 0 after := by
  have openless : '[' ∉ backslashes := fun member => absurd (all _ member) (by decide)
  rw [List.append_assoc, tagsFrom_append_of_openless openless, slashesAfter_of_all all,
    tagsFrom_tag found, Nat.zero_add]

/-- **Tags are found place by place.** -/
theorem tags_eq (markup : String) : tags markup = (tagsFrom 0 markup.toList).map String.ofList := by
  have all (s : List Char) :
      ((tagPattern.findAll s).filter fun kept => !byOdd (kept.headD []).length).map
        (fun kept => (kept.drop 1).flatten) = tagsFrom 0 s := by
    induction s using tagPattern_induction with
    | nil => rfl
    | char c rest none ih =>
        rw [findAll, pieces_char none, tagsFrom, scan_char none]
        exact ih
    | found backslashes tag after all found ih =>
        have first : tagPattern.findAll (backslashes ++ tag ++ after) =
            [backslashes, tag] :: tagPattern.findAll after := by
          rw [findAll, pieces_found all found]
          rfl
        rw [first, tagsFrom_found all found, ← ih, List.filter_cons]
        cases odd : byOdd backslashes.length with
        | true => simp [odd]
        | false => simp [odd]
  rw [← all, List.map_map]
  rfl

/-- **Tags are escaped place by place.** -/
theorem escapePieces_pieces (s : List Char) :
    escapePieces (tagPattern.pieces s) = escapedFrom 0 s := by
  induction s using tagPattern_induction with
  | nil => rfl
  | char c rest none ih =>
      rw [pieces_char none, escapePieces, ih, escapedFrom, escapedFrom, scan_char none]
      rfl
  | found backslashes tag after all found ih =>
      have openless : '[' ∉ backslashes := fun member => absurd (all _ member) (by decide)
      rw [pieces_found all found, escapePieces, ih, escapedFrom, escapedFrom,
        List.append_assoc backslashes, scan_append_of_openless openless, slashesAfter_of_all all,
        scan_tag found, Nat.zero_add, List.replicate_succ', ← List.eq_replicate_of_mem all]
      simp

theorem tagsFrom_cons (slashes : Nat) (c : Char) (rest : List Char) :
    tagsFrom slashes (c :: rest) = (if byOdd slashes then [] else (tag? (c :: rest)).toList) ++
      tagsFrom (slashesBehind slashes c) rest := by
  rw [tagsFrom, scan, tagsFrom, List.append_nil]
  cases byOdd slashes <;> cases tag? (c :: rest) <;> rfl

/-- **The tags of a text are those of its parts**, if none runs from one into the other. -/
theorem tagsFrom_append (apart : Apart s t) (slashes : Nat) :
    tagsFrom slashes (s ++ t) =
      tagsFrom slashes s ++ tagsFrom (slashesAfter slashes s) t := by
  induction s generalizing slashes with
  | nil => rfl
  | cons c rest ih =>
      rw [List.cons_append, tagsFrom_cons, ← List.cons_append, apart.tag?_eq, ih apart.tail,
        ← List.append_assoc, ← tagsFrom_cons]
      rfl

end Places

section Escaping

theorem escapedFrom_cons (slashes : Nat) (c : Char) (rest : List Char) :
    escapedFrom slashes (c :: rest) =
      (if (tag? (c :: rest)).isSome then List.replicate (slashes + 1) '\\' else []) ++
        c :: escapedFrom (slashesBehind slashes c) rest := by
  rw [escapedFrom, scan, escapedFrom]
  cases tag? (c :: rest) with
  | none => rfl
  | some tag => simp

/-- Escaping puts in no brackets. -/
theorem firstBracket_escapedFrom (slashes : Nat) (s : List Char) :
    firstBracket (escapedFrom slashes s) = firstBracket s := by
  induction s generalizing slashes with
  | nil => rfl
  | cons c rest ih =>
      have plain : firstBracket (if (tag? (c :: rest)).isSome then
          List.replicate (slashes + 1) '\\' else []) = none := by
        refine firstBracket_of_bracketless fun d member => ?_
        split at member
        · rw [List.eq_of_mem_replicate member]
          rfl
        · cases member
      rw [escapedFrom_cons, firstBracket_append, plain, Option.none_or, ← List.singleton_append,
        firstBracket_append, ih, ← firstBracket_append, List.singleton_append]

/-- Escaping puts in nothing that can start a tag. -/
theorem startsTag_of_escapedFrom (starts : (escapedFrom slashes s).head?.any startsTag = true) :
    s.head?.any startsTag = true := by
  cases s with
  | nil => exact starts
  | cons c rest =>
      rw [escapedFrom_cons] at starts
      split at starts
      · exact absurd (show startsTag '\\' = true from starts) (by decide)
      · exact starts

theorem tag?_escapedFrom (tagless : tag? (c :: rest) = none) (slashes : Nat) :
    tag? (c :: escapedFrom slashes rest) = none := by
  by_cases opens : c = '['
  · subst opens
    rw [← Option.not_isSome_iff_eq_none, tag?_isSome] at tagless ⊢
    intro holds
    obtain ⟨starts, closes⟩ := (Bool.and_eq_true ..).mp holds
    rw [firstBracket_escapedFrom] at closes
    exact tagless ((Bool.and_eq_true ..).mpr ⟨startsTag_of_escapedFrom starts, closes⟩)
  · exact tag?_of_ne opens _

/-- Where there is a tag in a text, an odd number of backslashes stands before it once the text is
escaped. -/
theorem tagsFrom_escapedFrom (slashes : Nat) (s : List Char) :
    tagsFrom slashes (escapedFrom slashes s) = [] := by
  induction s generalizing slashes with
  | nil => rfl
  | cons c rest ih =>
      rw [escapedFrom_cons]
      cases found : tag? (c :: rest) with
      | none =>
          rw [if_neg (by simp), List.nil_append, tagsFrom_cons, tag?_escapedFrom found, ih]
          simp
      | some tag =>
          obtain ⟨body, _, shape, whole, -⟩ := tag?_eq_some_iff.mp found
          obtain rfl : c = '[' := by
            rw [shape] at whole
            exact (List.cons.inj whole).1
          -- Those before the tag are doubled, and one more is put before it.
          have odd : byOdd (slashes + (slashes + 1)) = true := by
            rw [byOdd, beq_iff_eq]
            omega
          have openless : '[' ∉ List.replicate (slashes + 1) '\\' := fun member =>
            absurd (List.eq_of_mem_replicate member) (by decide)
          rw [Option.isSome_some, if_pos rfl, tagsFrom_append_of_openless openless,
            slashesAfter_replicate, tagsFrom_cons, odd]
          exact ih _

theorem closeSlash_cases (s : List Char) : closeSlash s = s ∨ closeSlash s = s ++ ['\\'] := by
  unfold closeSlash
  split
  · exact Or.inl rfl
  · exact Or.inr rfl
  · exact Or.inl rfl

/-- **Escaped text has no tags.** -/
theorem tags_escape (text : String) : tags (escape text) = [] := by
  have none := tagsFrom_escapedFrom 0 text.toList
  rw [tags_eq, escape, String.toList_ofList, escapePieces_pieces]
  rcases closeSlash_cases (escapedFrom 0 text.toList) with same | closed
  · rw [same, none]
    rfl
  · rw [closed, tagsFrom_append (Or.inr (by decide)), none, List.nil_append,
      tagsFrom_cons, tag?_of_ne (by decide)]
    simp [tagsFrom, scan]

end Escaping

end Walkthrough.Markup
