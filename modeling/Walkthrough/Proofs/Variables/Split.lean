import Walkthrough.Proofs.Steps.Request
import Walkthrough.Proofs.Text.Preference

/-!
# Texts split at their tokens

A token is a name between double braces. Every text is a stretch of literal text and then tokens,
each with the literal text after it, such that no token begins inside of literal text; there is just
one way to split it like that (`Walkthrough.Variables.Split.exist`,
`Walkthrough.Variables.Split.unique`). Expanding the text blames the first name of a token that has
no value, and otherwise puts values in place of the tokens and keeps the literal text
(`Walkthrough.Play.expand_split`).
-/

namespace Walkthrough.Variables

open Text Text.Pattern

/-- Some word characters, and nothing else. -/
def IsName (name : List Char) : Prop :=
  name ≠ [] ∧ ∀ c ∈ name, isWord c = true

/-- A name between double braces. -/
def token (name : List Char) : List Char :=
  ['\x7b', '\x7b'] ++ name ++ ['\x7d', '\x7d']

/-- A text that begins with a token. -/
def BeginsToken (s : List Char) : Prop :=
  ∃ name rest, IsName name ∧ s = token name ++ rest

/-- No token begins inside of `literal` where `rest` follows it. -/
def IsLiteral (literal rest : List Char) : Prop :=
  ∀ front back, literal = front ++ back → back ≠ [] → ¬ BeginsToken (back ++ rest)

/-- A token with the literal text after it. -/
structure Placed where
  name : List Char
  literal : List Char
  isName : IsName name

/-- The characters of a token and of the literal text after it. -/
def Placed.chars (part : Placed) : List Char :=
  token part.name ++ part.literal

/-- A text split into literal text and tokens. -/
structure Split (s : List Char) where
  lead : List Char
  parts : List Placed
  covers : s = lead ++ parts.flatMap Placed.chars
  leads : IsLiteral lead (parts.flatMap Placed.chars)
  follows : ∀ before part after, parts = before ++ part :: after →
    IsLiteral part.literal (after.flatMap Placed.chars)

section Tokens

variable {name s rest : List Char}

theorem IsLiteral.nil : IsLiteral [] rest := by
  intro front back covers some
  exact absurd (List.append_eq_nil_iff.mp covers.symm).2 some

theorem IsLiteral.cons {c : Char} (plain : ¬ BeginsToken (c :: s ++ rest))
    (literal : IsLiteral s rest) : IsLiteral (c :: s) rest := by
  intro front back covers some
  cases front with
  | nil =>
      rw [List.nil_append] at covers
      rwa [← covers]
  | cons d front => exact literal front back (List.cons.inj covers).2 some

theorem IsLiteral.first {c : Char} (literal : IsLiteral (c :: s) rest) :
    ¬ BeginsToken (c :: s ++ rest) :=
  literal [] (c :: s) rfl (List.cons_ne_nil c s)

theorem IsLiteral.tail {c : Char} (literal : IsLiteral (c :: s) rest) : IsLiteral s rest := by
  intro front back covers some
  exact literal (c :: front) back (congrArg (c :: ·) covers) some

theorem preferred_exactly (text rest : List Char) : Preferred (exactly text) text rest [] := by
  induction text with
  | nil => exact .empty
  | cons c more ih =>
      have here : Preferred (one (· == c)) [c] (more ++ rest) [] := .one (beq_self_eq_true c)
      exact .seq here ih

theorem front?_token (isName : IsName name) (rest : List Char) :
    placeholder.front? (token name ++ rest) = some ([name], rest) := by
  -- A brace is no word character, so that the run of the name ends before it.
  have stops : ∀ c ∈ (['\x7d', '\x7d'] ++ rest).head?, isWord c = false := by
    intro c first
    cases first
    decide
  have closing : Preferred (all [exactly ['\x7d', '\x7d']]) ['\x7d', '\x7d'] rest [] :=
    .skip (t := []) (preferred_exactly _ _) .done
  have preferred : Preferred placeholder (['\x7b', '\x7b'] ++ (name ++ ['\x7d', '\x7d'])) rest
      [name] :=
    .skip (preferred_exactly _ _) (.take (preferred_oneOrMore isName.1 isName.2 stops) closing)
  have front := front?_of_preferred preferred
  rwa [← List.append_assoc] at front

theorem front?_eq_none (plain : ¬ BeginsToken s) : placeholder.front? s = none := by
  cases front : placeholder.front? s with
  | none => rfl
  | some found =>
      obtain ⟨kept, rest⟩ := found
      obtain ⟨taken, covers, fits⟩ := matches_of_front? front
      obtain ⟨name, some, word, rfl, -⟩ := matches_placeholder.mp fits
      exact absurd ⟨name, rest, ⟨some, word⟩, covers⟩ plain

theorem pieces_token (isName : IsName name) (rest : List Char) :
    placeholder.pieces (token name ++ rest) = .found [name] :: placeholder.pieces rest :=
  pieces_of_front? (List.cons_ne_nil _ _) (front?_token isName rest)

theorem pieces_literal (literal : IsLiteral s rest) :
    placeholder.pieces (s ++ rest) = s.map .char ++ placeholder.pieces rest := by
  induction s with
  | nil => rfl
  | cons c s ih =>
      have plain := front?_eq_none literal.first
      rw [List.cons_append] at plain ⊢
      rw [pieces, cut, plain, List.map_cons, List.cons_append, ← ih literal.tail]
      rfl

end Tokens

namespace Split

/-- The pieces of tokens and of the literal text after each. -/
def piecesOf (parts : List Placed) : List Piece :=
  parts.flatMap fun part => .found [part.name] :: part.literal.map .char

theorem pieces_chars {parts : List Placed}
    (follows : ∀ before part after, parts = before ++ part :: after →
      IsLiteral part.literal (after.flatMap Placed.chars)) :
    placeholder.pieces (parts.flatMap Placed.chars) = piecesOf parts := by
  induction parts with
  | nil => rfl
  | cons part parts ih =>
      have later := ih fun before other after covers =>
        follows (part :: before) other after (congrArg (part :: ·) covers)
      rw [List.flatMap_cons, Placed.chars, List.append_assoc, pieces_token part.isName,
        pieces_literal (follows [] part parts rfl), later]
      rfl

variable {s : List Char}

/-- A text is cut at the tokens that it is split at. -/
theorem pieces_eq (split : Split s) :
    placeholder.pieces s = split.lead.map .char ++ piecesOf split.parts := by
  conv_lhs => rw [split.covers]
  rw [pieces_literal split.leads, pieces_chars split.follows]

theorem eq_of_pieces {lead other : List Char} {parts others : List Placed}
    (same : lead.map Piece.char ++ piecesOf parts = other.map Piece.char ++ piecesOf others) :
    lead = other ∧ parts = others := by
  induction parts generalizing lead other others with
  | nil =>
      cases others with
      | nil =>
          rw [piecesOf, List.flatMap_nil, List.append_nil, List.append_nil] at same
          exact ⟨List.map_injective_iff.mpr (fun _ _ => Piece.char.inj) same, rfl⟩
      | cons part others =>
          have found : Piece.found [part.name] ∈ lead.map Piece.char ++ piecesOf [] := by
            rw [same]
            simp [piecesOf]
          simp [piecesOf] at found
  | cons part parts ih =>
      induction lead generalizing other with
      | nil =>
          cases other with
          | cons c other => cases same
          | nil =>
              cases others with
              | nil => cases same
              | cons placed others =>
                  obtain ⟨name, literal, isName⟩ := part
                  obtain ⟨otherName, otherLiteral, otherIsName⟩ := placed
                  obtain ⟨first, rest⟩ := List.cons.inj same
                  obtain ⟨rfl, rfl⟩ := ih rest
                  cases first
                  exact ⟨rfl, rfl⟩
      | cons c lead ihLead =>
          cases other with
          | nil =>
              cases others with
              | nil => cases same
              | cons placed others => cases same
          | cons d other =>
              obtain ⟨first, rest⟩ := List.cons.inj same
              obtain ⟨rfl, rfl⟩ := ihLead rest
              cases first
              exact ⟨rfl, rfl⟩

/-- There is one way at most to split a text. -/
theorem unique (first second : Split s) : first = second := by
  have same := first.pieces_eq.symm.trans second.pieces_eq
  obtain ⟨lead, parts⟩ := eq_of_pieces same
  cases first
  cases second
  cases lead
  cases parts
  rfl

/-- The split of a text with one more literal character before it. -/
def skip {c : Char} (split : Split s) (plain : ¬ BeginsToken (c :: s)) : Split (c :: s) where
  lead := c :: split.lead
  parts := split.parts
  covers := congrArg (c :: ·) split.covers
  leads := .cons (by rwa [List.cons_append, ← split.covers]) split.leads
  follows := split.follows

/-- The split of a text with a token before it. -/
def begin {name : List Char} (split : Split s) (isName : IsName name) :
    Split (token name ++ s) where
  lead := []
  parts := ⟨name, split.lead, isName⟩ :: split.parts
  covers := by
    rw [List.nil_append, List.flatMap_cons, Placed.chars, List.append_assoc, ← split.covers]
  leads := .nil
  follows := by
    intro before part after covers
    cases before with
    | nil =>
        cases covers
        exact split.leads
    | cons first before => exact split.follows before part after (List.cons.inj covers).2

/-- Every text can be split. -/
theorem exist (s : List Char) : Nonempty (Split s) := by
  -- By the length of the text, since a token is passed over as a whole.
  generalize bound : s.length = size
  induction size using Nat.strong_induction_on generalizing s with
  | _ size ih =>
      subst bound
      by_cases begins : BeginsToken s
      · obtain ⟨name, rest, isName, rfl⟩ := begins
        have shorter : rest.length < (token name ++ rest).length := by
          simp only [token, List.length_append, List.length_cons]
          omega
        obtain ⟨split⟩ := ih _ shorter rest rfl
        exact ⟨split.begin isName⟩
      · cases s with
        | nil => exact ⟨⟨[], [], rfl, .nil, by simp⟩⟩
        | cons c rest =>
            obtain ⟨split⟩ := ih rest.length (Nat.lt_succ_self _) rest rfl
            exact ⟨split.skip begins⟩

/-- The names of the tokens, from left to right. -/
def names (split : Split s) : List String :=
  split.parts.map fun part => String.ofList part.name

/-- The literal text with the texts of values in place of the tokens. -/
def filled (split : Split s) (vars : Variables) : String :=
  String.ofList (split.lead ++ split.parts.flatMap fun part =>
    (((vars.get? (String.ofList part.name)).map Json.display).getD "").toList ++ part.literal)

theorem placeholderNames_eq_names {text : String} (split : Split text.toList) :
    placeholderNames text = split.names := by
  have named (parts : List Placed) : (piecesOf parts).filterMap nameOf? =
      parts.map fun part => String.ofList part.name := by
    induction parts with
    | nil => rfl
    | cons part parts ih =>
        have literal : (part.literal.map Piece.char).filterMap nameOf? = [] := by
          simp [nameOf?]
        have named : nameOf? (.found [part.name]) = some (String.ofList part.name) := rfl
        rw [piecesOf, List.flatMap_cons, List.cons_append, List.filterMap_cons_some named,
          List.filterMap_append, literal, List.nil_append, ← piecesOf, ih, List.map_cons]
  have lead : (split.lead.map Piece.char).filterMap nameOf? = [] := by
    simp [nameOf?]
  rw [placeholderNames_eq, split.pieces_eq, List.filterMap_append, lead, List.nil_append, named,
    names]

theorem fill_literal (vars : Variables) (literal : List Char) (pieces : List Piece) :
    vars.fill (literal.map .char ++ pieces) = (vars.fill pieces).map (literal ++ ·) := by
  induction literal with
  | nil => cases filled : vars.fill pieces <;> simp [filled, Except.map]
  | cons c literal ih =>
      rw [List.map_cons, List.cons_append, fill, ih]
      cases vars.fill pieces with
      | error name => rfl
      | ok chars => rfl

theorem fill_piecesOf {vars : Variables} {parts : List Placed}
    (known : ∀ part ∈ parts, vars.has (String.ofList part.name) = true) :
    vars.fill (piecesOf parts) = .ok (parts.flatMap fun part =>
      (((vars.get? (String.ofList part.name)).map Json.display).getD "").toList ++
        part.literal) := by
  induction parts with
  | nil => rfl
  | cons part parts ih =>
      obtain ⟨here, others⟩ := List.forall_mem_cons.mp known
      obtain ⟨value, kept⟩ := Option.isSome_iff_exists.mp here
      rw [piecesOf, List.flatMap_cons, List.cons_append, fill, List.flatten_singleton, kept,
        ← piecesOf, fill_literal, ih others, List.flatMap_cons, kept]
      simp [Except.map]

/-- What expanding a text comes to: the first name of a token without a value, or the text with
values in place of its tokens. -/
theorem expand_eq {text : String} (split : Split text.toList) (vars : Variables) :
    vars.expand text =
      match split.names.find? fun name => !vars.has name with
      | some name => .error name
      | none => .ok (split.filled vars) := by
  cases missing : split.names.find? fun name => !vars.has name with
  | some name =>
      rw [← split.placeholderNames_eq_names] at missing
      exact expand_eq_error_iff.mpr missing
  | none =>
      have known : ∀ part ∈ split.parts, vars.has (String.ofList part.name) = true := by
        intro part member
        have present := List.find?_eq_none.mp missing _ (List.mem_map_of_mem member)
        simpa using present
      rw [expand, split.pieces_eq, fill_literal, fill_piecesOf known]
      rfl

end Split

end Walkthrough.Variables

namespace Walkthrough.Play

/-- **Placeholders are replaced once, from left to right.** A text is split in one way into literal
text and tokens, the ones that a check of the prompt finds. Expanding it in a session stops at the
first token whose name has no value, and otherwise gives the literal text with the texts of the
values between it, as they are; the variables stay. -/
theorem expand_split {σ : Type} (session : Session σ) (text : String) :
    ∃ split : Variables.Split text.toList, (∀ other, other = split) ∧
      Variables.placeholderNames text = split.names ∧
      (expand text session).1 =
        (match split.names.find? fun name => !session.vars.has name with
        | some name => .error (.step (.undefinedVariable name none) none)
        | none => .ok (split.filled session.vars)) ∧
      (expand text session).2.vars = session.vars := by
  obtain ⟨split⟩ := Variables.Split.exist text.toList
  refine ⟨split, fun other => other.unique split, split.placeholderNames_eq_names, ?_⟩
  have expanded := split.expand_eq session.vars
  cases missing : split.names.find? fun name => !session.vars.has name with
  | some name =>
      rw [missing] at expanded
      rw [expand_of_error expanded]
      exact ⟨rfl, rfl⟩
  | none =>
      rw [missing] at expanded
      obtain ⟨after, noted, ended⟩ := expand_of_ok expanded
      obtain ⟨lines, rfl⟩ := noted
      rw [ended]
      exact ⟨rfl, rfl⟩

-- A token begins as soon as it can, and what takes its place is not looked at again.
example : ({ entries := [("x", .text "\x7b\x7by\x7d\x7d")] } : Variables).expand
    "\x7b\x7b\x7bx\x7d\x7d\x7d" = .ok "\x7b\x7b\x7by\x7d\x7d\x7d" := by
  decide +kernel

end Walkthrough.Play
