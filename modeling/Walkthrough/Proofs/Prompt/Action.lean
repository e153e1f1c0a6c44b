import Mathlib.Data.List.Infix
import Walkthrough.Prompt.Action

/-!
# The rule that decides on an action

A title has the action of the first rule that applies to it in small letters, and an unknown one if
none does (`Walkthrough.Action.ofTitle_first`). Small letters depend on what is around them only in
a sigma at the end of a word, which no word of a rule has. So a rule that applies to a title applies
whatever is put around it, and its action can only give way to that of a more binding rule.
-/

namespace Walkthrough

namespace Text

variable {s word : List Char}

/-- A text occurs in another if it is a stretch of it. -/
theorem occursIn_iff_isInfix : occursIn word s = true ↔ word <:+: s := by
  induction s with
  | nil => rw [occursIn, List.isEmpty_iff, List.infix_nil]
  | cons c rest ih =>
      rw [occursIn, Bool.or_eq_true, List.isPrefixOf_iff_prefix, ih, List.infix_cons_iff]

section Sigmas

/-- The form that a small sigma has inside of a word. -/
def medial (c : Char) : Char :=
  if c = 'ς' then 'σ' else c

theorem map_medial_lowerAfter (before s : List Char) :
    (lowerAfter before s).map medial = (lower s).map medial := by
  induction s generalizing before with
  | nil => rfl
  | cons c rest ih =>
      have step : lower (c :: rest) = lowerForm c ++ lower rest := rfl
      rw [lowerAfter, step, List.map_append, List.map_append, ih]
      split
      · next final =>
          obtain ⟨⟨rfl, -⟩, -⟩ : (c = 'Σ' ∧ _) ∧ _ := by simpa using final
          rfl
      · rfl

/-- Where a text without sigmas occurs is not affected by how sigmas are spelled. -/
theorem isInfix_map_medial (plain : ∀ c ∈ word, c ≠ 'σ' ∧ c ≠ 'ς') :
    word <:+: s.map medial ↔ word <:+: s := by
  have kept {c : Char} (other : medial c ≠ 'σ') : medial c = c := by
    rw [medial] at other ⊢
    split at other
    · exact absurd rfl other
    · next differs => rw [if_neg differs]
  constructor
  · rintro ⟨front, back, joined⟩
    obtain ⟨most, last, rfl, spelled, -⟩ := List.map_eq_append_iff.mp joined.symm
    obtain ⟨first, middle, rfl, -, rfl⟩ := List.map_eq_append_iff.mp spelled
    have same : middle.map medial = middle := by
      conv_rhs => rw [← List.map_id middle]
      exact List.map_congr_left fun c member => kept (plain _ (List.mem_map_of_mem member)).1
    rw [same]
    exact ⟨first, last, rfl⟩
  · intro occurs
    have same : word.map medial = word := by
      conv_rhs => rw [← List.map_id word]
      exact List.map_congr_left fun c member => if_neg (plain c member).2
    rw [← same]
    exact occurs.map medial

/-- A word without sigmas occurs in small letters alike whether sigmas are spelled or not. -/
theorem isInfix_lowerSpelled (plain : ∀ c ∈ word, c ≠ 'σ' ∧ c ≠ 'ς') :
    word <:+: lowerSpelled s ↔ word <:+: lower s := by
  rw [← isInfix_map_medial plain, lowerSpelled, map_medial_lowerAfter, isInfix_map_medial plain]

end Sigmas

end Text

namespace Action

/-- A rule applies to a text if all of its words occur in it, and one of its alternatives if it has
any. -/
structure Rule.Applies (rule : Rule) (text : List Char) : Prop where
  all : ∀ word ∈ rule.all, word.toList <:+: text
  any : rule.any = [] ∨ ∃ word ∈ rule.any, word.toList <:+: text

/-- The rank of an action: the position of its rule, and a place behind all rules if it has none. -/
def rank (action : Action) : Nat :=
  rules.findIdx fun rule => rule.action = action

section Fitting

variable {rule : Rule} {text more : List Char}

theorem Rule.fits_iff : rule.fits text = true ↔ rule.Applies text := by
  simp only [Rule.fits, Bool.and_eq_true, Bool.or_eq_true, List.all_eq_true, List.any_eq_true,
    Text.occursIn_iff_isInfix, List.isEmpty_iff]
  exact ⟨fun fits => ⟨fits.1, fits.2⟩, fun applies => ⟨applies.all, applies.any⟩⟩

/-- A rule that applies to a part of a text applies to the text. -/
theorem Rule.Applies.mono (applies : rule.Applies text) (part : text <:+: more) :
    rule.Applies more where
  all word member := (applies.all word member).trans part
  any := applies.any.imp_right (.imp fun _ => .imp_right (·.trans part))

/-- No word of a rule has a sigma in it. -/
theorem plain_of_mem_rules (member : rule ∈ rules) :
    ∀ word ∈ rule.all ++ rule.any, ∀ c ∈ word.toList, c ≠ 'σ' ∧ c ≠ 'ς' := by
  have plain : rules.all (fun rule => (rule.all ++ rule.any).all fun word =>
      word.toList.all fun c => c != 'σ' && c != 'ς') = true := by decide
  intro word among c inside
  have differs := List.all_eq_true.mp (List.all_eq_true.mp
    (List.all_eq_true.mp plain rule member) word among) c inside
  simpa using differs

/-- The rules apply alike whether sigmas are spelled or not. -/
theorem Rule.applies_lowerSpelled (member : rule ∈ rules) :
    rule.Applies (Text.lowerSpelled text) ↔ rule.fits (Text.lower text) = true := by
  have same {word : String} (among : word ∈ rule.all ++ rule.any) :
      word.toList <:+: Text.lowerSpelled text ↔ word.toList <:+: Text.lower text :=
    Text.isInfix_lowerSpelled (plain_of_mem_rules member word among)
  rw [Rule.fits_iff]
  constructor
  · rintro ⟨all, any⟩
    refine ⟨fun word among => (same (List.mem_append_left _ among)).mp (all word among),
      any.imp_right ?_⟩
    rintro ⟨word, among, occurs⟩
    exact ⟨word, among, (same (List.mem_append_right _ among)).mp occurs⟩
  · rintro ⟨all, any⟩
    refine ⟨fun word among => (same (List.mem_append_left _ among)).mpr (all word among),
      any.imp_right ?_⟩
    rintro ⟨word, among, occurs⟩
    exact ⟨word, among, (same (List.mem_append_right _ among)).mpr occurs⟩

end Fitting

section Ranks

variable {title : String}

/-- The actions of the rules are ranked as the rules are. -/
theorem ranks : rules.map (fun rule => rank rule.action) = List.range rules.length := by decide

theorem rank_unknown : rank unknown = rules.length := by decide

theorem rank_of_getElem {i : Nat} (small : i < rules.length) : rank rules[i].action = i := by
  have ranked := congrArg (·[i]?) ranks
  simpa [small] using ranked

/-- No rule leads to an unknown action, nor to the other name of creating. -/
theorem action_of_mem_rules {rule : Rule} (member : rule ∈ rules) :
    rule.action ≠ unknown ∧ rule.action ≠ apiPost := by
  have others : rules.all (fun rule =>
      rule.action != unknown && rule.action != apiPost) = true := by decide
  simpa using List.all_eq_true.mp others rule member

/-- Either a rule applies to a title and none before it, or no rule applies. -/
theorem ofTitle_cases (title : String) :
    (∃ earlier rule later, rules = earlier ++ rule :: later ∧
      rule.Applies (Text.lowerSpelled title.toList) ∧
      (∀ other ∈ earlier, ¬other.Applies (Text.lowerSpelled title.toList)) ∧
      ofTitle title = rule.action) ∨
    (∀ rule ∈ rules, ¬rule.Applies (Text.lowerSpelled title.toList)) ∧ ofTitle title = unknown := by
  rcases found : rules.find? (·.fits (Text.lower title.toList)) with _ | rule
  · refine .inr ⟨fun rule member => ?_, by rw [ofTitle, found]⟩
    rw [Rule.applies_lowerSpelled member]
    exact List.find?_eq_none.mp found rule member
  · obtain ⟨fits, earlier, later, place, refused⟩ := List.find?_eq_some_iff_append.mp found
    refine .inl ⟨earlier, rule, later, place, ?_, fun other member => ?_, by rw [ofTitle, found]⟩
    · exact (Rule.applies_lowerSpelled (by simp [place])).mpr fits
    · rw [Rule.applies_lowerSpelled (by simp [place, member])]
      simpa using refused other member

/-- The rank of a title's action is the position of the first rule that fits. -/
theorem rank_ofTitle (title : String) :
    rank (ofTitle title) = rules.findIdx (·.fits (Text.lower title.toList)) := by
  rcases found : rules.find? (·.fits (Text.lower title.toList)) with _ | rule
  · rw [ofTitle, found, rank_unknown, eq_comm, List.findIdx_eq_length]
    simpa using List.find?_eq_none.mp found
  · rw [ofTitle, found]
    obtain ⟨fits, i, small, rfl, earlier⟩ := List.find?_eq_some_iff_getElem.mp found
    rw [rank_of_getElem small, eq_comm, List.findIdx_eq small]
    exact ⟨fits, by simpa using earlier⟩

end Ranks

/-- **The first rule decides.** A title has the action of the first rule that applies to it in small
letters. It is unknown exactly if no rule applies, and never the other name of creating. The rules
rank the actions, the most binding first and the unknown one last, and whatever is put before or
behind a title leaves it its action or leads to one of a more binding rule. -/
theorem ofTitle_first (title : String) :
    ((∃ earlier rule later, rules = earlier ++ rule :: later ∧
        rule.Applies (Text.lowerSpelled title.toList) ∧
        (∀ other ∈ earlier, ¬other.Applies (Text.lowerSpelled title.toList)) ∧
        ofTitle title = rule.action) ∨
      (∀ rule ∈ rules, ¬rule.Applies (Text.lowerSpelled title.toList)) ∧
        ofTitle title = unknown) ∧
    (ofTitle title = unknown ↔
      ∀ rule ∈ rules, ¬rule.Applies (Text.lowerSpelled title.toList)) ∧
    ofTitle title ≠ apiPost ∧
    (rules.map (fun rule => rank rule.action) = List.range rules.length ∧
      rank unknown = rules.length) ∧
    ∀ before after, rank (ofTitle (before ++ title ++ after)) ≤ rank (ofTitle title) := by
  have first := ofTitle_cases title
  refine ⟨first, ⟨fun lost => ?_, fun refused => ?_⟩, fun post => ?_, ⟨ranks, rank_unknown⟩,
    fun before after => ?_⟩
  · rcases first with ⟨earlier, rule, later, place, -, -, decides⟩ | ⟨refused, -⟩
    · have known := (@action_of_mem_rules rule (by simp [place])).1
      exact absurd (decides.symm.trans lost) known
    · exact refused
  · rcases first with ⟨earlier, rule, later, place, applies, -⟩ | ⟨-, lost⟩
    · exact absurd applies (refused rule (by simp [place]))
    · exact lost
  · rcases first with ⟨earlier, rule, later, place, -, -, decides⟩ | ⟨-, lost⟩
    · have other := (@action_of_mem_rules rule (by simp [place])).2
      exact absurd (decides.symm.trans post) other
    · rw [lost] at post
      cases post
  · -- By the letters that are matched a title stays a part of what is put around it.
    rw [rank_ofTitle, rank_ofTitle]
    refine List.findIdx_le_findIdx fun rule _ fits => ?_
    rw [Rule.fits_iff] at fits ⊢
    refine fits.mono ⟨Text.lower before.toList, Text.lower after.toList, ?_⟩
    rw [String.toList_append, String.toList_append, Text.lower_append, Text.lower_append]

end Action

end Walkthrough
