import Walkthrough.Api.Capture
import Walkthrough.Json.Reading

/-!
# Names that are there once

In each object of a value that was read, every name is there once (`Walkthrough.Json.once_of_read`),
and so it is in what is captured of such a value.
-/

namespace Walkthrough

namespace Fields

variable {α : Type} {name : String} {value : α} {fields : List (String × α)}

theorem map_put :
    (put name value fields).map (·.1) =
      if name ∈ fields.map (·.1) then fields.map (·.1) else fields.map (·.1) ++ [name] := by
  induction fields with
  | nil => simp [put]
  | cons field rest ih =>
      by_cases same : field.1 = name
      · simp [put, same]
      · by_cases later : name ∈ rest.map (·.1)
        · simp only [put, same, if_false, List.map_cons, ih, later, if_true, List.mem_cons, or_true]
        · simp only [put, same, if_false, List.map_cons, ih, later, List.mem_cons, Ne.symm same,
            false_or, List.cons_append]

/-- Giving a name a value leaves every name with one value. -/
theorem nodup_put (once : (fields.map (·.1)).Nodup) :
    ((put name value fields).map (·.1)).Nodup := by
  rw [map_put]
  split
  · exact once
  · next missing =>
      refine List.nodup_append.mpr ⟨once, by simp, ?_⟩
      rintro other held _ listed rfl
      exact missing (List.mem_singleton.mp listed ▸ held)

theorem put_of_notMem (fresh : name ∉ fields.map (·.1)) :
    put name value fields = fields ++ [(name, value)] := by
  induction fields with
  | nil => rfl
  | cons field rest ih =>
      obtain ⟨key, old⟩ := field
      rw [List.map_cons, List.mem_cons, not_or] at fresh
      rw [put, if_neg (Ne.symm fresh.1), ih fresh.2, List.cons_append]

theorem eq_or_mem_of_mem_put {field : String × α} (among : field ∈ put name value fields) :
    field = (name, value) ∨ field ∈ fields := by
  induction fields with
  | nil => exact Or.inl (List.mem_singleton.mp among)
  | cons first rest ih =>
      obtain ⟨key, old⟩ := first
      rw [put] at among
      split at among
      · next same =>
          rcases List.mem_cons.mp among with here | later
          · exact Or.inl (here.trans (congrArg (·, value) same))
          · exact Or.inr (List.mem_cons_of_mem _ later)
      · rcases List.mem_cons.mp among with here | later
        · exact Or.inr (here ▸ List.mem_cons_self)
        · exact (ih later).imp id (List.mem_cons_of_mem _)

theorem mem_of_get? (found : get? name fields = some value) : (name, value) ∈ fields := by
  induction fields with
  | nil => cases found
  | cons field rest ih =>
      obtain ⟨key, old⟩ := field
      rw [get?] at found
      split at found
      · next same =>
          cases found
          exact same ▸ List.mem_cons_self
      · exact List.mem_cons_of_mem _ (ih found)

theorem get?_eq_none_iff :
    get? name fields = none ↔ name ∉ fields.map (·.1) := by
  induction fields with
  | nil => simp [get?]
  | cons field rest ih =>
      by_cases same : field.1 = name
      · simp [get?, same]
      · simp [get?, same, ih, Ne.symm same]

/-- Where every name is there once, its value is the one that stands with it. -/
theorem get?_eq_some_iff (once : (fields.map (·.1)).Nodup) :
    get? name fields = some value ↔ (name, value) ∈ fields := by
  refine ⟨mem_of_get?, fun among => ?_⟩
  induction fields with
  | nil => cases among
  | cons field rest ih =>
      obtain ⟨fresh, once⟩ := List.nodup_cons.mp once
      rcases List.mem_cons.mp among with rfl | later
      · exact if_pos rfl
      · have other : field.1 ≠ name := by
          intro same
          exact fresh (List.mem_map.mpr ⟨(name, value), later, same.symm⟩)
        exact (if_neg other).trans (ih once later)

theorem mem_put_iff (once : (fields.map (·.1)).Nodup) {other : String} {held : α} :
    (other, held) ∈ put name value fields ↔
      other = name ∧ held = value ∨ other ≠ name ∧ (other, held) ∈ fields := by
  rw [← get?_eq_some_iff (nodup_put once), get?_put, ← get?_eq_some_iff once]
  by_cases same : other = name
  · simp only [same, if_true, true_and, Option.some.injEq, ne_eq, not_true, false_and, or_false,
      eq_comm]
  · simp only [same, if_false, false_and, ne_eq, not_false_eq_true, true_and, false_or]

theorem map_erase :
    (erase name fields).map (·.1) = (fields.map (·.1)).filter fun other => other ≠ name := by
  rw [erase, List.filter_map]
  rfl

theorem mem_erase_iff {field : String × α} :
    field ∈ erase name fields ↔ field ∈ fields ∧ field.1 ≠ name := by
  rw [erase, List.mem_filter, decide_eq_true_iff]

end Fields

namespace Json

mutual

/-- A value in whose objects every name is there once. -/
def Once : Json → Prop
  | null => True
  | bool _ => True
  | number _ => True
  | text _ => True
  | list items => AreOnce items
  | object fields => (fields.map (·.1)).Nodup ∧ HaveOnce fields

/-- Items in whose objects every name is there once. -/
def AreOnce : List Json → Prop
  | [] => True
  | item :: rest => item.Once ∧ AreOnce rest

/-- Members in whose objects every name is there once. -/
def HaveOnce : List (String × Json) → Prop
  | [] => True
  | (_, value) :: rest => value.Once ∧ HaveOnce rest

end

theorem areOnce_iff {items : List Json} : AreOnce items ↔ ∀ item ∈ items, item.Once := by
  induction items with
  | nil => simp [AreOnce]
  | cons item rest ih => rw [AreOnce, List.forall_mem_cons, ih]

theorem haveOnce_iff {fields : List (String × Json)} :
    HaveOnce fields ↔ ∀ field ∈ fields, field.2.Once := by
  induction fields with
  | nil => simp [HaveOnce]
  | cons field rest ih => rw [HaveOnce, List.forall_mem_cons, ih]

/-- A member that is given a value with every name once keeps that so. -/
theorem Once.put {fields : List (String × Json)} {value : Json} (before : (object fields).Once)
    (name : String) (once : value.Once) :
    (object (Fields.put name value fields)).Once := by
  refine ⟨Fields.nodup_put before.1, haveOnce_iff.mpr ?_⟩
  intro field among
  rcases Fields.eq_or_mem_of_mem_put among with rfl | earlier
  · exact once
  · exact haveOnce_iff.mp before.2 field earlier

section Reading

/-- What a reader that ends like this gives, if it gives anything, has every name once. -/
def GivesOnce (ended : Except ReadFault (Json × List Char)) : Prop :=
  ∀ value rest, ended = .ok (value, rest) → value.Once

theorem givesOnce_error (fault : ReadFault) : GivesOnce (.error fault) :=
  fun _ _ ended => nomatch ended

theorem givesOnce_ok {value : Json} (once : value.Once) (rest : List Char) :
    GivesOnce (.ok (value, rest)) := by
  intro _ _ ended
  cases ended
  exact once

theorem givesOnce_wellFormed {α : Type} (build : α → Json) (once : ∀ a, (build a).Once)
    (found : Option (α × List Char)) :
    GivesOnce (wellFormed (found.map fun (a, rest) => (build a, rest))) := by
  cases found with
  | none => exact givesOnce_error _
  | some found => exact givesOnce_ok (once found.1) found.2

theorem once_of_readName {s : List Char} {found : Json × List Char}
    (read : readName s = some found) : found.1.Once := by
  obtain ⟨⟨name, value⟩, among, taken⟩ := List.exists_of_findSome?_eq_some read
  have plain : value.Once := by
    simp only [List.mem_cons, List.not_mem_nil, or_false, Prod.mk.injEq] at among
    rcases among with ⟨-, rfl⟩ | ⟨-, rfl⟩ | ⟨-, rfl⟩ | ⟨-, rfl⟩ | ⟨-, rfl⟩ | ⟨-, rfl⟩ <;> trivial
  dsimp only at taken
  split at taken
  · cases taken
    exact plain
  · cases taken

mutual

/-- A value that is read has every name once. -/
theorem readValue_once : (fuel room : Nat) → (s : List Char) → GivesOnce (readValue fuel room s)
  | 0, _, _ => givesOnce_error _
  | fuel + 1, room, s => by
    rw [readValue.eq_def]
    dsimp only
    split
    · exact givesOnce_wellFormed text (fun _ => trivial) _
    · next rest =>
        cases room with
        | zero => exact givesOnce_error _
        | succ room =>
            dsimp only
            split
            · exact givesOnce_ok (show (object []).Once from ⟨List.nodup_nil, trivial⟩) _
            · exact readFields_once fuel room [] _ ⟨List.nodup_nil, trivial⟩
    · next rest =>
        cases room with
        | zero => exact givesOnce_error _
        | succ room =>
            dsimp only
            split
            · exact givesOnce_ok (show (list []).Once from trivial) _
            · exact readItems_once fuel room [] _ trivial
    · split
      · next found read => exact givesOnce_ok (once_of_readName read) _
      · exact givesOnce_wellFormed number (fun _ => trivial) _

theorem readItems_once : (fuel room : Nat) → (items : List Json) → (s : List Char) →
    AreOnce items → GivesOnce (readItems fuel room items s)
  | 0, _, _, _, _ => givesOnce_error _
  | fuel + 1, room, items, s, before => by
    have first := readValue_once fuel room s
    rw [readItems.eq_def]
    dsimp only
    split
    · exact givesOnce_error _
    · next item rest read =>
        have once : AreOnce (item :: items) := ⟨first item rest read, before⟩
        split
        · exact readItems_once fuel room (item :: items) _ once
        · refine givesOnce_ok (show (list _).Once from areOnce_iff.mpr ?_) _
          intro item among
          exact areOnce_iff.mp once item (List.mem_reverse.mp among)
        · exact givesOnce_error _

theorem readFields_once : (fuel room : Nat) → (fields : List (String × Json)) →
    (s : List Char) → (object fields).Once → GivesOnce (readFields fuel room fields s)
  | 0, _, _, _, _ => givesOnce_error _
  | fuel + 1, room, fields, s, before => by
    rw [readFields.eq_def]
    dsimp only
    split
    · split
      · exact givesOnce_error _
      · next name rest _ =>
          split
          · next rest _ =>
              have first := readValue_once fuel room (skipSpace rest)
              split
              · exact givesOnce_error _
              · next value rest read =>
                  have once := before.put name (first value rest read)
                  split
                  · exact readFields_once fuel room _ _ once
                  · exact givesOnce_ok once _
                  · exact givesOnce_error _
          · exact givesOnce_error _
    · exact givesOnce_error _

end

/-- **Names are read once.** In each object of a value that was read, every name is there once. -/
theorem once_of_read {text : String} {value : Json} (given : read text = .ok value) :
    value.Once := by
  have once := readValue_once (text.toList.length + 1) maxDepth (skipSpace text.toList)
  rw [read] at given
  rcases found : readValue (text.toList.length + 1) maxDepth (skipSpace text.toList) with
    fault | ⟨first, rest⟩
  · rw [found] at given
    cases given
  · rw [found] at once given
    change (if (skipSpace rest).isEmpty = true then Except.ok first else
      .error ReadFault.malformed) = .ok value at given
    split at given
    · cases given
      exact once value rest rfl
    · cases given

end Reading

end Json

namespace Capture

theorem firstField_once {fields : List (String × Json)} {names : List String} {value : Json}
    (once : (Json.object fields).Once) (captured : firstField fields names = some value) :
    value.Once := by
  obtain ⟨name, -, found⟩ := List.exists_of_findSome?_eq_some captured
  obtain ⟨found, -⟩ := Option.filter_eq_some_iff.mp found
  exact Json.haveOnce_iff.mp once.2 _ (Fields.mem_of_get? found)

theorem ofMarkup_once {text name : String} {value : Json}
    (captured : ofMarkup text name = some value) : value.Once := by
  rw [ofMarkup] at captured
  split at captured
  · obtain ⟨content, -, rfl⟩ := Option.map_eq_some_iff.mp captured
    trivial
  · cases captured

theorem firstObject_once {items : List Json} {fields : List (String × Json)}
    (once : Json.AreOnce items) (found : firstObject items = some fields) :
    (Json.object fields).Once := by
  obtain ⟨item, among, found⟩ := List.exists_of_findSome?_eq_some found
  split at found
  · cases found
    exact Json.areOnce_iff.mp once _ among
  · cases found

/-- What is captured of an answer that has every name once has so, too. -/
theorem ofRead_once {body value : Json} {name : String} (once : body.Once)
    (captured : ofRead body name = some value) : value.Once := by
  unfold ofRead at captured
  split at captured
  · exact ofMarkup_once captured
  · exact firstField_once once captured
  · obtain ⟨fields, first, captured⟩ := Option.bind_eq_some_iff.mp captured
    exact firstField_once (firstObject_once once first) captured
  · cases captured

theorem ofCreated_once {body value : Json} {name : String} (once : body.Once)
    (captured : ofCreated body name = some value) : value.Once := by
  unfold ofCreated at captured
  split at captured
  · exact ofMarkup_once captured
  · next fields =>
      cases Option.some.inj captured
      cases first : firstField fields [name, "id"] with
      | none => exact once
      | some value => exact firstField_once once first
  · cases captured
    exact once

end Capture

end Walkthrough
