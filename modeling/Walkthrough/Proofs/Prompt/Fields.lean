import Walkthrough.Proofs.Prompt.Key
import Walkthrough.Prompt.Details

/-!
# The fields that stand behind a key

The method, the address and the name and password to log in with are stated by a key and a value
behind it. Each is read from the first line that states it or that carries it over into the lines
that follow (`Walkthrough.Details.fields_eq_acrossLines`), so it is read from its own line as long
as no line ends in a key (`Walkthrough.Details.field?_eq_findSome?`).
-/

namespace Walkthrough

open Text Text.Pattern

namespace Details

/-- The key of a request's method. -/
def methodKey : Key where
  spellings := [⟨"HTTP".toList, ["Method:".toList]⟩]
  accepts := isWord
  solid _ := isBlank_of_isWord
  firsts := by decide +kernel
  words := by decide +kernel
  apart := by decide +kernel

/-- A key of one word, in one way or the other, whose value reaches up to a blank. -/
def solidKey (spellings : List (List Char))
    (words : ∀ word ∈ spellings, word ≠ [] ∧ isBlankless word = true)
    (apart : ∀ word ∈ spellings, ∀ other ∈ spellings, ∀ part ∈ word.tails,
      spelled? other part = none ∨ part = word ∧ other = word) : Key where
  spellings := spellings.map (⟨·, []⟩)
  accepts := isSolid
  solid c solid := by simpa [isSolid] using solid
  firsts := by simpa using words
  words := by simp
  apart := by simpa using apart

def endpointKey : Key :=
  solidKey ["Endpoint:".toList, "URL:".toList] (by decide +kernel) (by decide +kernel)

def usernameKey : Key :=
  solidKey ["Username:".toList] (by decide +kernel) (by decide +kernel)

def passwordKey : Key :=
  solidKey ["Password:".toList] (by decide +kernel) (by decide +kernel)

theorem isRead_method : methodKey.IsRead methodPattern :=
  Key.isRead_of_spelling methodKey _ rfl

theorem isRead_username : usernameKey.IsRead usernamePattern :=
  Key.isRead_of_spelling usernameKey _ rfl

theorem isRead_password : passwordKey.IsRead passwordPattern :=
  Key.isRead_of_spelling passwordKey _ rfl

theorem isRead_endpoint : endpointKey.IsRead endpointPattern := by
  have both := (Key.isRead_of_spellings endpointKey _ _ rfl).run
  -- The two words share their colon in the pattern.
  have colon (word s : List Char) := run_letters_append word [':']
    (all [many isBlank, keep (oneOrMore isSolid)]) (fun kept _ => some kept) [] s
  constructor
  intro s
  rw [← both s]
  change (either
    (seq (letters "Endpoint".toList) (seq (letters [':']) (all [many isBlank, _])))
    (seq (letters "URL".toList) (seq (letters [':']) (all [many isBlank, _])))).run _ [] s = _
  rw [Pattern.run, ← colon, ← colon]
  rfl

/-- The value of a field in lines: of the first of them that states it or that carries it over into
the lines that follow. -/
def acrossLines (own : String → Option String) (carried : String → List String → Option String) :
    List String → Option String
  | [] => none
  | [line] => own line
  | line :: next :: later =>
    (own line).or ((carried line (next :: later)).or (acrossLines own carried (next :: later)))

/-- Where no line carries the field over, the first line that states it counts. -/
theorem acrossLines_eq_findSome? {own : String → Option String}
    {carried : String → List String → Option String} {lines : List String}
    (whole : ∀ before line next later, lines = before ++ line :: next :: later →
      carried line (next :: later) = none) :
    acrossLines own carried lines = lines.findSome? own := by
  fun_induction acrossLines own carried lines with
  | case1 => rfl
  | case2 line =>
      rw [List.findSome?_cons, List.findSome?_nil]
      cases own line with
      | none => rfl
      | some value => rfl
  | case3 line next later ih =>
      have others := ih fun before other second rest same =>
        whole (line :: before) other second rest (by rw [same, List.cons_append])
      rw [whole [] line next later rfl, Option.none_or, others, List.findSome?_cons (a := line)]
      cases own line with
      | none => rfl
      | some value => rfl

theorem map_acrossLines (own : String → Option String)
    (carried : String → List String → Option String) (f : String → String) (lines : List String) :
    (acrossLines own carried lines).map f =
      acrossLines (fun line => (own line).map f) (fun line later => (carried line later).map f)
        lines := by
  fun_induction acrossLines own carried lines with
  | case1 => rfl
  | case2 line => rfl
  | case3 line next later ih => rw [Option.map_or, Option.map_or, ih, acrossLines]

/-- The value that a line takes from the lines that follow, where it ends with a key or with a part
of it. -/
def carried? (key : Key) (line : String) (later : List String) : Option String :=
  (leftmost (key.carry? ("\n".intercalate later).toList) line.toList).map fun value =>
    trimmed (String.ofList value)

theorem field?_intercalate {key : Key} {pattern : Pattern} (reads : key.IsRead pattern)
    {lines : List String} (ends : ∀ line ∈ lines, EndsSolid line.toList) :
    field? pattern ("\n".intercalate lines) =
      acrossLines (field? pattern) (carried? key) lines := by
  have field (text : String) : field? pattern text =
      (leftmost key.read? text.toList).map fun value => trimmed (String.ofList value) := by
    rw [field?, reads.keep?, Option.map_map]
    rfl
  fun_induction acrossLines (field? pattern) (carried? key) lines with
  | case1 =>
      rw [field, show ("\n".intercalate []).toList = [] from rfl, leftmost,
        Key.read?_eq_none (by simp), Option.map_none]
  | case2 line => rw [String.intercalate_singleton]
  | case3 line next later ih =>
      obtain ⟨here, others⟩ := List.forall_mem_cons.mp ends
      have joined : ("\n".intercalate (line :: next :: later)).toList =
          line.toList ++ '\n' :: ("\n".intercalate (next :: later)).toList := by
        rw [String.toList_intercalate, String.toList_intercalate, List.map_cons, List.map_cons,
          List.intercalate_cons_cons, List.append_assoc]
        rfl
      rw [← ih others, field, field, field, carried?, joined, Key.leftmost_append here,
        Option.map_or, Option.map_or]

/-- A line that ends with a key, or with a part of it from its front. -/
def EndsInKey (key : Key) (line : String) : Prop :=
  ∃ spelling ∈ key.spellings, ∃ back, back <:+ line.toList ∧ (spelling.left? back).isSome = true

/-- Where no line but the last one ends in the key, a field is read from its own line. -/
theorem field?_eq_findSome? {key : Key} {pattern : Pattern} (reads : key.IsRead pattern)
    {lines : List String} (ends : ∀ line ∈ lines, EndsSolid line.toList)
    (whole : ∀ before line next later, lines = before ++ line :: next :: later →
      ¬EndsInKey key line) :
    field? pattern ("\n".intercalate lines) = lines.findSome? (field? pattern) := by
  rw [field?_intercalate reads ends]
  refine acrossLines_eq_findSome? fun before line next later same => ?_
  refine Option.map_eq_none_iff.mpr (leftmost_eq_none fun back late => ?_)
  refine List.findSome?_eq_none_iff.mpr fun spelling among => ?_
  rw [Option.bind_eq_none_iff]
  intro left ended
  exact absurd ⟨spelling, among, back, late, by rw [ended]; rfl⟩ (whole before line next later same)

/-- **A field is read from the first line that states it or carries it over.** Lines in front of
others carry a field over if they end with its key, or with a part of it. -/
theorem fields_eq_acrossLines {lines : List String}
    (ends : ∀ line ∈ lines, EndsSolid line.toList) :
    (ofBlock ("\n".intercalate lines)).method =
        acrossLines (fun line => (ofBlock line).method)
          (fun line later => (carried? methodKey line later).map fun method =>
            String.ofList (upper method.toList)) lines ∧
      (ofBlock ("\n".intercalate lines)).endpoint =
        acrossLines (fun line => (ofBlock line).endpoint) (carried? endpointKey) lines ∧
      (ofBlock ("\n".intercalate lines)).username =
        acrossLines (fun line => (ofBlock line).username) (carried? usernameKey) lines ∧
      (ofBlock ("\n".intercalate lines)).password =
        acrossLines (fun line => (ofBlock line).password) (carried? passwordKey) lines := by
  refine ⟨?_, field?_intercalate isRead_endpoint ends, field?_intercalate isRead_username ends,
    field?_intercalate isRead_password ends⟩
  exact (congrArg _ (field?_intercalate isRead_method ends)).trans (map_acrossLines ..)

/-- Fields that stand on lines of their own. -/
theorem fields_eq_acrossLines_login :
    (∀ line ∈ ["HTTP Method: POST", "Endpoint: /login"], EndsSolid line.toList) ∧
      (ofBlock ("\n".intercalate ["HTTP Method: POST", "Endpoint: /login"])).endpoint =
        acrossLines (fun line => (ofBlock line).endpoint) (carried? endpointKey)
          ["HTTP Method: POST", "Endpoint: /login"] ∧
      acrossLines (fun line => (ofBlock line).endpoint) (carried? endpointKey)
        ["HTTP Method: POST", "Endpoint: /login"] = some "/login" :=
  have ending {line : String} {c : Char} (last : line.toList.getLast? = some c)
      (solid : isBlank c = false) : EndsSolid line.toList := by
    intro d same
    rwa [Option.mem_unique same last]
  have ends : ∀ line ∈ ["HTTP Method: POST", "Endpoint: /login"], EndsSolid line.toList :=
    List.forall_mem_cons.mpr ⟨@ending _ 'T' (by decide +kernel) (by decide),
      List.forall_mem_singleton.mpr (@ending _ 'n' (by decide +kernel) (by decide))⟩
  ⟨ends, (fields_eq_acrossLines ends).2.1, by decide +kernel⟩

/-- A key at the end of a line takes what the next line begins with, be it another key, and the
words of a key need not stand on one line. -/
theorem fields_carried :
    ((ofBlock "Username:\nPassword: demo").username = some "Password:" ∧
        (ofBlock "Username:").username = none ∧ (ofBlock "Password: demo").username = none) ∧
      ((ofBlock "HTTP\nMethod:\nGET").method = some "GET" ∧ (ofBlock "HTTP").method = none ∧
        (ofBlock "Method:").method = none ∧ (ofBlock "GET").method = none) := by
  decide +kernel

end Details

end Walkthrough
