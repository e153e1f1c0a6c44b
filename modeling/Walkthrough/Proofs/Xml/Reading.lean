import Walkthrough.Text.Lines
import Walkthrough.Xml.Basic

/-!
# Reading XML

A reader for documents of XML 1.0 that takes one character after the other: which characters and
names there may be, what references stand for, how elements nest, and what is the root. Comments,
instructions, character sections and document types are beyond it: it reads no document with them.
-/

namespace Walkthrough.Xml

/-- Whether a code is that of a character that may stand in a document. -/
def isLegal (code : Nat) : Bool :=
  code == 0x9 || code == 0xA || code == 0xD || (0x20 ≤ code && code < 0xD800) ||
    (0xE000 ≤ code && code < 0xFFFE) || (0x10000 ≤ code && code < 0x110000)

/-- Whether a character is white space of the markup. -/
def isSpace (c : Char) : Bool :=
  c == ' ' || c == '\t' || c == '\n' || c == '\r'

/-- The ranges of codes that a name may begin with. -/
def nameStarts : List (Nat × Nat) :=
  [(0x3A, 0x3A), (0x41, 0x5A), (0x5F, 0x5F), (0x61, 0x7A), (0xC0, 0xD6), (0xD8, 0xF6),
    (0xF8, 0x2FF), (0x370, 0x37D), (0x37F, 0x1FFF), (0x200C, 0x200D), (0x2070, 0x218F),
    (0x2C00, 0x2FEF), (0x3001, 0xD7FF), (0xF900, 0xFDCF), (0xFDF0, 0xFFFD), (0x10000, 0xEFFFF)]

/-- The ranges of codes that a name may go on with besides. -/
def nameOthers : List (Nat × Nat) :=
  [(0x2D, 0x2E), (0x30, 0x39), (0xB7, 0xB7), (0x300, 0x36F), (0x203F, 0x2040)]

/-- Whether a character may begin a name. -/
def isNameStart (c : Char) : Bool :=
  nameStarts.any fun range => range.1 ≤ c.toNat && c.toNat ≤ range.2

/-- Whether a character may stand in a name. -/
def isNameChar (c : Char) : Bool :=
  (nameStarts ++ nameOthers).any fun range => range.1 ≤ c.toNat && c.toNat ≤ range.2

/-- The value of a digit, if it is one. -/
def digit? (c : Char) : Option Nat :=
  if '0' ≤ c && c ≤ '9' then some (c.toNat - '0'.toNat)
  else if 'a' ≤ c && c ≤ 'f' then some (c.toNat - 'a'.toNat + 10)
  else if 'A' ≤ c && c ≤ 'F' then some (c.toNat - 'A'.toNat + 10)
  else none

/-- The number of which digits in a base follow those of `before`. -/
def number? (base before : Nat) : List Char → Option Nat
  | [] => some before
  | c :: rest => (digit? c).bind fun digit =>
    if digit < base then number? base (base * before + digit) rest else none

/-- The character of a number in digits, which has to be there and legal. -/
def numbered? (base : Nat) (digits : List Char) : Option Char :=
  if digits.isEmpty then none
  else (number? base 0 digits).bind fun code =>
    if isLegal code then some (Char.ofNat code) else none

/-- The character that a reference stands for. Without a document type only five have names. -/
def referred? : List Char → Option Char
  | ['a', 'm', 'p'] => some '&'
  | ['l', 't'] => some '<'
  | ['g', 't'] => some '>'
  | ['q', 'u', 'o', 't'] => some '"'
  | ['a', 'p', 'o', 's'] => some '\''
  | '#' :: 'x' :: digits => numbered? 16 digits
  | '#' :: digits => numbered? 10 digits
  | _ => none

/-- Characters with what references stand for in their place; `reference` is what stands behind an
ampersand so far, the last character first. -/
def resolved? : (reference : Option (List Char)) → List Char → Option (List Char)
  | none, [] => some []
  | some _, [] => none
  | none, c :: rest =>
    if c = '&' then resolved? (some []) rest
    else if isLegal c.toNat then (resolved? none rest).map (c :: ·) else none
  | some name, c :: rest =>
    if c = ';' then (referred? name.reverse).bind fun d => (resolved? none rest).map (d :: ·)
    else resolved? (some (c :: name)) rest

/-- What characters between tags stand for. -/
def content? (raw : List Char) : Option (List Char) :=
  if Text.occursIn "]]>".toList raw then none else resolved? none (Text.plainBreaks raw)

/-- What the characters of an attribute stand for. Its white space is all the same. -/
def value? (raw : List Char) : Option (List Char) :=
  if raw.contains '<' then none
  else resolved? none ((Text.plainBreaks raw).map fun c => if isSpace c then ' ' else c)

/-- What is read of a document: an element with attributes and content, or a text. -/
inductive Node where
  | element (name : String) (attributes : List (String × String)) (content : List Node)
  | text (content : String)

/-- The name of an element and its attributes so far. -/
structure Head where
  name : String
  attributes : List (String × String) := []

/-- Where in a document a reader is. What is not finished has its last character first. -/
inductive Place where
  | outside
  | text (raw : List Char)
  | opening
  | startName (name : List Char)
  | tag (head : Head) (parted : Bool)
  | label (head : Head) (name : List Char)
  | equals (head : Head) (label : String)
  | quote (head : Head) (label : String)
  | value (head : Head) (label : String) (quote : Char) (raw : List Char)
  | emptied (head : Head)
  | endName (name : List Char)
  | ended (name : String)

/-- A reader: its place, the elements that it is in, the innermost first and their content reversed,
and the root once that is closed. -/
structure Reader where
  place : Place
  opened : List (Head × List Node)
  root : Option Node

namespace Reader

/-- The reader at another place. -/
def goTo (reader : Reader) (place : Place) : Reader :=
  { reader with place }

/-- The reader in a further element. -/
def enter (reader : Reader) (head : Head) : Reader :=
  ⟨.text [], (head, []) :: reader.opened, reader.root⟩

/-- The reader behind an element. -/
def complete (reader : Reader) (node : Node) : Reader :=
  match reader.opened with
  | [] => ⟨.outside, [], some node⟩
  | (head, content) :: outer => ⟨.text [], (head, node :: content) :: outer, reader.root⟩

/-- The reader behind the innermost element, which has to be of a name. -/
def leave? (reader : Reader) (name : String) : Option Reader :=
  match reader.opened with
  | [] => none
  | (head, content) :: outer =>
    if head.name = name then
      some ({ reader with opened := outer }.complete
        (.element head.name head.attributes content.reverse))
    else none

/-- The reader with what stands between two tags. -/
def withText? (reader : Reader) (raw : List Char) : Option Reader :=
  if raw.isEmpty then some reader
  else match reader.opened with
    | [] => none
    | (head, content) :: outer => (content? raw.reverse).map fun chars =>
      { reader with opened := (head, .text (String.ofList chars) :: content) :: outer }

/-- A step within a start tag; `parted` says whether white space stands before. -/
def inTag (reader : Reader) (head : Head) (parted : Bool) (c : Char) : Option Reader :=
  if isSpace c then some (reader.goTo (.tag head true))
  else if c = '>' then some (reader.enter head)
  else if c = '/' then some (reader.goTo (.emptied head))
  else if parted && isNameStart c then some (reader.goTo (.label head [c]))
  else none

/-- A step behind the name of an attribute. -/
def afterAttribute (reader : Reader) (head : Head) (label : String) (c : Char) :
    Option Reader :=
  if isSpace c then some (reader.goTo (.equals head label))
  else if c = '=' then some (reader.goTo (.quote head label))
  else none

/-- A step at the end of an attribute, which may stand only once. -/
def afterValue (reader : Reader) (head : Head) (label : String) (raw : List Char) :
    Option Reader :=
  if head.attributes.any fun other => other.1 = label then none
  else (value? raw).map fun chars => reader.goTo
    (.tag { head with attributes := head.attributes ++ [(label, String.ofList chars)] } false)

/-- A step behind the name in an end tag. -/
def afterEndName (reader : Reader) (name : String) (c : Char) : Option Reader :=
  if isSpace c then some (reader.goTo (.ended name))
  else if c = '>' then reader.leave? name
  else none

/-- What a reader does with a character, if it may stand there. -/
def step (reader : Reader) (c : Char) : Option Reader :=
  match reader.place with
  | .outside =>
    if isSpace c then some reader else if c = '<' then some (reader.goTo .opening) else none
  | .text raw =>
    if c = '<' then (reader.withText? raw).map fun next => next.goTo .opening
    else some (reader.goTo (.text (c :: raw)))
  | .opening =>
    if c = '/' then some (reader.goTo (.endName []))
    else if isNameStart c && reader.root.isNone then some (reader.goTo (.startName [c]))
    else none
  | .startName name =>
    if isNameChar c then some (reader.goTo (.startName (c :: name)))
    else reader.inTag { name := String.ofList name.reverse } false c
  | .tag head parted => reader.inTag head parted c
  | .label head name =>
    if isNameChar c then some (reader.goTo (.label head (c :: name)))
    else reader.afterAttribute head (String.ofList name.reverse) c
  | .equals head label => reader.afterAttribute head label c
  | .quote head label =>
    if isSpace c then some reader
    else if c = '"' || c = '\'' then some (reader.goTo (.value head label c []))
    else none
  | .value head label quote raw =>
    if c = quote then reader.afterValue head label raw.reverse
    else some (reader.goTo (.value head label quote (c :: raw)))
  | .emptied head =>
    if c = '>' then some (reader.complete (.element head.name head.attributes [])) else none
  | .endName name =>
    if name.isEmpty then
      if isNameStart c then some (reader.goTo (.endName [c])) else none
    else if isNameChar c then some (reader.goTo (.endName (c :: name)))
    else reader.afterEndName (String.ofList name.reverse) c
  | .ended name => reader.afterEndName name c

/-- What a reader does with characters one after the other. -/
def read (reader : Reader) : List Char → Option Reader
  | [] => some reader
  | c :: rest => (reader.step c).bind fun next => next.read rest

/-- The root, if all of it is closed. -/
def root? (reader : Reader) : Option Node :=
  match reader.place with
  | .outside => reader.root
  | _ => none

end Reader

/-- The root of a document without a declaration. -/
def body? (chars : List Char) : Option Node :=
  (Reader.read ⟨.outside, [], none⟩ chars).bind Reader.root?

/-- The characters in a declaration and those behind it. -/
def declared? : List Char → Option (List Char × List Char)
  | [] => none
  | '?' :: '>' :: rest => some ([], rest)
  | c :: rest => (declared? rest).map fun parts => (c :: parts.1, parts.2)

/-- Whether attributes declare a document of XML 1.0 in UTF-8. -/
def declares (attributes : List (String × String)) : Bool :=
  match attributes with
  | [] => false
  | version :: others =>
    let encoding := others.head?.filter fun other => other.1 = "encoding"
    let rest := if encoding.isSome then others.tail else others
    version = ("version", "1.0") &&
      encoding.all (fun other => other.2 = "utf-8" || other.2 = "UTF-8") &&
      (rest = [] || rest = [("standalone", "yes")] || rest = [("standalone", "no")])

/-- The root of a document. A declaration reads like the attributes of an element. -/
def root? (chars : List Char) : Option Node :=
  if "<?xml".toList.isPrefixOf chars then do
    let (inside, rest) ← declared? (chars.drop 5)
    match body? ("<xml".toList ++ inside ++ "/>".toList) with
    | some (.element name attributes []) =>
      if name = "xml" && declares attributes && !inside.contains '&' then body? rest else none
    | _ => none
  else body? chars

namespace Reader

/-- Readers that collect characters one by one have them all in the end. -/
theorem read_collect (collecting : List Char → Reader) {chars : List Char}
    (collects : ∀ c ∈ chars, ∀ before, (collecting before).step c = some (collecting (c :: before)))
    (before rest : List Char) :
    (collecting before).read (chars ++ rest) =
      (collecting (chars.reverse ++ before)).read rest := by
  induction chars generalizing before with
  | nil => rfl
  | cons c more ih =>
      have later := ih (fun d among => collects d (List.mem_cons_of_mem _ among)) (c :: before)
      rw [List.cons_append, read, collects c List.mem_cons_self, Option.bind_some, later]
      simp

end Reader

end Walkthrough.Xml
