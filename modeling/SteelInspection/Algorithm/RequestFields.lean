import Mathlib.Data.List.Infix

/-! # The fields of an algorithm request

The algorithm core finds a field of its request by a search in the text: the first place that reads
as the quoted key, the next colon, and the value behind it.  That is the field of the request if
this colon is its own; otherwise a nested field of the same name is read instead.
-/

namespace SteelInspection.Algorithm

/-! ## The search -/

/-- What stands behind the first occurrence. -/
def after? (needle : List Char) : List Char → Option (List Char)
  | [] => none
  | ch :: rest =>
    if needle.isPrefixOf (ch :: rest) then some ((ch :: rest).drop needle.length)
    else after? needle rest

def quoted (key : List Char) : List Char := '"' :: key ++ ['"']

def isspace (ch : Char) : Bool := ch ∈ [' ', '\t', '\n', '\x0b', '\x0c', '\r']

def valueStartAfterKey (text key : List Char) : Option (List Char) := do
  let behind ← after? (quoted key) text
  let value ← after? [':'] behind
  return value.dropWhile isspace

def unescape : Char → Char
  | 'b' => '\x08'
  | 'f' => '\x0c'
  | 'n' => '\n'
  | 'r' => '\r'
  | 't' => '\t'
  | esc => esc

/-- From behind the opening quote on. -/
def parseJsonString : List Char → Except String (List Char)
  | '"' :: _ => .ok []
  | '\\' :: 'u' :: _ :: _ :: _ :: _ :: rest => ('?' :: ·) <$> parseJsonString rest
  | '\\' :: 'u' :: _ | [] => .error "unterminated JSON string"
  | '\\' :: esc :: rest => (unescape esc :: ·) <$> parseJsonString rest
  | ch :: rest => (ch :: ·) <$> parseJsonString rest

def extractString (text key fallback : List Char) : Except String (List Char) :=
  match valueStartAfterKey text key with
  | some ('"' :: rest) => parseJsonString rest
  | _ => .ok fallback

/-- What stands behind the bracket that matches the first character. -/
def matchingBracket (openCh closeCh : Char) (text : List Char) : Option (List Char) :=
  if text.head? = some openCh then loop 0 false false text else none
where loop (depth : Int) (inString escaped : Bool) : List Char → Option (List Char)
  | [] => none
  | ch :: rest =>
    if inString then loop depth (escaped || ch ≠ '"') (!escaped && ch = '\\') rest
    else if ch = '"' then loop depth true escaped rest
    else if ch = openCh then loop (depth + 1) false escaped rest
    else if ch = closeCh then
      if depth - 1 = 0 then some rest else loop (depth - 1) false escaped rest
    else loop depth false escaped rest

def extractObjectText (text key : List Char) : List Char :=
  match valueStartAfterKey text key with
  | some ('{' :: rest) =>
    match matchingBracket '{' '}' ('{' :: rest) with
    | some behind => ('{' :: rest).take (rest.length + 1 - behind.length)
    | none => []
  | _ => []

/-! ## Requests -/

/-- What stands between the quotes of a string with no unicode escapes, and what it means. -/
inductive Spells : List Char → List Char → Prop where
  | nil : Spells [] []
  | plain {ch : Char} {text meaning} (isPlain : ch ≠ '"' ∧ ch ≠ '\\') (more : Spells text meaning) :
      Spells (ch :: text) (ch :: meaning)
  | escape {esc : Char} {text meaning} (known : esc ∈ ['"', '\\', '/', 'b', 'f', 'n', 'r', 't'])
      (more : Spells text meaning) : Spells ('\\' :: esc :: text) (unescape esc :: meaning)

/-- Strings, braces that match and anything else: so is the text inside of every JSON object. -/
inductive Balanced : List Char → Prop where
  | nil : Balanced []
  | other {ch : Char} {rest} (plain : ch ≠ '"' ∧ ch ≠ '{' ∧ ch ≠ '}') (more : Balanced rest) :
      Balanced (ch :: rest)
  | string {text meaning rest} (spells : Spells text meaning) (more : Balanced rest) :
      Balanced ('"' :: text ++ '"' :: rest)
  | object {inner rest} (inside : Balanced inner) (more : Balanced rest) :
      Balanced ('{' :: inner ++ '}' :: rest)

/-- The text of a value, with the string or the object that it is. -/
inductive IsValue : List Char → Option (List Char) → Option (List Char) → Prop where
  | string {text meaning} (spells : Spells text meaning) :
      IsValue ('"' :: text ++ ['"']) (some meaning) none
  | object {inner} (balanced : Balanced inner) :
      IsValue ('{' :: inner ++ ['}']) none (some ('{' :: inner ++ ['}']))
  | other {ch : Char} {rest} (start : ch ≠ '"' ∧ ch ≠ '{' ∧ isspace ch = false) :
      IsValue (ch :: rest) none none

/-- A field as it is written: its lead is the brace or the comma in front of it. -/
structure Field where
  (lead name gap space value : List Char)
  (string? object? : Option (List Char))
  isValue : IsValue value string? object?
  blank : ∀ ch ∈ space, isspace ch = true

def Field.text (field : Field) : List Char :=
  field.lead ++ (quoted field.name ++ (field.gap ++ ':' :: (field.space ++ field.value)))

/-- Every JSON object without unicode escapes is written so. -/
structure Request where
  fields : List Field
  closing : List Char

namespace Request

def text (request : Request) : List Char := request.fields.flatMap Field.text ++ request.closing

def field? (request : Request) (key : List Char) : Option Field :=
  request.fields.find? (·.name = key)

/-- The field is read from the right place. -/
def Reads (request : Request) (key fallback : List Char) : Prop :=
  extractString request.text key fallback =
      .ok (((request.field? key).bind (·.string?)).getD fallback) ∧
    extractObjectText request.text key = ((request.field? key).bind (·.object?)).getD []

/-- The first colon behind the first place that reads as the quoted key is that of the field; if
there is no such field, neither a string nor an object stands behind that colon. -/
def ColonFirst (request : Request) (key : List Char) : Prop :=
  match request.field? key with
  | none => ∀ front between rest, request.text = front ++ (quoted key ++ (between ++ ':' :: rest)) →
      ¬quoted key <:+: front ++ '"' :: key → ':' ∉ between →
      (rest.dropWhile isspace).head? ∉ [some '"', some '{']
  | some field => ∃ before after front between, request.fields = before ++ field :: after ∧
      before.flatMap Field.text ++ (field.lead ++ (quoted key ++ field.gap)) =
        front ++ (quoted key ++ between) ∧
      ¬quoted key <:+: front ++ '"' :: key ∧ ':' ∉ between

end Request

/-! ## What is read -/

variable {needle text meaning inner rest key : List Char} {depth : Int}

/-- The place that is found is the first one. -/
theorem eq_of_after? (needle : List Char) {last : Char}
    (found : after? (needle ++ [last]) text = some rest) :
    ∃ front, text = front ++ (needle ++ [last] ++ rest) ∧ ¬needle ++ [last] <:+: front ++ needle := by
  induction text with
  | nil => cases found
  | cons ch text ih =>
    rw [after?] at found
    split at found
    next here =>
      obtain ⟨behind, parts⟩ := List.isPrefixOf_iff_prefix.mp here
      rw [← parts, List.drop_left] at found
      refine ⟨[], by rw [← parts, Option.some.inj found, List.nil_append], fun inside => ?_⟩
      have := inside.length_le
      rw [List.nil_append, List.length_append, List.length_singleton] at this
      omega
    next notHere =>
      obtain ⟨front, same, first⟩ := ih found
      refine ⟨ch :: front, by rw [same, List.cons_append], fun inside => ?_⟩
      rcases List.infix_cons_iff.mp inside with here | later
      · refine notHere (List.isPrefixOf_iff_prefix.mpr (here.trans ⟨last :: rest, ?_⟩))
        simp [same]
      · exact first later

theorem after?_append (needle : List Char) {last : Char} {front : List Char}
    (absent : ¬needle ++ [last] <:+: front ++ needle) :
    after? (needle ++ [last]) (front ++ (needle ++ [last] ++ rest)) = some rest := by
  induction front with
  | nil => cases needle <;> simp [after?]
  | cons ch front ih =>
    rw [List.cons_append, after?, if_neg, ih fun inside => absent (List.infix_cons inside)]
    intro found
    -- an occurrence here would end in front of the last character of the needle
    refine absent (List.prefix_of_prefix_length_le (List.isPrefixOf_iff_prefix.mp found)
      ⟨last :: rest, ?_⟩ ?_).isInfix <;> simp

theorem Spells.parsed (spells : Spells text meaning) :
    parseJsonString (text ++ '"' :: rest) = .ok meaning := by
  induction spells with
  | nil => simp [parseJsonString]
  | plain isPlain _ ih => simp [parseJsonString, isPlain, ih]
  | escape known _ ih =>
    simp only [List.mem_cons, List.not_mem_nil, or_false] at known
    rcases known with rfl | rfl | rfl | rfl | rfl | rfl | rfl | rfl <;> simp [parseJsonString, ih]

theorem Spells.skipped (spells : Spells text meaning) :
    matchingBracket.loop '{' '}' depth true false (text ++ '"' :: rest) =
      matchingBracket.loop '{' '}' depth false false rest := by
  induction spells with
  | nil => simp [matchingBracket.loop]
  | plain isPlain _ ih => simp [matchingBracket.loop, isPlain, ih]
  | escape _ _ ih => simp [matchingBracket.loop, ih]

theorem Balanced.skipped (balanced : Balanced inner) (inside : 0 < depth) :
    matchingBracket.loop '{' '}' depth false false (inner ++ rest) =
      matchingBracket.loop '{' '}' depth false false rest := by
  induction balanced generalizing depth rest with
  | nil => rfl
  | other plain _ ih => simp [matchingBracket.loop, plain, ih inside]
  | string spells _ ih => simp [matchingBracket.loop, spells.skipped, ih inside]
  | object _ _ inner more =>
    have deeper : 0 < depth + 1 := by omega
    have open_ : depth ≠ 0 := by omega
    simp [matchingBracket.loop, inner deeper, open_, more inside]

theorem valueStart_of_first {front between : List Char}
    (unseen : ¬quoted key <:+: front ++ '"' :: key) (noColon : ':' ∉ between) :
    valueStartAfterKey (front ++ (quoted key ++ (between ++ ':' :: rest))) key =
      some (rest.dropWhile isspace) := by
  have name : after? (quoted key) (front ++ (quoted key ++ (between ++ ':' :: rest))) =
      some (between ++ ':' :: rest) := after?_append ('"' :: key) unseen
  have colon : after? [':'] (between ++ ':' :: rest) = some rest :=
    after?_append [] fun inside => noColon (by simpa using inside.subset)
  simp [valueStartAfterKey, name, colon]

theorem first_of_valueStart {value : List Char} (found : valueStartAfterKey text key = some value) :
    ∃ front between rest, text = front ++ (quoted key ++ (between ++ ':' :: rest)) ∧
      ¬quoted key <:+: front ++ '"' :: key ∧ ':' ∉ between ∧ value = rest.dropWhile isspace := by
  obtain ⟨behind, name, rest, colon, start⟩ : ∃ behind, after? (quoted key) text = some behind ∧
      ∃ rest, after? [':'] behind = some rest ∧ some (rest.dropWhile isspace) = some value := by
    simpa only [valueStartAfterKey, Option.bind_eq_bind, Option.bind_eq_some_iff, Option.pure_def]
      using found
  obtain ⟨front, rfl, first⟩ := eq_of_after? ('"' :: key) name
  obtain ⟨between, rfl, noColon⟩ := eq_of_after? [] colon
  refine ⟨front, between, rest, rfl, first, fun inside => noColon ?_, (Option.some.inj start).symm⟩
  obtain ⟨more, less, parts⟩ := List.append_of_mem inside
  exact ⟨more, less, by simp [parts]⟩

/-- What is made of the place that was found. -/
theorem IsValue.read {value : List Char} {string? object? : Option (List Char)}
    (isValue : IsValue value string? object?) (rest : List Char)
    (start : valueStartAfterKey text key = some ((value ++ rest).dropWhile isspace))
    (fallback : List Char) : extractString text key fallback = .ok (string?.getD fallback) ∧
      extractObjectText text key = object?.getD [] := by
  unfold extractString extractObjectText
  rw [start]
  cases isValue with
  | string spells => simp [isspace, spells.parsed]
  | @object inner balanced =>
    have length : inner.length + (rest.length + 1) + 1 - rest.length = inner.length + 2 := by omega
    simp [isspace, matchingBracket, matchingBracket.loop, balanced.skipped, length,
      List.take_append]
  | other other =>
    obtain ⟨noQuote, noBrace, visible⟩ := other
    simp [visible, noQuote, noBrace]

/-- A field is read from the right place if the search comes to its colon. -/
theorem reads_of_colonFirst {request : Request} (first : request.ColonFirst key)
    (fallback : List Char) : request.Reads key fallback := by
  unfold Request.ColonFirst at first
  unfold Request.Reads
  split at first
  next absent =>
    unfold extractString extractObjectText
    rw [absent]
    cases found : valueStartAfterKey request.text key with
    | none => exact ⟨rfl, rfl⟩
    | some value =>
      obtain ⟨front, between, rest, text, unseen, noColon, rfl⟩ := first_of_valueStart found
      have other := first front between rest text unseen noColon
      cases start : rest.dropWhile isspace with
      | nil => exact ⟨rfl, rfl⟩
      | cons ch behind => grind
  next field found =>
    obtain ⟨before, after, front, between, fields, place, unseen, noColon⟩ := first
    have named : field.name = key := by simpa using List.find?_some found
    have text : request.text = front ++ (quoted key ++ (between ++ ':' :: (field.space ++
        (field.value ++ (after.flatMap Field.text ++ request.closing))))) := by
      rw [← List.append_assoc (quoted key), ← List.append_assoc front, ← place]
      simp [Request.text, fields, Field.text, named]
    rw [found]
    refine field.isValue.read (after.flatMap Field.text ++ request.closing) ?_ fallback
    rw [text, valueStart_of_first unseen noColon, List.dropWhile_append_of_pos field.blank]

theorem Spells.letter (ch : Char) (isPlain : ch ≠ '"' ∧ ch ≠ '\\') : Spells [ch] [ch] :=
  .plain isPlain .nil

/-- An object with a field of the same name stands in front. -/
def nested : Request where
  fields := [
    ⟨['{'], ['a'], [], [], _, _, _, .object (.string (.letter 'k' (by decide))
      (@Balanced.other ':' _ (by decide) (.string (.letter 'x' (by decide)) .nil))), nofun⟩,
    ⟨[','], ['k'], [], [], _, _, _, .string (.letter 'y' (by decide)), nofun⟩]
  closing := ['}']

theorem outer_reads : nested.ColonFirst ['a'] ∧ nested.Reads ['a'] [] := by
  have first : nested.ColonFirst ['a'] :=
    ⟨[], _, ['{'], [], rfl, rfl, by decide, nofun⟩
  exact ⟨first, reads_of_colonFirst first []⟩

/-- The same object alone. -/
def nestedOnly : Request := { nested with fields := nested.fields.take 1 }

theorem nested_read_first :
    (nested.text = "\x7b\"a\":\x7b\"k\":\"x\"\x7d,\"k\":\"y\"\x7d".toList ∧ ¬nested.Reads ['k'] []) ∧
    nestedOnly.text = "\x7b\"a\":\x7b\"k\":\"x\"\x7d\x7d".toList ∧ ¬nestedOnly.Reads ['k'] [] := by
  refine ⟨⟨rfl, fun reads => ?_⟩, rfl, fun reads => ?_⟩
  · have first := reads.1
    cases first
  · have first := reads.1
    cases first

end SteelInspection.Algorithm
