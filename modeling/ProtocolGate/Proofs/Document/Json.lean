import ProtocolGate.Proofs.Document.Number

/-!
Reading JSON. What is read from a written document is the document itself, with each number that is
not finite replaced by `null`.
-/

namespace ProtocolGate.Document

namespace Json

inductive Value where
  | null
  | truth (value : Bool)
  | int (value : Int)
  | float (value : Float)
  | text (value : Text)
  | list (items : List Value)
  | object (fields : List (Text × Value))

def Numeral.value (number : Numeral) : Value :=
  if number.isDecimal then .float number.number
  else
    let magnitude : Int := Decimal.digitsValue number.whole
    .int (if number.negative then -magnitude else magnitude)

def unescape : Char → Option Char
  | '"' => some '"'
  | '\\' => some '\\'
  | '/' => some '/'
  | 'b' => some '\x08'
  | 'f' => some '\x0c'
  | 'n' => some '\n'
  | 'r' => some '\r'
  | 't' => some '\t'
  | _ => none

def hexDigit (c : Char) : Option Nat :=
  if c.isDigit then some (c.toNat - '0'.toNat)
  else if 'a' ≤ c ∧ c ≤ 'f' then some (c.toNat - 'a'.toNat + 10)
  else if 'A' ≤ c ∧ c ≤ 'F' then some (c.toNat - 'A'.toNat + 10)
  else none

def hexCharacter (digits : Text) : Option Char := do
  let values ← digits.mapM hexDigit
  let code := values.foldl (fun code value => 16 * code + value) 0
  if code.isValidChar then some (Char.ofNat code) else none

-- The opening quote has been read.
def readString : Text → Option (Text × Text)
  | [] => none
  | '"' :: rest => some ([], rest)
  | '\\' :: 'u' :: a :: b :: c :: d :: rest =>
    match hexCharacter [a, b, c, d] with
    | some character => (readString rest).map (Prod.map (character :: ·) id)
    | none => none
  | '\\' :: c :: rest =>
    match unescape c with
    | some character => (readString rest).map (Prod.map (character :: ·) id)
    | none => none
  | c :: rest =>
    if c.toNat < 0x20 ∨ c = '\\' then none
    else (readString rest).map (Prod.map (c :: ·) id)

def readWord : Text → Option (Value × Text)
  | 't' :: 'r' :: 'u' :: 'e' :: rest => some (.truth true, rest)
  | 'f' :: 'a' :: 'l' :: 's' :: 'e' :: rest => some (.truth false, rest)
  | 'n' :: 'u' :: 'l' :: 'l' :: rest => some (.null, rest)
  | _ => none

def next (text : Text) : Option (Char × Text) :=
  match text.dropWhile isBlank with
  | [] => none
  | c :: rest => some (c, rest)

mutual

/-- Reads a value; every character that is consumed is paid for. -/
def readValue : Nat → Text → Option (Value × Text)
  | 0, _ => none
  | fuel + 1, given => do
    let (c, rest) ← next given
    if c = '"' then
      let (content, rest) ← readString rest
      return (.text content, rest)
    else if c = '[' then
      let (first, behind) ← next rest
      if first = ']' then
        return (.list [], behind)
      let (item, rest) ← readValue fuel rest
      let (items, rest) ← readItems fuel rest
      return (.list (item :: items), rest)
    else if c = '\x7b' then
      let (first, behind) ← next rest
      if first = '\x7d' then
        return (.object [], behind)
      let (field, rest) ← readField fuel rest
      let (fields, rest) ← readFields fuel rest
      return (.object (field :: fields), rest)
    else if c = '-' ∨ c.isDigit then
      let (number, rest) ← readNumeral (c :: rest)
      return (number.value, rest)
    else
      readWord (c :: rest)

-- What is left of a list behind its first item.
def readItems : Nat → Text → Option (List Value × Text)
  | 0, _ => none
  | fuel + 1, given => do
    let (c, rest) ← next given
    if c = ']' then
      return ([], rest)
    else if c = ',' then
      let (item, rest) ← readValue fuel rest
      let (items, rest) ← readItems fuel rest
      return (item :: items, rest)
    else
      none

def readField : Nat → Text → Option ((Text × Value) × Text)
  | 0, _ => none
  | fuel + 1, given => do
    let (c, rest) ← next given
    if c = '"' then
      let (name, rest) ← readString rest
      let (c, rest) ← next rest
      if c = ':' then
        let (value, rest) ← readValue fuel rest
        return ((name, value), rest)
      else
        none
    else
      none

def readFields : Nat → Text → Option (List (Text × Value) × Text)
  | 0, _ => none
  | fuel + 1, given => do
    let (c, rest) ← next given
    if c = '\x7d' then
      return ([], rest)
    else if c = ',' then
      let (field, rest) ← readField fuel rest
      let (fields, rest) ← readFields fuel rest
      return (field :: fields, rest)
    else
      none

end

def read? (text : Text) : Option Value :=
  match readValue text.length text with
  | some (value, rest) => if (next rest).isNone then some value else none
  | none => none

end Json

mutual

/-- What a document says in JSON, which has no infinity and nothing that is not a number. -/
def jsonValue : Document → Json.Value
  | .truth value => .truth value
  | .int value => .int value
  | .float value => if value.isFinite then .float value else .null
  | .text value => .text value
  | .list items => .list (jsonItems items)
  | .object fields => .object (jsonFields fields)

def jsonItems : List Document → List Json.Value
  | [] => []
  | item :: rest => jsonValue item :: jsonItems rest

def jsonFields : List (Text × Document) → List (Text × Json.Value)
  | [] => []
  | (name, value) :: rest => (name, jsonValue value) :: jsonFields rest

end

namespace Json

theorem hexNumeral_control : ∀ code : Fin 32, ∃ a b c d, hexNumeral 4 code = [a, b, c, d] ∧
    hexCharacter [a, b, c, d] = some (Char.ofNat code) := by
  intro code
  have length : ∀ code : Fin 32, (hexNumeral 4 code).length = 4 := by decide +kernel
  have reads : ∀ code : Fin 32, hexCharacter (hexNumeral 4 code) = some (Char.ofNat code) := by
    decide +kernel
  obtain ⟨a, b, c, d, shape⟩ := List.length_eq_four.mp (length code)
  have read := reads code
  rw [shape] at read
  exact ⟨a, b, c, d, shape, read⟩

theorem readString_plain {c : Char} {rest : Text} (printable : ¬ c.toNat < 0x20)
    (quote : c ≠ '"') (backslash : c ≠ '\\') :
    readString (c :: rest) = (readString rest).map (Prod.map (c :: ·) id) := by
  rw [readString.eq_def]
  split
  · rename_i same
    contradiction
  · rename_i same
    exact absurd (List.cons.inj same).1 quote
  · rename_i same
    exact absurd (List.cons.inj same).1 backslash
  · rename_i same
    exact absurd (List.cons.inj same).1 backslash
  · rename_i same
    obtain ⟨rfl, rfl⟩ := List.cons.inj same
    exact if_neg (not_or.mpr ⟨printable, backslash⟩)

theorem readString_escape (c : Char) (rest : Text) :
    readString (escape c ++ rest) = (readString rest).map (Prod.map (c :: ·) id) := by
  unfold escape
  split
  · simp [readString, unescape]
  · simp [readString, unescape]
  · simp [readString, unescape]
  · simp [readString, unescape]
  · simp [readString, unescape]
  · simp [readString, unescape]
  · simp [readString, unescape]
  · rename_i quote backslash _ _ _ _ _
    split
    · rename_i control
      obtain ⟨w, x, y, z, shape, read⟩ := hexNumeral_control ⟨c.toNat, control⟩
      simp only at shape
      rw [shape]
      simp [readString, read]
    · rename_i printable
      exact readString_plain printable quote backslash

theorem readString_content (content rest : Text) :
    readString (content.flatMap escape ++ '"' :: rest) = some (content, rest) := by
  induction content with
  | nil => rfl
  | cons c content ih =>
      rw [List.flatMap_cons, List.append_assoc, readString_escape, ih]
      rfl

theorem next_cons {c : Char} (solid : isBlank c = false) (rest : Text) :
    next (c :: rest) = some (c, rest) := by
  rw [next, List.dropWhile_cons_of_neg (by simp [solid])]

theorem next_newLine (indent : Nat) (rest : Text) : next (newLine indent ++ rest) = next rest := by
  have blank : ∀ c ∈ newLine indent, isBlank c = true := by
    intro c member
    rcases List.mem_cons.mp member with rfl | space
    · rfl
    · rw [List.eq_of_mem_replicate space]
      rfl
  rw [next, next, List.dropWhile_append_of_pos blank]

theorem next_space (rest : Text) : next (' ' :: rest) = next rest := by
  rw [next, List.dropWhile_cons_of_pos rfl]
  rfl

theorem readValue_congr {left right : Text} (same : next left = next right) (fuel : Nat) :
    readValue fuel left = readValue fuel right := by
  cases fuel with
  | zero => rfl
  | succ fuel => simp only [readValue, same]

theorem readField_congr {left right : Text} (same : next left = next right) (fuel : Nat) :
    readField fuel left = readField fuel right := by
  cases fuel with
  | zero => rfl
  | succ fuel => simp only [readField, same]

theorem stops_cons {c : Char} {rest : Text} (digit : c.isDigit = false)
    (others : c ≠ '.' ∧ c ≠ 'e' ∧ c ≠ 'E') : Stops (c :: rest) := by
  intro first same
  obtain rfl : c = first := Option.some.inj same
  exact ⟨digit, others⟩

theorem stops_newLine (indent : Nat) (rest : Text) : Stops (newLine indent ++ rest) :=
  stops_cons rfl (by decide)

theorem stops_comma (rest : Text) : Stops (',' :: rest) :=
  stops_cons rfl (by decide)

theorem Numeral.Valid.start {number : Numeral} (valid : number.Valid) :
    ∃ c rest, number.written = c :: rest ∧ (c = '-' ∨ c.isDigit = true) := by
  obtain ⟨c, digits, shape⟩ := List.exists_cons_of_ne_nil valid.nonempty
  have digit := valid.wholeDigits c (by rw [shape]; exact List.mem_cons_self)
  unfold Numeral.written
  cases number.negative with
  | true => exact ⟨_, _, rfl, .inl rfl⟩
  | false =>
      rw [shape]
      exact ⟨_, _, rfl, .inr digit⟩

theorem Numeral.Valid.length_pos {number : Numeral} (valid : number.Valid) :
    0 < number.written.length := by
  obtain ⟨c, others, shape, _⟩ := valid.start
  rw [shape]
  exact Nat.succ_pos _

theorem numeral_start_apart {c : Char} (start : c = '-' ∨ c.isDigit = true) :
    (c ≠ ' ' ∧ c ≠ '\t' ∧ c ≠ '\n' ∧ c ≠ '\r') ∧ c ≠ '"' ∧ c ≠ '[' ∧ c ≠ ']' ∧ c ≠ '\x7b' := by
  refine ⟨⟨?_, ?_, ?_, ?_⟩, ?_, ?_, ?_, ?_⟩ <;>
    · rintro rfl
      revert start
      decide

theorem readValue_numeral {number : Numeral} (valid : number.Valid) {rest : Text}
    (stops : Stops rest) (fuel : Nat) :
    readValue (fuel + 1) (number.written ++ rest) = some (number.value, rest) := by
  have read := readNumeral_written valid stops
  obtain ⟨c, others, shape, start⟩ := valid.start
  rw [shape, List.cons_append] at read ⊢
  have apart := numeral_start_apart start
  have solid : isBlank c = false := by simp [isBlank, apart]
  simp [readValue, next_cons solid, apart, start, read]

theorem readValue_word {word : Text} {value : Value} {rest : Text} {c : Char} {others : Text}
    (shape : word = c :: others) (apart : isBlank c = false ∧ c ≠ '"' ∧ c ≠ '[' ∧ c ≠ '\x7b' ∧
      c ≠ '-' ∧ c.isDigit = false)
    (read : readWord (word ++ rest) = some (value, rest)) (fuel : Nat) :
    readValue (fuel + 1) (word ++ rest) = some (value, rest) := by
  rw [shape, List.cons_append] at read ⊢
  simp [readValue, next_cons apart.1, apart, read]

theorem exists_numeral_int (value : Int) :
    ∃ numeral : Numeral, numeral.Valid ∧ signedNumeral value = numeral.written ∧
      numeral.value = .int value := by
  refine ⟨{ negative := value < 0, whole := numeral value.natAbs }, ?_, ?_, ?_⟩
  · refine ⟨numeral_ne_nil _, ?_, isDigit_numeral, fun c none => nomatch none⟩
    intro zero
    by_cases nonzero : 0 < value.natAbs
    · exact absurd zero (head?_numeral nonzero)
    · have same : value.natAbs = 0 := by omega
      simp only [same]
      rfl
  · simp [signedNumeral, Numeral.written]
    split <;> rfl
  · simp only [Numeral.value, Numeral.isDecimal, digitsValue_numeral, bne_self_eq_false,
      Option.isSome_none, Bool.or_self, Bool.false_eq_true, if_false]
    congr 1
    by_cases negative : value < 0
    · rw [if_pos (decide_eq_true negative)]
      omega
    · rw [if_neg (by simpa using negative)]
      omega

theorem exists_fuel {size fuel : Nat} (enough : size ≤ fuel) (positive : 0 < size) :
    ∃ less, fuel = less + 1 :=
  ⟨fuel - 1, by omega⟩

theorem write_start (indent : Nat) (document : Document) :
    ∃ c rest, write indent document = c :: rest ∧ isBlank c = false ∧ c ≠ ']' := by
  have numeral {number : Numeral} (valid : number.Valid) :
      ∃ c rest, number.written = c :: rest ∧ isBlank c = false ∧ c ≠ ']' := by
    obtain ⟨c, others, shape, start⟩ := valid.start
    have apart := numeral_start_apart start
    exact ⟨c, others, shape, by simp [isBlank, apart], apart.2.2.2.1⟩
  cases document with
  | truth value => cases value <;> exact ⟨_, _, rfl, rfl, by decide⟩
  | int value =>
      obtain ⟨number, valid, shape, _⟩ := exists_numeral_int value
      rw [write, shape]
      exact numeral valid
  | float value =>
      rw [write]
      cases finite : value.isFinite with
      | true =>
          obtain ⟨number, valid, _, shape, _⟩ := exists_numeral finite
          rw [shape]
          exact numeral valid
      | false =>
          rw [render_infinite finite]
          exact ⟨_, _, rfl, rfl, by decide⟩
  | text value => exact ⟨_, _, rfl, rfl, by decide⟩
  | list items => cases items <;> exact ⟨_, _, rfl, rfl, by decide⟩
  | object fields =>
      cases fields with
      | nil => exact ⟨_, _, rfl, rfl, by decide⟩
      | cons field fields => exact ⟨_, _, rfl, rfl, by decide⟩

theorem write_length_pos (indent : Nat) (document : Document) :
    0 < (write indent document).length := by
  obtain ⟨c, rest, shape, _⟩ := write_start indent document
  rw [shape]
  exact Nat.succ_pos _

theorem stops_writeItems (indent outer : Nat) (items : List Document) (rest : Text) :
    Stops (writeItems indent items ++ newLine outer ++ rest) := by
  cases items with
  | nil =>
      rw [writeItems, List.nil_append]
      exact stops_newLine outer rest
  | cons item items => exact stops_comma _

theorem stops_writeFields (indent outer : Nat) (fields : List (Text × Document)) (rest : Text) :
    Stops (writeFields indent fields ++ newLine outer ++ rest) := by
  cases fields with
  | nil =>
      rw [writeFields, List.nil_append]
      exact stops_newLine outer rest
  | cons field fields =>
      obtain ⟨name, value⟩ := field
      exact stops_comma _

section Steps

variable {fuel : Nat} (indent : Nat) {written tail rest : Text}

theorem readItems_comma {item : Value} {items : List Value}
    (first : readValue fuel (written ++ tail) = some (item, tail))
    (others : readItems fuel tail = some (items, rest)) :
    readItems (fuel + 1) (',' :: newLine indent ++ written ++ tail) =
      some (item :: items, rest) := by
  have blanks := readValue_congr (next_newLine indent (written ++ tail)) fuel
  rw [List.cons_append, List.cons_append, List.append_assoc]
  simp [readItems, next_cons (show isBlank ',' = false from rfl), blanks, first, others]

theorem readValue_list {item : Value} {items : List Value} {c : Char}
    (start : written.head? = some c) (solid : isBlank c = false) (inside : c ≠ ']')
    (first : readValue fuel (written ++ tail) = some (item, tail))
    (others : readItems fuel tail = some (items, rest)) :
    readValue (fuel + 1) ('[' :: newLine indent ++ written ++ tail) =
      some (.list (item :: items), rest) := by
  have blanks := readValue_congr (next_newLine indent (written ++ tail)) fuel
  obtain ⟨more, shape⟩ := List.head?_eq_some_iff.mp start
  have peek : next (newLine indent ++ (written ++ tail)) = some (c, more ++ tail) := by
    rw [next_newLine, shape]
    exact next_cons solid _
  rw [List.cons_append, List.cons_append, List.append_assoc]
  simp [readValue, next_cons (show isBlank '[' = false from rfl), peek, inside, blanks, first,
    others]

theorem readField_written (name : Text) {value : Value}
    (read : readValue fuel (written ++ tail) = some (value, tail)) :
    readField (fuel + 1) (string name ++ [':', ' '] ++ written ++ tail) =
      some ((name, value), tail) := by
  have spaced := readValue_congr (next_space (written ++ tail)) fuel
  have shape : string name ++ [':', ' '] ++ written ++ tail =
      '"' :: (name.flatMap escape ++ '"' :: ':' :: ' ' :: (written ++ tail)) := by
    simp [string]
  rw [shape]
  simp [readField, next_cons (show isBlank '"' = false from rfl), readString_content,
    next_cons (show isBlank ':' = false from rfl), spaced, read]

theorem readFields_comma {field : Text × Value} {fields : List (Text × Value)}
    (first : readField fuel (written ++ tail) = some (field, tail))
    (others : readFields fuel tail = some (fields, rest)) :
    readFields (fuel + 1) (',' :: newLine indent ++ written ++ tail) =
      some (field :: fields, rest) := by
  have blanks := readField_congr (next_newLine indent (written ++ tail)) fuel
  rw [List.cons_append, List.cons_append, List.append_assoc]
  simp [readFields, next_cons (show isBlank ',' = false from rfl), blanks, first, others]

theorem readValue_object {field : Text × Value} {fields : List (Text × Value)}
    (start : written.head? = some '"')
    (first : readField fuel (written ++ tail) = some (field, tail))
    (others : readFields fuel tail = some (fields, rest)) :
    readValue (fuel + 1) ('\x7b' :: newLine indent ++ written ++ tail) =
      some (.object (field :: fields), rest) := by
  have blanks := readField_congr (next_newLine indent (written ++ tail)) fuel
  obtain ⟨more, shape⟩ := List.head?_eq_some_iff.mp start
  have peek : next (newLine indent ++ (written ++ tail)) = some ('"', more ++ tail) := by
    rw [next_newLine, shape]
    exact next_cons rfl _
  rw [List.cons_append, List.cons_append, List.append_assoc]
  simp [readValue, next_cons (show isBlank '\x7b' = false from rfl), peek, blanks, first, others]

end Steps

-- The induction follows the writer. Every call of a reader is paid for by at least one character
-- of what it reads, so the length of the text is fuel enough.
mutual

theorem readValue_write (indent : Nat) : ∀ (document : Document) (rest : Text) (fuel : Nat),
    Stops rest → (write indent document).length ≤ fuel →
      readValue fuel (write indent document ++ rest) = some (jsonValue document, rest)
  | .truth value, rest, fuel, stops, enough => by
      obtain ⟨less, rfl⟩ := exists_fuel enough (write_length_pos indent _)
      cases value with
      | true => exact readValue_word rfl (by decide) rfl less
      | false => exact readValue_word rfl (by decide) rfl less
  | .int value, rest, fuel, stops, enough => by
      obtain ⟨number, valid, shape, same⟩ := exists_numeral_int value
      rw [write, shape] at enough ⊢
      obtain ⟨less, rfl⟩ := exists_fuel enough valid.length_pos
      rw [readValue_numeral valid stops, same]
      rfl
  | .float value, rest, fuel, stops, enough => by
      rw [write] at enough ⊢
      rw [jsonValue]
      by_cases finite : value.isFinite = true
      · obtain ⟨number, valid, decimal, shape, same⟩ := exists_numeral finite
        rw [shape] at enough ⊢
        obtain ⟨less, rfl⟩ := exists_fuel enough valid.length_pos
        rw [readValue_numeral valid stops, Numeral.value, if_pos decimal, same, if_pos finite]
      · rw [render_infinite (by simpa using finite)] at enough ⊢
        obtain ⟨less, rfl⟩ := exists_fuel enough (by decide)
        rw [if_neg finite]
        exact readValue_word rfl (by decide) rfl less
  | .text value, rest, fuel, stops, enough => by
      rw [write, string] at enough ⊢
      obtain ⟨less, rfl⟩ := exists_fuel enough (by simp)
      have read := readString_content value rest
      simp [readValue, next_cons (show isBlank '"' = false from rfl), read, jsonValue]
  | .list [], rest, fuel, stops, enough => by
      obtain ⟨less, rfl⟩ := exists_fuel enough (write_length_pos indent _)
      rfl
  | .list (item :: items), rest, fuel, stops, enough => by
      obtain ⟨less, rfl⟩ := exists_fuel enough (write_length_pos indent _)
      obtain ⟨c, more, start, solid, inside⟩ := write_start (indent + 2) item
      have read := readValue_write (indent + 2) item _ less
        (stops_writeItems (indent + 2) indent items (']' :: rest))
      have others := readItems_write (indent + 2) indent items rest less
      rw [write] at enough ⊢
      simp only [List.length_append, List.length_cons] at enough
      have whole := readValue_list (indent + 2) (by rw [start]; rfl) solid inside
        (read (by omega)) (others (by omega))
      simpa only [List.append_assoc, List.cons_append, List.nil_append, jsonValue, jsonItems,
        jsonFields] using whole
  | .object [], rest, fuel, stops, enough => by
      obtain ⟨less, rfl⟩ := exists_fuel enough (write_length_pos indent _)
      rfl
  | .object ((name, value) :: fields), rest, fuel, stops, enough => by
      obtain ⟨less, rfl⟩ := exists_fuel enough (write_length_pos indent _)
      rw [write] at enough ⊢
      simp only [List.length_append, List.length_cons] at enough
      have quoted : 0 < (string name).length := Nat.succ_pos _
      obtain ⟨fewer, rfl⟩ : ∃ fewer, less = fewer + 1 := ⟨less - 1, by omega⟩
      have read := readValue_write (indent + 2) value _ fewer
        (stops_writeFields (indent + 2) indent fields ('\x7d' :: rest))
      have others := readFields_write (indent + 2) indent fields rest (fewer + 1)
      have whole := readValue_object (indent + 2) rfl (readField_written name (read (by omega)))
        (others (by omega))
      simpa only [List.append_assoc, List.cons_append, List.nil_append, jsonValue, jsonItems,
        jsonFields] using whole

theorem readItems_write (indent outer : Nat) : ∀ (items : List Document) (rest : Text) (fuel : Nat),
    (writeItems indent items).length < fuel →
      readItems fuel (writeItems indent items ++ newLine outer ++ ']' :: rest) =
        some (jsonItems items, rest)
  | [], rest, fuel, enough => by
      obtain ⟨less, rfl⟩ := exists_fuel enough (Nat.succ_pos _)
      simp [writeItems, readItems, next_newLine, next_cons (show isBlank ']' = false from rfl),
        jsonItems]
  | item :: items, rest, fuel, enough => by
      obtain ⟨less, rfl⟩ := exists_fuel enough (Nat.succ_pos _)
      have read := readValue_write indent item _ less
        (stops_writeItems indent outer items (']' :: rest))
      have others := readItems_write indent outer items rest less
      rw [writeItems] at enough ⊢
      simp only [List.length_append, List.length_cons] at enough
      have whole := readItems_comma indent (read (by omega)) (others (by omega))
      simpa only [List.append_assoc, List.cons_append, jsonItems] using whole

theorem readFields_write (indent outer : Nat) : ∀ (fields : List (Text × Document)) (rest : Text)
    (fuel : Nat), (writeFields indent fields).length < fuel →
      readFields fuel (writeFields indent fields ++ newLine outer ++ '\x7d' :: rest) =
        some (jsonFields fields, rest)
  | [], rest, fuel, enough => by
      obtain ⟨less, rfl⟩ := exists_fuel enough (Nat.succ_pos _)
      simp [writeFields, readFields, next_newLine, next_cons (show isBlank '\x7d' = false from rfl),
        jsonFields]
  | (name, value) :: fields, rest, fuel, enough => by
      obtain ⟨less, rfl⟩ := exists_fuel enough (Nat.succ_pos _)
      rw [writeFields] at enough ⊢
      simp only [List.length_append, List.length_cons] at enough
      have quoted : 0 < (string name).length := Nat.succ_pos _
      obtain ⟨fewer, rfl⟩ : ∃ fewer, less = fewer + 1 := ⟨less - 1, by omega⟩
      have read := readValue_write indent value _ fewer
        (stops_writeFields indent outer fields ('\x7d' :: rest))
      have others := readFields_write indent outer fields rest (fewer + 1)
      have whole := readFields_comma indent (readField_written name (read (by omega)))
        (others (by omega))
      simpa only [List.append_assoc, List.cons_append, List.nil_append, jsonValue, jsonItems,
        jsonFields] using whole

end

theorem read?_render (document : Document) :
    read? (render document) = some (jsonValue document) := by
  have stops : Stops [] := fun _ none => nomatch none
  have read := readValue_write 0 document [] (write 0 document).length stops le_rfl
  rw [List.append_nil] at read
  rw [read?, render, read]
  rfl

end Json

end ProtocolGate.Document
