import Provisioning.Json
import Provisioning.Proofs.Text.Digits

/-! # Reading JSON

A reader of JSON texts whose numbers are natural. It knows more than what is written: blanks between
the tokens, every escape that a quoted text may hold, and two of them for one character. What it
knows nothing of is how values are written, and it tells a text from what is none: a line break or
another control character inside quotes, a zero in front of a number, anything behind the value.
A reader that repeats itself has a bound on how often, for which the length of its text is enough.

What is written of a value is read back as this value (`read?_chars`), and it is on one line
(`lineFeed_notMem_chars`).
-/

namespace Provisioning.Json

/-- What reads something at the beginning of a text, and leaves what stands behind it. -/
abbrev Reader (α : Type) := List Char → Option (α × List Char)

/-! ## The reader -/

def isBlank (c : Char) : Bool := c = ' ' || c = '\t' || c = '\n' || c = '\r'

def skipBlank (chars : List Char) : List Char := chars.dropWhile isBlank

/-- The number that four base-sixteen digits spell. -/
def readUnit? : Reader Nat
  | a :: b :: c :: d :: rest => (Text.readDigits? 16 [a, b, c, d]).map (·, rest)
  | _ => none

/-- The character of a number, or of two where a first one of this range calls for a second. -/
def readCode? (chars : List Char) : Option (Char × List Char) := do
  let (high, rest) ← readUnit? chars
  if high < 0xD800 ∨ 0xE000 ≤ high then return (Char.ofNat high, rest)
  else match rest with
    | '\\' :: 'u' :: rest =>
      let (low, rest) ← readUnit? rest
      if high < 0xDC00 ∧ 0xDC00 ≤ low ∧ low < 0xE000 then
        return (Char.ofNat (0x10000 + 0x400 * (high - 0xD800) + (low - 0xDC00)), rest)
      else none
    | _ => none

/-- What may stand behind a backslash, `u` apart, and what it stands for. -/
def escapes : List (Char × Char) :=
  [('"', '"'), ('\\', '\\'), ('/', '/'), ('b', '\x08'), ('f', '\x0c'), ('n', '\x0a'), ('r', '\x0d'),
    ('t', '\x09')]

/-- One character inside the quotes. -/
def readChar? : Reader Char
  | [] => none
  | '\\' :: 'u' :: rest => readCode? rest
  | '\\' :: letter :: rest => (escapes.lookup letter).map (·, rest)
  | c :: rest => if c = '\\' ∨ c = '"' ∨ c.toNat < 32 then none else some (c, rest)

/-- What stands in front of the closing quote. -/
def readQuoted? : Nat → Reader (List Char)
  | 0, _ => none
  | bound + 1, chars =>
    if chars.head? = some '"' then some ([], chars.tail)
    else do
      let (c, rest) ← readChar? chars
      let (others, rest) ← readQuoted? bound rest
      return (c :: others, rest)

def readText? (chars : List Char) : Option (String × List Char) :=
  match skipBlank chars with
  | '"' :: rest => (readQuoted? rest.length rest).map fun (inside, rest) =>
      (String.ofList inside, rest)
  | _ => none

/-- A natural number. One that has several digits does not begin with zero. -/
def readNumber? (chars : List Char) : Option (Nat × List Char) :=
  let digits := chars.takeWhile Char.isDigit
  if digits.head? = some '0' ∧ digits ≠ ['0'] then none
  else (Text.readDigits? 10 digits).map (·, chars.dropWhile Char.isDigit)

/-- One or more items with commas between them, up to the closing character. -/
def readItems? {α : Type} (close : Char) (read : Reader α) : Nat → Reader (List α)
  | 0, _ => none
  | bound + 1, chars => do
    let (item, rest) ← read chars
    match skipBlank rest with
    | [] => none
    | c :: rest =>
      if c = ',' then
        let (items, rest) ← readItems? close read bound rest
        return (item :: items, rest)
      else if c = close then return ([item], rest)
      else none

/-- Any number of items up to the closing character. -/
def readSequence? {α : Type} (close : Char) (read : Reader α) (chars : List Char) :
    Option (List α × List Char) :=
  if (skipBlank chars).head? = some close then some ([], (skipBlank chars).tail)
  else readItems? close read chars.length chars

/-- A field of an object. -/
def readField? (read : Reader Json) (chars : List Char) :
    Option ((String × Json) × List Char) := do
  let (name, rest) ← readText? chars
  match skipBlank rest with
  | ':' :: rest =>
    let (value, rest) ← read rest
    return ((name, value), rest)
  | _ => none

/-- A value in which others lie no deeper than the bound. -/
def readValue? : Nat → Reader Json
  | 0, _ => none
  | depth + 1, chars => match skipBlank chars with
    | [] => none
    | '"' :: rest => (readText? ('"' :: rest)).map fun (value, rest) => (text value, rest)
    | '[' :: rest =>
      (readSequence? ']' (readValue? depth) rest).map fun (items, rest) => (list items, rest)
    | '\x7b' :: rest =>
      (readSequence? '\x7d' (readField? (readValue? depth)) rest).map fun (fields, rest) =>
        (object fields, rest)
    | 'n' :: 'u' :: 'l' :: 'l' :: rest => some (null, rest)
    | 't' :: 'r' :: 'u' :: 'e' :: rest => some (bool true, rest)
    | 'f' :: 'a' :: 'l' :: 's' :: 'e' :: rest => some (bool false, rest)
    | rest => (readNumber? rest).map fun (value, rest) => (number value, rest)

/-- The value that a whole text stands for. -/
def read? (chars : List Char) : Option Json := do
  let (value, rest) ← readValue? chars.length chars
  if (skipBlank rest).isEmpty then return value else none

/-! ## Texts are read back -/

private theorem skipBlank_cons {c : Char} (visible : isBlank c = false) (rest : List Char) :
    skipBlank (c :: rest) = c :: rest := by
  simp [skipBlank, visible]

private theorem skipBlank_of_head? {chars : List Char} {c : Char} (first : chars.head? = some c)
    (visible : isBlank c = false) : skipBlank chars = chars := by
  obtain ⟨rest, rfl⟩ := List.head?_eq_some_iff.mp first
  simp [skipBlank, visible]

private theorem readUnit?_controlDigits {c : Char} (control : c.toNat < 32) (rest : List Char) :
    readUnit? (Text.Quoted.controlDigits c ++ rest) = some (c.toNat, rest) := by
  have digits : Text.readDigits? 16 (Text.Quoted.controlDigits c) = some c.toNat :=
    Text.of_toNat_lt c control (by decide)
  simp only [Text.Quoted.controlDigits] at digits
  simp only [Text.Quoted.controlDigits, List.cons_append, List.nil_append, readUnit?, digits,
    Option.map_some]

private theorem readChar?_escape (c : Char) (rest : List Char) :
    readChar? (Text.Quoted.escape c ++ rest) = some (c, rest) := by
  unfold Text.Quoted.escape
  split_ifs with quote backslash backspace tab lineFeed formFeed carriageReturn control
  · subst quote
    rfl
  · subst backslash
    rfl
  · subst backspace
    rfl
  · subst tab
    rfl
  · subst lineFeed
    rfl
  · subst formFeed
    rfl
  · subst carriageReturn
    rfl
  · have single : c.toNat < 0xD800 ∨ 0xE000 ≤ c.toNat := by omega
    simp only [List.cons_append, readChar?, readCode?, readUnit?_controlDigits control,
      Option.bind_eq_bind, Option.bind_some, single, if_true, Char.ofNat_toNat]
    rfl
  · simp [readChar?, quote, backslash, control]

private theorem length_pos_escape (c : Char) : 0 < (Text.Quoted.escape c).length := by
  unfold Text.Quoted.escape
  split_ifs <;> simp

private theorem head?_escape_ne (c : Char) (rest : List Char) :
    (Text.Quoted.escape c ++ rest).head? ≠ some '"' := by
  unfold Text.Quoted.escape
  split_ifs <;> simp_all

private theorem readQuoted?_flatMap_escape (chars rest : List Char) {bound : Nat}
    (enough : chars.length < bound) :
    readQuoted? bound (chars.flatMap Text.Quoted.escape ++ '"' :: rest) = some (chars, rest) := by
  induction chars generalizing bound with
  | nil =>
    obtain _ | bound := bound
    · cases enough
    · rfl
  | cons c chars ih =>
    obtain _ | bound := bound
    · cases enough
    · rw [List.flatMap_cons, List.append_assoc, readQuoted?, if_neg (head?_escape_ne c _),
        readChar?_escape]
      simp [ih (Nat.lt_of_succ_lt_succ enough)]

private theorem length_le_flatMap_escape (chars : List Char) :
    chars.length ≤ (chars.flatMap Text.Quoted.escape).length := by
  induction chars with
  | nil => exact Nat.le_refl 0
  | cons c chars ih =>
    have := length_pos_escape c
    rw [List.flatMap_cons, List.length_append, List.length_cons]
    omega

private theorem readText?_encode (value : String) (rest : List Char) :
    readText? (Text.Quoted.encode value.toList ++ rest) = some (value, rest) := by
  have enough := length_le_flatMap_escape value.toList
  rw [Text.Quoted.encode, List.cons_append, List.append_assoc, List.singleton_append, readText?,
    skipBlank_cons rfl]
  simp only
  rw [readQuoted?_flatMap_escape value.toList rest, Option.map_some, String.ofList_toList]
  rw [List.length_append, List.length_cons]
  omega

/-! ## Numbers are read back -/

/-- What follows does not go on with a digit. -/
def Ends (rest : List Char) : Prop := ∀ c ∈ rest.head?, c.isDigit = false

private theorem exists_toDigits_eq_cons (number : Nat) :
    ∃ c rest, Nat.toDigits 10 number = c :: rest ∧ c.isDigit = true := by
  cases same : Nat.toDigits 10 number with
  | nil => exact absurd same Nat.toDigits_ne_nil
  | cons c rest =>
    have member : c ∈ Nat.toDigits 10 number := same ▸ List.mem_cons_self
    exact ⟨c, rest, rfl, Nat.isDigit_of_mem_toDigits (by decide) (by decide) member⟩

private theorem isBlank_of_isDigit {c : Char} (digit : c.isDigit = true) : isBlank c = false := by
  simp only [isBlank, Bool.or_eq_false_iff, decide_eq_false_iff_not]
  refine ⟨⟨⟨?_, ?_⟩, ?_⟩, ?_⟩
  all_goals
    rintro rfl
    cases digit

private theorem head?_toDigits_ne {number : Nat} (positive : 0 < number) :
    (Nat.toDigits 10 number).head? ≠ some '0' := by
  induction number using Nat.strong_induction_on with
  | _ number ih =>
    rw [Nat.toDigits_eq_if (by decide)]
    split
    · simp only [List.head?_cons, ne_eq, Option.some.injEq, Nat.digitChar_eq_zero]
      omega
    · rw [List.head?_append_of_ne_nil _ Nat.toDigits_ne_nil]
      exact ih (number / 10) (by omega) (by omega)

private theorem readNumber?_toDigits (number : Nat) {rest : List Char} (ends : Ends rest) :
    readNumber? (Nat.toDigits 10 number ++ rest) = some (number, rest) := by
  have digits : ∀ c ∈ Nat.toDigits 10 number, c.isDigit = true := fun c =>
    Nat.isDigit_of_mem_toDigits (by decide) (by decide)
  have behind : rest.takeWhile Char.isDigit = [] ∧ rest.dropWhile Char.isDigit = rest := by
    cases rest with
    | nil => exact ⟨rfl, rfl⟩
    | cons c rest =>
      have other := ends c rfl
      simp [other]
  have value := (Text.readDigits?_eq_some_iff (by decide)).mpr
    (Text.spells_toDigits (by decide : 1 < 10) number)
  rw [readNumber?, List.takeWhile_append_of_pos digits, List.dropWhile_append_of_pos digits,
    behind.1, behind.2, List.append_nil, value, if_neg, Option.map_some]
  rintro ⟨zero, longer⟩
  obtain rfl | positive := Nat.eq_zero_or_pos number
  · exact longer (Nat.toDigits_zero 10)
  · exact head?_toDigits_ne positive zero

/-! ## Sequences are read back -/

section Sequence

variable {α : Type} {close : Char} {read : Reader α} {write : α → List Char} {items : List α}

/-- What is written of the items, with commas between them. -/
def separated (write : α → List Char) (items : List α) : List Char :=
  [','].intercalate (items.map write)

private theorem separated_singleton (item : α) : separated write [item] = write item := by
  rw [separated, List.map_singleton, List.intercalate_singleton]

private theorem separated_cons_cons (item next : α) (items : List α) :
    separated write (item :: next :: items) =
      write item ++ ',' :: separated write (next :: items) := by
  simp only [separated, List.map_cons, List.intercalate_cons_cons, List.append_assoc,
    List.singleton_append]

variable (write) in
private theorem length_separated (nonempty : items ≠ []) :
    (separated write items).length + 1 = (items.flatMap write).length + items.length := by
  induction items with
  | nil => exact absurd rfl nonempty
  | cons item items ih =>
    cases items with
    | nil => simp [separated_singleton]
    | cons next items =>
      have later := ih (List.cons_ne_nil _ _)
      simp only [separated_cons_cons, List.flatMap_cons, List.length_append, List.length_cons]
        at later ⊢
      omega

variable (write) in
private theorem length_le_separated {item : α} (member : item ∈ items) :
    (write item).length ≤ (separated write items).length := by
  obtain ⟨front, behind, rfl⟩ := List.append_of_mem member
  have lengths := length_separated write (List.ne_nil_of_mem member)
  simp only [List.flatMap_append, List.flatMap_cons, List.length_append, List.length_cons]
    at lengths
  omega

private theorem readItems?_separated (other : close ≠ ',') (visible : isBlank close = false)
    (each : ∀ item ∈ items, ∀ c rest, c = ',' ∨ c = close →
      read (write item ++ c :: rest) = some (item, c :: rest))
    (nonempty : items ≠ []) {bound : Nat} (enough : items.length ≤ bound) (rest : List Char) :
    readItems? close read bound (separated write items ++ close :: rest) = some (items, rest) := by
  induction items generalizing bound with
  | nil => exact absurd rfl nonempty
  | cons item items ih =>
    obtain _ | bound := bound
    · cases enough
    have first := each item List.mem_cons_self
    cases items with
    | nil =>
      rw [separated_singleton, readItems?, first _ _ (.inr rfl)]
      simp [skipBlank_cons visible, other]
    | cons next items =>
      have later := ih (fun item member => each item (List.mem_cons_of_mem _ member))
        (List.cons_ne_nil _ _) (Nat.le_of_succ_le_succ enough)
      rw [separated_cons_cons, List.append_assoc, List.cons_append, readItems?,
        first _ _ (.inl rfl)]
      simp [skipBlank_cons (c := ',') rfl, later]

private theorem readSequence?_separated (other : close ≠ ',') (visible : isBlank close = false)
    (each : ∀ item ∈ items, ∀ c rest, c = ',' ∨ c = close →
      read (write item ++ c :: rest) = some (item, c :: rest))
    (begins : ∀ item ∈ items, ∃ c rest, write item = c :: rest ∧ isBlank c = false ∧ c ≠ close)
    (rest : List Char) :
    readSequence? close read (separated write items ++ close :: rest) = some (items, rest) := by
  cases items with
  | nil => simp [readSequence?, separated, skipBlank_cons visible]
  | cons item items =>
    have nonempty := List.cons_ne_nil item items
    obtain ⟨c, behind, first, shown, apart⟩ := begins item List.mem_cons_self
    have starts : (separated write (item :: items) ++ close :: rest).head? = some c := by
      cases items with
      | nil => simp [separated_singleton, first]
      | cons next items => simp [separated_cons_cons, first]
    have enough : (item :: items).length ≤
        (separated write (item :: items) ++ close :: rest).length := by
      have lengths := length_separated write nonempty
      simp only [List.length_append, List.length_cons] at lengths ⊢
      omega
    rw [readSequence?, if_neg, readItems?_separated other visible each nonempty enough]
    rw [skipBlank_of_head? starts shown, starts]
    exact mt Option.some.inj apart

end Sequence

/-! ## Values are read back -/

private theorem itemChars_eq (items : List Json) : itemChars items = separated chars items := by
  induction items with
  | nil => rfl
  | cons item items ih =>
    cases items with
    | nil => rw [itemChars, separated_singleton]
    | cons next items => rw [itemChars, ih, separated_cons_cons]

/-- The characters of a field. -/
def oneField (field : String × Json) : List Char :=
  Text.Quoted.encode field.1.toList ++ ':' :: field.2.chars

private theorem fieldChars_eq (fields : List (String × Json)) :
    fieldChars fields = separated oneField fields := by
  induction fields with
  | nil => rfl
  | cons field fields ih =>
    obtain ⟨name, value⟩ := field
    cases fields with
    | nil => rw [fieldChars, separated_singleton, oneField]
    | cons next fields =>
      rw [fieldChars, ih, separated_cons_cons, oneField, List.append_assoc, List.cons_append]

private theorem exists_chars_eq_cons (value : Json) :
    ∃ c rest, value.chars = c :: rest ∧ isBlank c = false ∧ c ≠ ']' := by
  cases value with
  | null => exact ⟨_, _, rfl, rfl, by decide⟩
  | bool value => cases value <;> exact ⟨_, _, rfl, rfl, by decide⟩
  | number value =>
    obtain ⟨c, rest, same, digit⟩ := exists_toDigits_eq_cons value
    refine ⟨c, rest, same, isBlank_of_isDigit digit, ?_⟩
    rintro rfl
    cases digit
  | text value => exact ⟨_, _, rfl, rfl, by decide⟩
  | list items => exact ⟨_, _, rfl, rfl, by decide⟩
  | object fields => exact ⟨_, _, rfl, rfl, by decide⟩

private theorem readValue?_of_isDigit {c : Char} (digit : c.isDigit = true) (depth : Nat)
    (rest : List Char) :
    readValue? (depth + 1) (c :: rest) =
      (readNumber? (c :: rest)).map fun (value, rest) => (number value, rest) := by
  rw [readValue?, skipBlank_cons (isBlank_of_isDigit digit)]
  split
  case h_1 same => cases same
  case h_8 => rfl
  -- Every other kind of value begins with a character that is no digit.
  all_goals
    rename_i same
    cases same
    cases digit

private theorem readField?_oneField {read : Reader Json} {field : String × Json} {rest : List Char}
    (value : read (field.2.chars ++ rest) = some (field.2, rest)) :
    readField? read (oneField field ++ rest) = some (field, rest) := by
  rw [oneField, List.append_assoc, List.cons_append, readField?, readText?_encode]
  simp [skipBlank_cons (c := ':') rfl, value]

private theorem readValue?_chars (value : Json) {depth : Nat} (enough : value.chars.length ≤ depth)
    {rest : List Char} (ends : Ends rest) :
    readValue? depth (value.chars ++ rest) = some (value, rest) := by
  induction depth generalizing value rest with
  | zero =>
    obtain ⟨c, others, same, _⟩ := exists_chars_eq_cons value
    rw [same] at enough
    cases enough
  | succ depth ih =>
    -- What lies inside a value is shorter than the value, and is followed by no digit.
    have inside {inner : Json} (shorter : inner.chars.length < value.chars.length) {c close : Char}
        (rest : List Char) (other : close.isDigit = false) (behind : c = ',' ∨ c = close) :
        readValue? depth (inner.chars ++ c :: rest) = some (inner, c :: rest) := by
      refine ih inner (by omega) ?_
      rintro _ ⟨⟩
      obtain rfl | rfl := behind
      · rfl
      · exact other
    cases value with
    | null => rfl
    | bool value => cases value <;> rfl
    | number value =>
      have read := readNumber?_toDigits value ends
      obtain ⟨c, others, same, digit⟩ := exists_toDigits_eq_cons value
      rw [same, List.cons_append] at read
      rw [chars, same, List.cons_append, readValue?_of_isDigit digit, read]
      rfl
    | text value =>
      have read := readText?_encode value rest
      rw [Text.Quoted.encode, List.cons_append] at read
      rw [chars, Text.Quoted.encode, List.cons_append, readValue?, skipBlank_cons rfl]
      simp only [read, Option.map_some]
    | list items =>
      have each : ∀ item ∈ items, ∀ c rest, c = ',' ∨ c = ']' →
          readValue? depth (item.chars ++ c :: rest) = some (item, c :: rest) := by
        intro item member c rest behind
        have length := length_le_separated chars member
        refine inside ?_ rest rfl behind
        simp only [chars, itemChars_eq, List.length_cons, List.length_append]
        omega
      have sequence := readSequence?_separated (by decide) rfl each
        (fun item _ => exists_chars_eq_cons item) rest
      rw [chars, List.cons_append, List.append_assoc, List.singleton_append, readValue?,
        skipBlank_cons rfl, itemChars_eq]
      simp only [sequence, Option.map_some]
    | object fields =>
      have each : ∀ field ∈ fields, ∀ c rest, c = ',' ∨ c = '\x7d' →
          readField? (readValue? depth) (oneField field ++ c :: rest) =
            some (field, c :: rest) := by
        intro field member c rest behind
        have length := length_le_separated oneField member
        refine readField?_oneField (inside ?_ rest rfl behind)
        simp only [chars, fieldChars_eq, List.length_cons, List.length_append]
        simp only [oneField, List.length_append, List.length_cons] at length
        omega
      have begins : ∀ field ∈ fields,
          ∃ c rest, oneField field = c :: rest ∧ isBlank c = false ∧ c ≠ '\x7d' :=
        fun field _ => ⟨_, _, rfl, rfl, by decide⟩
      have sequence := readSequence?_separated (by decide) rfl each begins rest
      rw [chars, List.cons_append, List.append_assoc, List.singleton_append, readValue?,
        skipBlank_cons rfl, fieldChars_eq]
      simp only [sequence, Option.map_some]

/-- What is written of a value is read back. -/
theorem read?_chars (value : Json) : read? value.chars = some value := by
  have ends : Ends [] := fun _ none => by cases none
  have read := readValue?_chars value (Nat.le_refl _) ends
  rw [List.append_nil] at read
  rw [read?, read]
  rfl

example : read? "[1 ,\n \"\\u00e9\\ud83d\\ude00\" ]".toList =
    some (list [number 1, text "é😀"]) := by rfl

example : read? "[1, 02]".toList = none := by rfl

/-! ## A value is written on one line -/

private theorem lineFeed_notMem_escape (c : Char) : '\n' ∉ Text.Quoted.escape c := by
  have digit : ∀ value < 16, '\n' ≠ Nat.digitChar value := by decide
  unfold Text.Quoted.escape
  split_ifs with quote backslash backspace tab lineFeed formFeed carriageReturn control
  any_goals decide
  · have high := digit (c.toNat / 16) (by omega)
    have low := digit (c.toNat % 16) (by omega)
    simp [Text.Quoted.controlDigits, high, low]
  · simpa using Ne.symm lineFeed

theorem lineFeed_notMem_encode (chars : List Char) : '\n' ∉ Text.Quoted.encode chars := by
  simp [Text.Quoted.encode, lineFeed_notMem_escape]

private theorem lineFeed_notMem_toDigits (number : Nat) : '\n' ∉ Nat.toDigits 10 number := by
  intro member
  have digit := Nat.isDigit_of_mem_toDigits (by decide) (by decide) member
  cases digit

mutual

theorem lineFeed_notMem_chars : ∀ value : Json, '\n' ∉ value.chars
  | null => by decide
  | bool false => by decide
  | bool true => by decide
  | number value => lineFeed_notMem_toDigits value
  | text value => lineFeed_notMem_encode value.toList
  | list items => by simp [chars, lineFeed_notMem_itemChars items]
  | object fields => by simp [chars, lineFeed_notMem_fieldChars fields]

theorem lineFeed_notMem_itemChars : ∀ items : List Json, '\n' ∉ itemChars items
  | [] => List.not_mem_nil
  | [item] => lineFeed_notMem_chars item
  | item :: next :: rest => by
    simp [itemChars, lineFeed_notMem_chars item, lineFeed_notMem_itemChars (next :: rest)]

theorem lineFeed_notMem_fieldChars : ∀ fields : List (String × Json), '\n' ∉ fieldChars fields
  | [] => List.not_mem_nil
  | [(name, value)] => by
    simp [fieldChars, lineFeed_notMem_encode, lineFeed_notMem_chars value]
  | (name, value) :: next :: rest => by
    simp [fieldChars, lineFeed_notMem_encode, lineFeed_notMem_chars value,
      lineFeed_notMem_fieldChars (next :: rest)]

end

end Provisioning.Json
