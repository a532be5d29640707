/-
# JavaScript data and its JSON text

Values as `JSON.stringify` prints and `JSON.parse` reads them.  Printing loses nothing of a value
that is made of nulls, truth values, natural numbers, texts, arrays and objects: it can be read
back, so two such values with the same text are the same.
-/

import WorkGate.Library.CodeUnits

namespace WorkGate.Library

/-- A number: a natural one, or any other as the text it prints as. -/
inductive JsNumber
  | natural (value : ℕ)
  | other (text : String)
  deriving DecidableEq

/-- JavaScript data.  An object keeps its members in order. -/
inductive JsValue
  | undefined
  | null
  | bool (value : Bool)
  | number (value : JsNumber)
  | string (units : CodeUnits)
  | array (elements : List JsValue)
  | object (members : List (CodeUnits × JsValue))

/-- What is handed from the parts of a value to the value holds of every value. -/
@[elab_as_elim]
theorem JsValue.inductionOn {motive : JsValue → Prop} (value : JsValue)
    (undefined : motive .undefined) (null : motive .null) (bool : ∀ value, motive (.bool value))
    (number : ∀ value, motive (.number value)) (string : ∀ units, motive (.string units))
    (array : ∀ elements, (∀ element ∈ elements, motive element) → motive (.array elements))
    (object : ∀ members, (∀ member ∈ members, motive member.2) → motive (.object members)) :
    motive value := by
  have hstep (value : JsValue) (ih : ∀ part : JsValue, sizeOf part < sizeOf value → motive part) :
      motive value := by
    cases value with
    | undefined => exact undefined
    | null => exact null
    | bool value => exact bool value
    | number value => exact number value
    | string units => exact string units
    | array elements =>
        apply array
        intro element hmem
        have hsmaller := List.sizeOf_lt_of_mem hmem
        exact ih element (by rw [JsValue.array.sizeOf_spec]; omega)
    | object members =>
        apply object
        intro member hmem
        have hsmaller := List.sizeOf_lt_of_mem hmem
        have hpart : sizeOf member.2 < sizeOf member := by
          rw [Prod.mk.sizeOf_spec]
          omega
        exact ih member.2 (by rw [JsValue.object.sizeOf_spec]; omega)
  exact WellFounded.induction (measure sizeOf).wf value hstep

namespace JsonText

/-! ## Printing -/

/-- The four digits of a code unit. -/
def hexUnit (unit : UInt16) : List Char :=
  Hex.encodeByte (UInt8.ofNat (unit.toNat / 256)) ++ Hex.encodeByte (UInt8.ofNat (unit.toNat % 256))

/-- The letter behind the backslash of a character that has one. -/
def maybeShortEscape (character : Char) : Option Char :=
  if character = '"' then some '"'
  else if character = '\\' then some '\\'
  else if character.toNat = 8 then some 'b'
  else if character.toNat = 12 then some 'f'
  else if character.toNat = 10 then some 'n'
  else if character.toNat = 13 then some 'r'
  else if character.toNat = 9 then some 't'
  else none

/-- A piece of a text inside the quotes. -/
def escape : CodeUnits.Piece → List Char
  | .lone unit => '\\' :: 'u' :: hexUnit unit
  | .scalar character =>
    match maybeShortEscape character with
    | some letter => ['\\', letter]
    | none =>
        if character.toNat < 32 then '\\' :: 'u' :: hexUnit (UInt16.ofNat character.toNat)
        else [character]

/-- A text in quotes. -/
def quote (units : CodeUnits) : List Char :=
  '"' :: ((CodeUnits.pieces units).flatMap escape ++ ['"'])

def printNumber : JsNumber → List Char
  | .natural value => value.repr.toList
  | .other text => text.toList

mutual

/-- `JSON.stringify`, of data without `undefined`. -/
def print : JsValue → List Char
  | .undefined => []
  | .null => "null".toList
  | .bool true => "true".toList
  | .bool false => "false".toList
  | .number value => printNumber value
  | .string units => quote units
  | .array [] => ['[', ']']
  | .array (element :: elements) => '[' :: (print element ++ printElements elements)
  | .object [] => ['{', '}']
  | .object ((key, value) :: members) =>
      '{' :: (quote key ++ ':' :: (print value ++ printMembers members))

def printElements : List JsValue → List Char
  | [] => [']']
  | element :: elements => ',' :: (print element ++ printElements elements)

def printMembers : List (CodeUnits × JsValue) → List Char
  | [] => ['}']
  | (key, value) :: members =>
      ',' :: (quote key ++ ':' :: (print value ++ printMembers members))

end

theorem printElements_eq (elements : List JsValue) :
    printElements elements =
      elements.flatMap (fun element => ',' :: print element) ++ [']'] := by
  induction elements with
  | nil => rfl
  | cons element elements ih => rw [printElements, ih, List.flatMap_cons]; simp

theorem printMembers_eq (members : List (CodeUnits × JsValue)) :
    printMembers members =
      members.flatMap (fun member => ',' :: (quote member.1 ++ ':' :: print member.2)) ++
        ['}'] := by
  induction members with
  | nil => rfl
  | cons member members ih => rw [printMembers, ih, List.flatMap_cons]; simp

/-- Texts with commas between them. -/
theorem intercalate_cons (first : List Char) (rest : List (List Char)) :
    [','].intercalate (first :: rest) = first ++ rest.flatMap fun text => ',' :: text := by
  induction rest generalizing first with
  | nil => simp [List.intercalate]
  | cons next rest ih =>
      rw [List.flatMap_cons, List.cons_append, ← ih next]
      simp [List.intercalate]

theorem print_array (elements : List JsValue) :
    print (.array elements) = '[' :: ([','].intercalate (elements.map print) ++ [']']) := by
  cases elements with
  | nil => rfl
  | cons element elements =>
      rw [print, printElements_eq, List.map_cons, intercalate_cons, List.flatMap_map,
        List.append_assoc]

theorem print_object (members : List (CodeUnits × JsValue)) :
    print (.object members) = '{' :: ([','].intercalate (members.map fun member =>
      quote member.1 ++ ':' :: print member.2) ++ ['}']) := by
  cases members with
  | nil => rfl
  | cons member members =>
      rw [print, printMembers_eq, List.map_cons, intercalate_cons, List.flatMap_map]
      simp

/-! ## Reading -/

def isSpace (character : Char) : Bool :=
  character = ' ' || character.toNat = 9 || character.toNat = 10 || character.toNat = 13

def skipSpace (characters : List Char) : List Char := characters.dropWhile isSpace

def hexValue (character : Char) : Option ℕ :=
  if '0' ≤ character ∧ character ≤ '9' then some (character.toNat - 48)
  else if 'a' ≤ character ∧ character ≤ 'f' then some (character.toNat - 87)
  else if 'A' ≤ character ∧ character ≤ 'F' then some (character.toNat - 55)
  else none

def readHexUnit (first second third fourth : Char) : Option UInt16 := do
  let first ← hexValue first
  let second ← hexValue second
  let third ← hexValue third
  let fourth ← hexValue fourth
  return UInt16.ofNat (((first * 16 + second) * 16 + third) * 16 + fourth)

/-- What a backslash and a letter stand for. -/
def readShortEscape (letter : Char) : Option UInt16 :=
  if letter = '"' then some 34
  else if letter = '\\' then some 92
  else if letter = '/' then some 47
  else if letter = 'b' then some 8
  else if letter = 'f' then some 12
  else if letter = 'n' then some 10
  else if letter = 'r' then some 13
  else if letter = 't' then some 9
  else none

/-- A text up to its closing quote. -/
def readString : List Char → Option (CodeUnits × List Char)
  | [] => none
  | '"' :: rest => some ([], rest)
  | '\\' :: 'u' :: first :: second :: third :: fourth :: rest =>
      match readHexUnit first second third fourth with
      | none => none
      | some unit => (readString rest).map fun read => (unit :: read.1, read.2)
  | '\\' :: letter :: rest =>
      match readShortEscape letter with
      | none => none
      | some unit => (readString rest).map fun read => (unit :: read.1, read.2)
  | character :: rest =>
      if character.toNat < 32 then none
      else (readString rest).map fun read => (CodeUnits.ofChar character ++ read.1, read.2)

/-- The decimal digits something starts with. -/
def readDigits (characters : List Char) : List Char × List Char :=
  (characters.takeWhile Char.isDigit, characters.dropWhile Char.isDigit)

/-- The sign something starts with, if it starts with one of these. -/
def readSign (signs : List Char) : List Char → List Char × List Char
  | [] => ([], [])
  | character :: rest => if character ∈ signs then ([character], rest) else ([], character :: rest)

/-- A fraction, if one follows; a point needs a digit behind it. -/
def readFraction : List Char → Option (List Char × List Char)
  | '.' :: rest =>
      match readDigits rest with
      | ([], _) => none
      | (digits, rest) => some ('.' :: digits, rest)
  | rest => some ([], rest)

/-- An exponent, if one follows. -/
def readExponent : List Char → Option (List Char × List Char)
  | [] => some ([], [])
  | mark :: rest =>
      if mark = 'e' ∨ mark = 'E' then
        let signed := readSign ['+', '-'] rest
        match readDigits signed.2 with
        | ([], _) => none
        | (digits, rest) => some (mark :: (signed.1 ++ digits), rest)
      else some ([], mark :: rest)

/-- A number.  Only one that is written as a natural number is read as one. -/
def readNumber (characters : List Char) : Option (JsNumber × List Char) :=
  let signed := readSign ['-'] characters
  match readDigits signed.2 with
  | ([], _) => none
  | (digit :: digits, rest) =>
      if digit = '0' ∧ digits ≠ [] then none
      else match readFraction rest with
        | none => none
        | some (fraction, rest) =>
          match readExponent rest with
          | none => none
          | some (exponent, rest) =>
              if signed.1 = [] ∧ fraction = [] ∧ exponent = [] then
                some (.natural (Nat.ofDigitChars 10 (digit :: digits) 0), rest)
              else some (.other (String.ofList
                (signed.1 ++ digit :: digits ++ fraction ++ exponent)), rest)

/-- A value that is neither a text nor made of others. -/
def readScalar : List Char → Option (JsValue × List Char)
  | 'n' :: 'u' :: 'l' :: 'l' :: rest => some (.null, rest)
  | 't' :: 'r' :: 'u' :: 'e' :: rest => some (.bool true, rest)
  | 'f' :: 'a' :: 'l' :: 's' :: 'e' :: rest => some (.bool false, rest)
  | rest => (readNumber rest).map fun read => (.number read.1, read.2)

mutual

/-- A value at the start of the text, and what follows it. -/
def readValue : ℕ → List Char → Option (JsValue × List Char)
  | 0, _ => none
  | fuel + 1, characters =>
    match skipSpace characters with
    | '"' :: rest => (readString rest).map fun read => (.string read.1, read.2)
    | '[' :: rest =>
        match skipSpace rest with
        | ']' :: rest => some (.array [], rest)
        | rest => (readElements fuel rest).map fun read => (.array read.1, read.2)
    | '{' :: rest =>
        match skipSpace rest with
        | '}' :: rest => some (.object [], rest)
        | rest => (readMembers fuel rest).map fun read => (.object read.1, read.2)
    | rest => readScalar rest

/-- The elements of an array up to its closing bracket. -/
def readElements : ℕ → List Char → Option (List JsValue × List Char)
  | 0, _ => none
  | fuel + 1, characters =>
    match readValue fuel characters with
    | none => none
    | some (element, rest) =>
      match skipSpace rest with
      | ']' :: rest => some ([element], rest)
      | ',' :: rest => (readElements fuel rest).map fun read => (element :: read.1, read.2)
      | _ => none

/-- The members of an object up to its closing brace. -/
def readMembers : ℕ → List Char → Option (List (CodeUnits × JsValue) × List Char)
  | 0, _ => none
  | fuel + 1, characters =>
    match skipSpace characters with
    | '"' :: rest =>
      match readString rest with
      | none => none
      | some (key, rest) =>
        match skipSpace rest with
        | ':' :: rest =>
          match readValue fuel rest with
          | none => none
          | some (value, rest) =>
            match skipSpace rest with
            | '}' :: rest => some ([(key, value)], rest)
            | ',' :: rest =>
                (readMembers fuel rest).map fun read => ((key, value) :: read.1, read.2)
            | _ => none
        | _ => none
    | _ => none

end

/-- A member replaces an earlier one of its name, in its place. -/
def setMember (key : CodeUnits) (value : JsValue) :
    List (CodeUnits × JsValue) → List (CodeUnits × JsValue)
  | [] => [(key, value)]
  | (other, held) :: members =>
      if other = key then (other, value) :: members
      else (other, held) :: setMember key value members

mutual

/-- Every name of an object once. -/
def settle : JsValue → JsValue
  | .array elements => .array (settleElements elements)
  | .object members =>
      .object ((settleMembers members).foldl (fun settled member =>
        setMember member.1 member.2 settled) [])
  | value => value

def settleElements : List JsValue → List JsValue
  | [] => []
  | element :: elements => settle element :: settleElements elements

def settleMembers : List (CodeUnits × JsValue) → List (CodeUnits × JsValue)
  | [] => []
  | (key, value) :: members => (key, settle value) :: settleMembers members

end

/-- `JSON.parse`.  Every two steps of the reading take a character, so it does not run out. -/
def parse (text : String) : Option JsValue :=
  match readValue (2 * text.toList.length + 2) text.toList with
  | none => none
  | some (value, rest) => if skipSpace rest = [] then some (settle value) else none

/-- A text as it is read, with every name of an object as often as it is written. -/
def readText (text : String) : Option JsValue :=
  match readValue (2 * text.toList.length + 2) text.toList with
  | none => none
  | some (value, rest) => if skipSpace rest = [] then some value else none

theorem parse_eq_map_readText (text : String) : parse text = (readText text).map settle := by
  rw [parse, readText]
  cases readValue (2 * text.toList.length + 2) text.toList with
  | none => rfl
  | some read =>
      dsimp only
      split
      · rfl
      · rfl

/-! ## What is printed is read back: texts -/

theorem hexValue_digit : ∀ value < 16, hexValue (Hex.digit value) = some value := by decide

theorem readHexUnit_hexUnit (unit : UInt16) (rest : List Char) :
    ∃ first second third fourth, hexUnit unit ++ rest = first :: second :: third :: fourth :: rest ∧
      readHexUnit first second third fourth = some unit := by
  have hlt := unit.toNat_lt
  have hhigh : (UInt8.ofNat (unit.toNat / 256)).toNat = unit.toNat / 256 := by
    rw [UInt8.toNat_ofNat']
    exact Nat.mod_eq_of_lt (by omega)
  have hlow : (UInt8.ofNat (unit.toNat % 256)).toNat = unit.toNat % 256 := by
    rw [UInt8.toNat_ofNat']
    exact Nat.mod_eq_of_lt (by omega)
  refine ⟨_, _, _, _, rfl, ?_⟩
  rw [hhigh, hlow, readHexUnit, hexValue_digit _ (by omega), hexValue_digit _ (by omega),
    hexValue_digit _ (by omega), hexValue_digit _ (by omega)]
  have hvalue : ((unit.toNat / 256 / 16 * 16 + unit.toNat / 256 % 16) * 16 +
      unit.toNat % 256 / 16) * 16 + unit.toNat % 256 % 16 = unit.toNat := by omega
  show some (UInt16.ofNat (((unit.toNat / 256 / 16 * 16 + unit.toNat / 256 % 16) * 16 +
      unit.toNat % 256 / 16) * 16 + unit.toNat % 256 % 16)) = some unit
  rw [hvalue, UInt16.ofNat_toNat]

theorem readString_hexUnit (unit : UInt16) (rest : List Char) :
    readString ('\\' :: 'u' :: (hexUnit unit ++ rest)) =
      (readString rest).map fun read => (unit :: read.1, read.2) := by
  obtain ⟨first, second, third, fourth, hdigits, hread⟩ := readHexUnit_hexUnit unit rest
  rw [hdigits, readString, hread]

/-- A character with a letter of its own is the unit the letter stands for. -/
theorem readShortEscape_of_maybe {character letter : Char}
    (h : maybeShortEscape character = some letter) :
    letter ≠ 'u' ∧ ∃ unit, readShortEscape letter = some unit ∧
      CodeUnits.ofChar character = [unit] := by
  have hcharacter : ∀ value, character.toNat = value → character = Char.ofNat value := by
    rintro value rfl
    exact (Char.ofNat_toNat character).symm
  simp only [maybeShortEscape] at h
  split at h
  · next heq =>
      cases h
      subst heq
      exact ⟨by decide, 34, rfl, rfl⟩
  split at h
  · next heq =>
      cases h
      subst heq
      exact ⟨by decide, 92, rfl, rfl⟩
  split at h
  · next heq =>
      cases h
      rw [hcharacter _ heq]
      exact ⟨by decide, 8, rfl, rfl⟩
  split at h
  · next heq =>
      cases h
      rw [hcharacter _ heq]
      exact ⟨by decide, 12, rfl, rfl⟩
  split at h
  · next heq =>
      cases h
      rw [hcharacter _ heq]
      exact ⟨by decide, 10, rfl, rfl⟩
  split at h
  · next heq =>
      cases h
      rw [hcharacter _ heq]
      exact ⟨by decide, 13, rfl, rfl⟩
  split at h
  · next heq =>
      cases h
      rw [hcharacter _ heq]
      exact ⟨by decide, 9, rfl, rfl⟩
  · cases h

/-- A character without a letter is neither a quote nor a backslash. -/
theorem ne_of_maybeShortEscape {character : Char} (h : maybeShortEscape character = none) :
    character ≠ '"' ∧ character ≠ '\\' := by
  constructor
  · rintro rfl
    cases h
  · rintro rfl
    cases h

theorem readString_escape (piece : CodeUnits.Piece) (rest : List Char) :
    readString (escape piece ++ rest) =
      (readString rest).map fun read => (piece.units ++ read.1, read.2) := by
  cases piece with
  | lone unit => exact readString_hexUnit unit rest
  | scalar character =>
      simp only [escape, CodeUnits.Piece.units]
      cases hescape : maybeShortEscape character with
      | some letter =>
          obtain ⟨hletter, unit, hread, hunits⟩ := readShortEscape_of_maybe hescape
          rw [hunits]
          show readString ('\\' :: letter :: rest) = _
          rw [readString]
          · rw [hread]
            rfl
          · intro first second third fourth others heq
            exact absurd heq hletter
      | none =>
          obtain ⟨hquote, hbackslash⟩ := ne_of_maybeShortEscape hescape
          by_cases hcontrol : character.toNat < 32
          · have hunits : CodeUnits.ofChar character = [UInt16.ofNat character.toNat] :=
              if_pos (by omega)
            simp only [if_pos hcontrol, hunits]
            exact readString_hexUnit _ rest
          · simp only [if_neg hcontrol, List.singleton_append]
            rw [readString]
            · rw [if_neg hcontrol]
            · exact hquote
            · exact fun _ _ _ _ _ heq => absurd heq hbackslash
            · exact fun _ _ heq => absurd heq hbackslash

theorem readString_pieces (found : List CodeUnits.Piece) (rest : List Char) :
    readString (found.flatMap escape ++ '"' :: rest) =
      some (found.flatMap CodeUnits.Piece.units, rest) := by
  induction found with
  | nil => rfl
  | cons piece found ih =>
      rw [List.flatMap_cons, List.append_assoc, readString_escape, ih]
      rfl

/-- A text in quotes is read back. -/
theorem readString_quote (units : CodeUnits) (rest : List Char) :
    ∃ body, quote units ++ rest = '"' :: body ∧ readString body = some (units, rest) := by
  refine ⟨(CodeUnits.pieces units).flatMap escape ++ '"' :: rest, ?_, ?_⟩
  · simp [quote]
  · rw [readString_pieces, CodeUnits.flatMap_pieces]

/-! ## What is printed is read back: numbers -/

/-- What may follow a number: neither a digit nor what would carry it on. -/
def EndsNumber (rest : List Char) : Prop :=
  ∀ character ∈ rest.head?, character.isDigit = false ∧ character ≠ '.' ∧ character ≠ 'e' ∧
    character ≠ 'E'

theorem readDigits_append {digits rest : List Char}
    (hdigits : ∀ digit ∈ digits, digit.isDigit = true) (hends : EndsNumber rest) : readDigits (digits ++ rest) = (digits, rest) := by
  have htake : rest.takeWhile Char.isDigit = [] ∧ rest.dropWhile Char.isDigit = rest := by
    cases rest with
    | nil => exact ⟨rfl, rfl⟩
    | cons character rest =>
        obtain ⟨hdigit, -⟩ := hends character rfl
        simp [hdigit]
  rw [readDigits, List.takeWhile_append_of_pos hdigits, List.dropWhile_append_of_pos hdigits,
    htake.1, htake.2, List.append_nil]

/-- The decimal digits of a number start with a zero only where it is zero. -/
theorem toDigits_cons {value : ℕ} {digit : Char} {digits : List Char}
    (h : Nat.toDigits 10 value = digit :: digits) : digit = '0' → digits = [] := by
  induction value using Nat.strongRecOn generalizing digit digits with
  | ind value ih =>
      intro hzero
      by_cases hlt : value < 10
      · rw [Nat.toDigits_of_lt_base hlt] at h
        exact (List.cons.inj h).2.symm
      · have hbase : 10 ≤ value := Nat.le_of_not_lt hlt
        rw [Nat.toDigits_of_base_le (by decide) hbase] at h
        cases hrest : Nat.toDigits 10 (value / 10) with
        | nil => exact absurd hrest Nat.toDigits_ne_nil
        | cons first others =>
            rw [hrest, List.cons_append] at h
            obtain ⟨rfl, rfl⟩ := List.cons.inj h
            -- A single zero in front would be the digits of a quotient that is not zero.
            have hnil := ih (value / 10) (Nat.div_lt_self (by omega) (by decide)) hrest hzero
            have hback := Nat.ofDigitChars_ten_toDigits (n := value / 10)
            rw [hrest, hnil, hzero] at hback
            have hquotient : value / 10 = 0 := hback.symm
            omega

theorem readNumber_natural (value : ℕ) {rest : List Char} (hends : EndsNumber rest) :
    readNumber (value.repr.toList ++ rest) = some (.natural value, rest) := by
  have hdigits : ∀ digit ∈ Nat.toDigits 10 value, digit.isDigit = true := fun digit hmem =>
    Nat.isDigit_of_mem_toDigits (by decide) (by decide) hmem
  rw [Nat.toList_repr]
  cases hfirst : Nat.toDigits 10 value with
  | nil => exact absurd hfirst Nat.toDigits_ne_nil
  | cons digit digits =>
      have hread := readDigits_append hdigits hends
      rw [hfirst] at hread hdigits
      have hdigit := hdigits digit List.mem_cons_self
      have hsign : digit ≠ '-' := by
        rintro rfl
        cases hdigit
      have hzero : ¬ (digit = '0' ∧ digits ≠ []) := fun hboth =>
        hboth.2 (toDigits_cons hfirst hboth.1)
      have hfraction : readFraction rest = some ([], rest) := by
        cases rest with
        | nil => rfl
        | cons character rest =>
            obtain ⟨-, hpoint, -⟩ := hends character rfl
            rw [readFraction]
            exact fun _ heq => absurd (List.cons.inj heq).1 hpoint
      have hexponent : readExponent rest = some ([], rest) := by
        cases rest with
        | nil => rfl
        | cons character rest =>
            obtain ⟨-, -, hlower, hupper⟩ := hends character rfl
            rw [readExponent, if_neg (not_or.mpr ⟨hlower, hupper⟩)]
      have hvalue := Nat.ofDigitChars_ten_toDigits (n := value)
      rw [hfirst] at hvalue
      have hunsigned : readSign ['-'] (digit :: digits ++ rest) = ([], digit :: digits ++ rest) :=
        if_neg (by simpa using hsign)
      simp only [readNumber, hunsigned, hread, if_neg hzero, hfraction, hexponent, hvalue,
        and_self, if_true]

theorem readDigits_extend {characters digits tail rest : List Char}
    (h : readDigits characters = (digits, tail)) (hends : EndsNumber rest) :
    readDigits (characters ++ rest) = (digits, tail ++ rest) := by
  induction characters generalizing digits tail with
  | nil =>
      cases h
      exact readDigits_append (fun _ hdigit => absurd hdigit List.not_mem_nil) hends
  | cons character characters ih =>
      have hrest := ih rfl
      rw [readDigits] at hrest h ⊢
      by_cases hdigit : character.isDigit = true
      · rw [List.takeWhile_cons_of_pos hdigit, List.dropWhile_cons_of_pos hdigit] at h
        rw [List.cons_append, List.takeWhile_cons_of_pos hdigit, List.dropWhile_cons_of_pos hdigit]
        cases h
        obtain ⟨htake, hdrop⟩ := Prod.mk.inj hrest
        rw [htake, hdrop]
      · rw [List.takeWhile_cons_of_neg hdigit, List.dropWhile_cons_of_neg hdigit] at h
        rw [List.cons_append, List.takeWhile_cons_of_neg hdigit,
          List.dropWhile_cons_of_neg hdigit]
        cases h
        rfl

theorem readFraction_extend {characters fraction tail rest : List Char}
    (h : readFraction characters = some (fraction, tail)) (hends : EndsNumber rest) :
    readFraction (characters ++ rest) = some (fraction, tail ++ rest) := by
  have hnone : ∀ {found : List Char}, (∀ others, found ≠ '.' :: others) →
      readFraction found = some ([], found) := by
    intro found hfound
    rw [readFraction]
    exact fun others heq => absurd heq (hfound others)
  cases characters with
  | nil =>
      cases h
      apply hnone
      rintro others heq
      exact (hends '.' (by rw [List.nil_append] at heq; rw [heq]; rfl)).2.1 rfl
  | cons character characters =>
      by_cases hpoint : character = '.'
      · subst hpoint
        cases hread : readDigits characters with
        | mk digits left =>
            have hextended := readDigits_extend hread hends
            simp only [readFraction, hread] at h
            simp only [List.cons_append, readFraction, hextended]
            cases digits with
            | nil => cases h
            | cons digit digits =>
                cases h
                rfl
      · have hplain : ∀ found others, character :: found ≠ '.' :: others := fun _ _ heq =>
          hpoint (List.cons.inj heq).1
        rw [hnone (hplain characters)] at h
        cases h
        rw [List.cons_append, hnone (hplain _)]

theorem readExponent_extend {characters exponent tail rest : List Char}
    (h : readExponent characters = some (exponent, tail)) (hends : EndsNumber rest) :
    readExponent (characters ++ rest) = some (exponent, tail ++ rest) := by
  cases characters with
  | nil =>
      cases h
      cases rest with
      | nil => rfl
      | cons mark rest =>
          obtain ⟨-, -, hlower, hupper⟩ := hends mark rfl
          rw [List.nil_append, readExponent, if_neg (not_or.mpr ⟨hlower, hupper⟩)]
  | cons mark characters =>
      rw [readExponent] at h
      rw [List.cons_append, readExponent]
      by_cases hmark : mark = 'e' ∨ mark = 'E'
      · rw [if_pos hmark] at h ⊢
        cases characters with
        | nil => cases h
        | cons sign characters =>
            have hsigned : readSign ['+', '-'] (sign :: characters ++ rest) =
                ((readSign ['+', '-'] (sign :: characters)).1,
                  (readSign ['+', '-'] (sign :: characters)).2 ++ rest) := by
              rw [List.cons_append, readSign, readSign]
              split
              · rfl
              · rfl
            cases hread : readDigits (readSign ['+', '-'] (sign :: characters)).2 with
            | mk digits left =>
                simp only [hsigned, readDigits_extend hread hends]
                simp only [hread] at h
                cases digits with
                | nil => cases h
                | cons digit digits =>
                    cases h
                    rfl
      · rw [if_neg hmark] at h ⊢
        cases h
        rfl

/-- A number that is read to the end of its text is read, whatever ends it. -/
theorem readNumber_extend {characters rest : List Char} {number : JsNumber}
    (h : readNumber characters = some (number, [])) (hends : EndsNumber rest) :
    readNumber (characters ++ rest) = some (number, rest) := by
  cases characters with
  | nil => cases h
  | cons first characters =>
      have hsigned : readSign ['-'] (first :: characters ++ rest) =
          ((readSign ['-'] (first :: characters)).1,
            (readSign ['-'] (first :: characters)).2 ++ rest) := by
        rw [List.cons_append, readSign, readSign]
        split
        · rfl
        · rfl
      simp only [readNumber] at h
      simp only [readNumber, hsigned]
      cases hread : readDigits (readSign ['-'] (first :: characters)).2 with
      | mk digits left =>
          simp only [hread] at h
          simp only [readDigits_extend hread hends]
          cases digits with
          | nil => cases h
          | cons digit digits =>
              simp only at h ⊢
              split at h
              · cases h
              · next hzero =>
                  rw [if_neg hzero]
                  cases hfraction : readFraction left with
                  | none =>
                      rw [hfraction] at h
                      cases h
                  | some fraction =>
                      obtain ⟨fraction, left⟩ := fraction
                      rw [hfraction] at h
                      simp only at h
                      simp only [readFraction_extend hfraction hends]
                      cases hexponent : readExponent left with
                      | none =>
                          rw [hexponent] at h
                          cases h
                      | some exponent =>
                          obtain ⟨exponent, left⟩ := exponent
                          rw [hexponent] at h
                          simp only at h
                          simp only [readExponent_extend hexponent hends]
                          split at h
                          · next hnatural =>
                              cases h
                              rw [if_pos hnatural]
                              rfl
                          · next hother =>
                              cases h
                              rw [if_neg hother]
                              rfl

/-! ## What is printed is read back: values -/

mutual

/-- A value whose text says all there is of it. -/
def Printable : JsValue → Prop
  | .undefined => False
  | .number (.other _) => False
  | .array elements => PrintableElements elements
  | .object members => PrintableMembers members
  | _ => True

def PrintableElements : List JsValue → Prop
  | [] => True
  | element :: elements => Printable element ∧ PrintableElements elements

def PrintableMembers : List (CodeUnits × JsValue) → Prop
  | [] => True
  | (_, value) :: members => Printable value ∧ PrintableMembers members

end

/-- A number whose text is read as that number. -/
def LegibleNumber : JsNumber → Prop
  | .natural _ => True
  | .other text => readNumber text.toList = some (.other text, [])

instance : (number : JsNumber) → Decidable (LegibleNumber number)
  | .natural _ => isTrue trivial
  | .other text => inferInstanceAs (Decidable (readNumber text.toList = some (.other text, [])))

mutual

/-- A value whose text can be read. -/
def Legible : JsValue → Prop
  | .undefined => False
  | .number number => LegibleNumber number
  | .array elements => LegibleElements elements
  | .object members => LegibleMembers members
  | _ => True

def LegibleElements : List JsValue → Prop
  | [] => True
  | element :: elements => Legible element ∧ LegibleElements elements

def LegibleMembers : List (CodeUnits × JsValue) → Prop
  | [] => True
  | (_, value) :: members => Legible value ∧ LegibleMembers members

end

mutual

theorem Printable.legible : (value : JsValue) → Printable value → Legible value
  | .null, _ => trivial
  | .bool _, _ => trivial
  | .number (.natural _), _ => trivial
  | .string _, _ => trivial
  | .array elements, h => PrintableElements.legible elements h
  | .object members, h => PrintableMembers.legible members h

theorem PrintableElements.legible :
    (elements : List JsValue) → PrintableElements elements → LegibleElements elements
  | [], _ => trivial
  | element :: elements, h =>
      ⟨Printable.legible element h.1, PrintableElements.legible elements h.2⟩

theorem PrintableMembers.legible :
    (members : List (CodeUnits × JsValue)) → PrintableMembers members → LegibleMembers members
  | [], _ => trivial
  | (_, value) :: members, h =>
      ⟨Printable.legible value h.1, PrintableMembers.legible members h.2⟩

end

theorem skipSpace_cons {character : Char} (hspace : isSpace character = false)
    (rest : List Char) : skipSpace (character :: rest) = character :: rest := by
  rw [skipSpace, List.dropWhile_cons_of_neg (by rw [hspace]; exact Bool.false_ne_true)]

/-- A digit is none of the characters a reading looks for first. -/
theorem ne_of_isDigit {digit other : Char} (hdigit : digit.isDigit = true)
    (hother : other.isDigit = false) : digit ≠ other := by
  rintro rfl
  rw [hother] at hdigit
  cases hdigit

theorem isSpace_of_isDigit {digit : Char} (hdigit : digit.isDigit = true) :
    isSpace digit = false := by
  have hcode : ∀ code, (Char.ofNat code).isDigit = false → digit.toNat ≠ code := by
    rintro code hother rfl
    rw [Char.ofNat_toNat, hdigit] at hother
    cases hother
  simp only [isSpace, Bool.or_eq_false_iff, decide_eq_false_iff_not]
  exact ⟨⟨⟨ne_of_isDigit hdigit rfl, hcode 9 rfl⟩, hcode 10 rfl⟩, hcode 13 rfl⟩

/-- A number starts with a digit or a sign. -/
theorem readNumber_head {characters : List Char} {number : JsNumber} {tail : List Char}
    (h : readNumber characters = some (number, tail)) :
    ∃ first rest, characters = first :: rest ∧ (first.isDigit = true ∨ first = '-') := by
  cases characters with
  | nil => cases h
  | cons first rest =>
      refine ⟨first, rest, rfl, ?_⟩
      by_cases hsign : first = '-'
      · exact Or.inr hsign
      · left
        have hunsigned : readSign ['-'] (first :: rest) = ([], first :: rest) :=
          if_neg (by simpa using hsign)
        by_cases hdigit : first.isDigit = true
        · exact hdigit
        · have hnone : readDigits (first :: rest) = ([], first :: rest) := by
            rw [readDigits, List.takeWhile_cons_of_neg hdigit, List.dropWhile_cons_of_neg hdigit]
          simp only [readNumber, hunsigned, hnone] at h
          cases h

/-- The text of a legible number is read back. -/
theorem readNumber_print {number : JsNumber} (hlegible : LegibleNumber number) {rest : List Char}
    (hends : EndsNumber rest) : readNumber (printNumber number ++ rest) = some (number, rest) := by
  cases number with
  | natural value => exact readNumber_natural value hends
  | other text => exact readNumber_extend hlegible hends

theorem printNumber_head {number : JsNumber} (hlegible : LegibleNumber number) :
    ∃ first rest, printNumber number = first :: rest ∧
      (first.isDigit = true ∨ first = '-') := by
  have hends : EndsNumber [] := fun _ h => absurd h (by simp)
  have hread := readNumber_print hlegible hends
  rw [List.append_nil] at hread
  exact readNumber_head hread

/-- The first character of a number is none of those a reading looks for. -/
theorem numberHead_ne {first : Char} (hfirst : first.isDigit = true ∨ first = '-') :
    isSpace first = false ∧ ∀ other : Char, other.isDigit = false → other ≠ '-' →
      first ≠ other := by
  rcases hfirst with hdigit | rfl
  · exact ⟨isSpace_of_isDigit hdigit, fun other hother _ => ne_of_isDigit hdigit hother⟩
  · exact ⟨by decide, fun other _ hother heq => hother heq.symm⟩

/-- The text of a value starts with a character that is no space and closes nothing. -/
theorem print_head {value : JsValue} (hlegible : Legible value) :
    ∃ first rest, print value = first :: rest ∧ isSpace first = false ∧ first ≠ ']' := by
  cases value with
  | undefined => exact absurd hlegible id
  | null => exact ⟨_, _, rfl, by decide, by decide⟩
  | bool value =>
      cases value with
      | false => exact ⟨_, _, rfl, by decide, by decide⟩
      | true => exact ⟨_, _, rfl, by decide, by decide⟩
  | number number =>
      obtain ⟨first, rest, hprint, hfirst⟩ := printNumber_head hlegible
      obtain ⟨hspace, hne⟩ := numberHead_ne hfirst
      refine ⟨first, rest, ?_, hspace, hne ']' rfl (by decide)⟩
      rw [print, hprint]
  | string units => exact ⟨_, _, rfl, by decide, by decide⟩
  | array elements =>
      cases elements with
      | nil => exact ⟨_, _, rfl, by decide, by decide⟩
      | cons element elements => exact ⟨_, _, rfl, by decide, by decide⟩
  | object members =>
      cases members with
      | nil => exact ⟨_, _, rfl, by decide, by decide⟩
      | cons member members => exact ⟨_, _, rfl, by decide, by decide⟩

theorem endsNumber_elements (elements : List JsValue) (rest : List Char) :
    EndsNumber (printElements elements ++ rest) := by
  intro character hcharacter
  cases elements with
  | nil =>
      cases hcharacter
      decide
  | cons element elements =>
      cases hcharacter
      decide

theorem endsNumber_members (members : List (CodeUnits × JsValue)) (rest : List Char) :
    EndsNumber (printMembers members ++ rest) := by
  intro character hcharacter
  cases members with
  | nil =>
      cases hcharacter
      decide
  | cons member members =>
      cases hcharacter
      decide

/-- A number is a scalar. -/
theorem readValue_number (fuel : ℕ) {number : JsNumber} (hlegible : LegibleNumber number)
    {rest : List Char} (hends : EndsNumber rest) :
    readValue (fuel + 1) (printNumber number ++ rest) = some (.number number, rest) := by
  have hread := readNumber_print hlegible hends
  obtain ⟨first, others, hprint, hfirst⟩ := printNumber_head hlegible
  obtain ⟨hspace, hne⟩ := numberHead_ne hfirst
  have hplain : ∀ other : Char, other.isDigit = false → other ≠ '-' → ∀ found left : List Char,
      first :: found ≠ other :: left := fun other hother hsign found left heq =>
    hne other hother hsign (List.cons.inj heq).1
  have hscalar : readScalar (first :: others ++ rest) =
      (readNumber (first :: others ++ rest)).map fun read => (.number read.1, read.2) := by
    rw [List.cons_append, readScalar]
    · exact fun _ => hplain 'n' rfl (by decide) _ _
    · exact fun _ => hplain 't' rfl (by decide) _ _
    · exact fun _ => hplain 'f' rfl (by decide) _ _
  rw [hprint] at hread ⊢
  rw [readValue, List.cons_append, skipSpace_cons hspace]
  split
  · next h => exact absurd h (hplain '"' rfl (by decide) _ _)
  · next h => exact absurd h (hplain '[' rfl (by decide) _ _)
  · next h => exact absurd h (hplain '{' rfl (by decide) _ _)
  · rw [← List.cons_append, hscalar, hread]
    rfl

/-- Values, the elements of an array and the members of an object are read back from their texts.
The induction is on the fuel, as the reading goes. -/
theorem read_legible (fuel : ℕ) :
    (∀ value rest, Legible value → 2 * (print value).length ≤ fuel → EndsNumber rest →
      readValue fuel (print value ++ rest) = some (value, rest)) ∧
    (∀ element elements rest, Legible element → LegibleElements elements →
      2 * (print element ++ printElements elements).length + 1 ≤ fuel →
      readElements fuel (print element ++ printElements elements ++ rest) =
        some (element :: elements, rest)) ∧
    (∀ key value members rest, Legible value → LegibleMembers members →
      2 * (quote key ++ ':' :: (print value ++ printMembers members)).length + 1 ≤ fuel →
      readMembers fuel (quote key ++ ':' :: (print value ++ printMembers members) ++ rest) =
        some ((key, value) :: members, rest)) := by
  induction fuel with
  | zero =>
      refine ⟨?_, ?_, ?_⟩
      · intro value rest hlegible hfuel
        obtain ⟨first, others, hprint, -⟩ := print_head hlegible
        simp [hprint] at hfuel
      · intro element elements rest _ _ hfuel
        omega
      · intro key value members rest _ _ hfuel
        omega
  | succ fuel ih =>
      obtain ⟨hvalues, helements, hmembers⟩ := ih
      refine ⟨?_, ?_, ?_⟩
      · intro value rest hlegible hfuel hends
        cases value with
        | undefined => exact absurd hlegible id
        | null => rfl
        | bool value =>
            cases value with
            | false => rfl
            | true => rfl
        | number number => exact readValue_number fuel hlegible hends
        | string units =>
            obtain ⟨body, hbody, hread⟩ := readString_quote units rest
            rw [print, hbody, readValue, skipSpace_cons (by decide)]
            show (readString body).map _ = _
            rw [hread]
            rfl
        | array elements =>
            cases elements with
            | nil => rfl
            | cons element elements =>
                obtain ⟨first, others, hfirst, hspace, hclose⟩ := print_head hlegible.1
                have hread := helements element elements rest hlegible.1 hlegible.2 (by
                  simp only [print, List.length_cons, List.length_append] at hfuel ⊢
                  omega)
                rw [print, List.cons_append, readValue, skipSpace_cons (by decide)]
                rw [hfirst, List.cons_append, List.cons_append] at hread ⊢
                simp only [skipSpace_cons hspace]
                split
                · next h => exact absurd (List.cons.inj h).1 hclose
                · rw [hread]
                  rfl
        | object members =>
            cases members with
            | nil => rfl
            | cons member members =>
                obtain ⟨key, value⟩ := member
                have hread := hmembers key value members rest hlegible.1 hlegible.2 (by
                  simp only [print, List.length_cons, List.length_append] at hfuel ⊢
                  omega)
                rw [print, List.cons_append, readValue, skipSpace_cons (by decide)]
                have hquote : isSpace '"' = false := by decide
                simp only [quote, List.cons_append, skipSpace_cons hquote] at hread ⊢
                show (readMembers fuel _).map _ = _
                rw [hread]
                rfl
      · intro element elements rest helement hrest hfuel
        have hlength : 2 * (print element).length ≤ fuel := by
          simp only [List.length_append] at hfuel
          omega
        rw [readElements, List.append_assoc,
          hvalues element _ helement hlength (endsNumber_elements elements rest)]
        cases elements with
        | nil => rfl
        | cons next elements =>
            have hread := helements next elements rest hrest.1 hrest.2 (by
              simp only [printElements, List.length_cons, List.length_append] at hfuel ⊢
              omega)
            have hcomma : isSpace ',' = false := by decide
            simp only [printElements, List.cons_append, skipSpace_cons hcomma]
            rw [hread]
            rfl
      · intro key value members rest hvalue hrest hfuel
        have hlength : 2 * (print value).length ≤ fuel := by
          simp only [List.length_append, List.length_cons] at hfuel
          omega
        obtain ⟨body, hbody, hkey⟩ := readString_quote key
          (':' :: (print value ++ (printMembers members ++ rest)))
        have hread := hvalues value _ hvalue hlength (endsNumber_members members rest)
        have htext : quote key ++ ':' :: (print value ++ printMembers members) ++ rest =
            '"' :: body := by
          rw [← hbody, List.append_assoc, List.cons_append, List.append_assoc]
        rw [readMembers, htext, skipSpace_cons (by decide)]
        have hcolon : isSpace ':' = false := by decide
        simp only [hkey, skipSpace_cons hcolon, hread]
        cases members with
        | nil => rfl
        | cons member members =>
            obtain ⟨other, held⟩ := member
            have hothers := hmembers other held members rest hrest.1 hrest.2 (by
              simp only [printMembers, List.length_cons, List.length_append] at hfuel ⊢
              omega)
            have hcomma : isSpace ',' = false := by decide
            simp only [printMembers, List.cons_append, skipSpace_cons hcomma]
            rw [hothers]
            rfl

/-- The same of values that say all there is of them. -/
theorem read_print (fuel : ℕ) :
    (∀ value rest, Printable value → 2 * (print value).length ≤ fuel → EndsNumber rest →
      readValue fuel (print value ++ rest) = some (value, rest)) ∧
    (∀ element elements rest, Printable element → PrintableElements elements →
      2 * (print element ++ printElements elements).length + 1 ≤ fuel →
      readElements fuel (print element ++ printElements elements ++ rest) =
        some (element :: elements, rest)) ∧
    (∀ key value members rest, Printable value → PrintableMembers members →
      2 * (quote key ++ ':' :: (print value ++ printMembers members)).length + 1 ≤ fuel →
      readMembers fuel (quote key ++ ':' :: (print value ++ printMembers members) ++ rest) =
        some ((key, value) :: members, rest)) := by
  obtain ⟨hvalues, helements, hmembers⟩ := read_legible fuel
  refine ⟨?_, ?_, ?_⟩
  · intro value rest hvalue
    exact hvalues value rest hvalue.legible
  · intro element elements rest helement hrest
    exact helements element elements rest helement.legible hrest.legible
  · intro key value members rest hvalue hrest
    exact hmembers key value members rest hvalue.legible hrest.legible

/-- A legible value is read back, up to names an object has twice. -/
theorem parse_legible {value : JsValue} (hlegible : Legible value) :
    parse (String.ofList (print value)) = some (settle value) := by
  have hread := (read_legible (2 * (print value).length + 2)).1 value [] hlegible (by omega)
    (fun _ h => absurd h (by simp))
  rw [List.append_nil] at hread
  simp only [parse, String.toList_ofList, hread]
  rfl

/-- A printed value is read back as it is. -/
theorem readText_print {value : JsValue} (hprintable : Printable value) :
    readText (String.ofList (print value)) = some value := by
  have hread := (read_print (2 * (print value).length + 2)).1 value [] hprintable (by omega)
    (fun _ h => absurd h (by simp))
  rw [List.append_nil] at hread
  simp only [readText, String.toList_ofList, hread]
  rfl

/-- A printed value is read back, up to names an object has twice. -/
theorem parse_print {value : JsValue} (hprintable : Printable value) :
    parse (String.ofList (print value)) = some (settle value) :=
  parse_legible hprintable.legible

mutual

/-- No object of the value has a name twice. -/
def Settled : JsValue → Prop
  | .array elements => SettledElements elements
  | .object members => (members.map Prod.fst).Nodup ∧ SettledMembers members
  | _ => True

def SettledElements : List JsValue → Prop
  | [] => True
  | element :: elements => Settled element ∧ SettledElements elements

def SettledMembers : List (CodeUnits × JsValue) → Prop
  | [] => True
  | (_, value) :: members => Settled value ∧ SettledMembers members

end

theorem legibleElements_iff {elements : List JsValue} :
    LegibleElements elements ↔ ∀ element ∈ elements, Legible element := by
  induction elements with
  | nil => simp [LegibleElements]
  | cons element elements ih => simp [LegibleElements, ih]

theorem legibleMembers_iff {members : List (CodeUnits × JsValue)} :
    LegibleMembers members ↔ ∀ member ∈ members, Legible member.2 := by
  induction members with
  | nil => simp [LegibleMembers]
  | cons member members ih => simp [LegibleMembers, ih]

theorem settledElements_iff {elements : List JsValue} :
    SettledElements elements ↔ ∀ element ∈ elements, Settled element := by
  induction elements with
  | nil => simp [SettledElements]
  | cons element elements ih => simp [SettledElements, ih]

theorem settledMembers_iff {members : List (CodeUnits × JsValue)} :
    SettledMembers members ↔ ∀ member ∈ members, Settled member.2 := by
  induction members with
  | nil => simp [SettledMembers]
  | cons member members ih => simp [SettledMembers, ih]

/-- A member of a new name comes last. -/
theorem setMember_new {key : CodeUnits} {value : JsValue} {members : List (CodeUnits × JsValue)}
    (hnew : key ∉ members.map Prod.fst) : setMember key value members = members ++ [(key, value)] := by
  induction members with
  | nil => rfl
  | cons member members ih =>
      obtain ⟨other, held⟩ := member
      rw [List.map_cons, List.mem_cons, not_or] at hnew
      rw [setMember, if_neg fun heq => hnew.1 heq.symm, ih hnew.2, List.cons_append]

theorem setMembers_settled (settled members : List (CodeUnits × JsValue))
    (hnodup : ((settled ++ members).map Prod.fst).Nodup) :
    members.foldl (fun settled member => setMember member.1 member.2 settled) settled =
      settled ++ members := by
  induction members generalizing settled with
  | nil => rw [List.foldl_nil, List.append_nil]
  | cons member members ih =>
      have hnew : member.1 ∉ settled.map Prod.fst := by
        rw [List.map_append, List.map_cons] at hnodup
        exact fun hmem => (List.nodup_append.mp hnodup).2.2 _ hmem _ List.mem_cons_self rfl
      have hsplit : settled ++ member :: members = settled ++ [member] ++ members := by
        rw [List.append_assoc, List.singleton_append]
      rw [hsplit] at hnodup ⊢
      rw [List.foldl_cons, setMember_new hnew]
      exact ih _ hnodup

mutual

/-- Such a value is its own settled form. -/
theorem settle_of_settled : (value : JsValue) → Settled value → settle value = value
  | .undefined, _ => rfl
  | .null, _ => rfl
  | .bool _, _ => rfl
  | .number _, _ => rfl
  | .string _, _ => rfl
  | .array elements, h => by
      rw [settle, settleElements_of_settled elements h]
  | .object members, h => by
      rw [settle, settleMembers_of_settled members h.2]
      exact congrArg JsValue.object (setMembers_settled [] members h.1)

theorem settleElements_of_settled :
    (elements : List JsValue) → SettledElements elements → settleElements elements = elements
  | [], _ => rfl
  | element :: elements, h => by
      rw [settleElements, settle_of_settled element h.1, settleElements_of_settled elements h.2]

theorem settleMembers_of_settled : (members : List (CodeUnits × JsValue)) →
    SettledMembers members → settleMembers members = members
  | [], _ => rfl
  | (key, value) :: members, h => by
      rw [settleMembers, settle_of_settled value h.1, settleMembers_of_settled members h.2]

end

/-- The text of a value tells which value it is. -/
theorem print_injective {first second : JsValue} (hfirst : Printable first)
    (hsecond : Printable second) (h : print first = print second) : first = second := by
  have hread := (read_print (2 * (print first).length)).1 first [] hfirst
    (Nat.le_refl _)
    (fun _ h => absurd h (by simp))
  have hother := (read_print (2 * (print first).length)).1 second [] hsecond
    (Nat.le_of_eq (by rw [h]))
    (fun _ h => absurd h (by simp))
  rw [← h, hread] at hother
  exact congrArg Prod.fst (Option.some.inj hother)

/-! ## What of data its text keeps -/

/-- A number that has no text of its own. -/
def isNonFinite : JsNumber → Bool
  | .natural _ => false
  | .other text => text == "NaN" || text == "Infinity" || text == "-Infinity"

mutual

/-- The value the text of `JSON.stringify` stands for: a member without a value is left out, and
an element without one and a number that is not finite are null. -/
def jsonValue : JsValue → JsValue
  | .undefined => .null
  | .number number => if isNonFinite number then .null else .number number
  | .array elements => .array (jsonElements elements)
  | .object members => .object (jsonMembers members)
  | value => value

def jsonElements : List JsValue → List JsValue
  | [] => []
  | element :: elements => jsonValue element :: jsonElements elements

def jsonMembers : List (CodeUnits × JsValue) → List (CodeUnits × JsValue)
  | [] => []
  | (_, .undefined) :: members => jsonMembers members
  | (key, value) :: members => (key, jsonValue value) :: jsonMembers members

end

/-- `JSON.stringify`; what has no value has no text either. -/
def maybeStringify : JsValue → Option (List Char)
  | .undefined => none
  | value => some (print (jsonValue value))

mutual

/-- Data JavaScript has: its numbers are read as they are written unless they are not finite, and
no object has a name twice. -/
def Proper : JsValue → Prop
  | .number number => isNonFinite number = true ∨ LegibleNumber number
  | .array elements => ProperElements elements
  | .object members => (members.map Prod.fst).Nodup ∧ ProperMembers members
  | _ => True

def ProperElements : List JsValue → Prop
  | [] => True
  | element :: elements => Proper element ∧ ProperElements elements

def ProperMembers : List (CodeUnits × JsValue) → Prop
  | [] => True
  | (_, value) :: members => Proper value ∧ ProperMembers members

end

/-- Nothing of a name comes into what is kept. -/
theorem jsonMembers_keys (members : List (CodeUnits × JsValue)) :
    ((jsonMembers members).map Prod.fst).Sublist (members.map Prod.fst) := by
  induction members with
  | nil => exact List.Sublist.slnil
  | cons member members ih =>
      obtain ⟨key, value⟩ := member
      cases value with
      | undefined => exact ih.cons key
      | null => exact ih.cons_cons key
      | bool flag => exact ih.cons_cons key
      | number number => exact ih.cons_cons key
      | string units => exact ih.cons_cons key
      | array elements => exact ih.cons_cons key
      | object inner => exact ih.cons_cons key

mutual

/-- What is kept of data is read back as it is. -/
theorem jsonValue_proper : (value : JsValue) → Proper value →
    Legible (jsonValue value) ∧ Settled (jsonValue value)
  | .undefined, _ => ⟨trivial, trivial⟩
  | .null, _ => ⟨trivial, trivial⟩
  | .bool _, _ => ⟨trivial, trivial⟩
  | .number number, h => by
      rw [jsonValue]
      by_cases hfinite : isNonFinite number = true
      · rw [if_pos hfinite]
        exact ⟨trivial, trivial⟩
      · rw [if_neg hfinite]
        exact ⟨h.resolve_left hfinite, trivial⟩
  | .string _, _ => ⟨trivial, trivial⟩
  | .array elements, h => jsonElements_proper elements h
  | .object members, h => by
      obtain ⟨hlegible, hsettled⟩ := jsonMembers_proper members h.2
      exact ⟨hlegible, (jsonMembers_keys members).nodup h.1, hsettled⟩

theorem jsonElements_proper : (elements : List JsValue) → ProperElements elements →
    LegibleElements (jsonElements elements) ∧ SettledElements (jsonElements elements)
  | [], _ => ⟨trivial, trivial⟩
  | element :: elements, h => by
      obtain ⟨hlegible, hsettled⟩ := jsonValue_proper element h.1
      obtain ⟨hlegibles, hsettleds⟩ := jsonElements_proper elements h.2
      exact ⟨⟨hlegible, hlegibles⟩, hsettled, hsettleds⟩

theorem jsonMembers_proper : (members : List (CodeUnits × JsValue)) → ProperMembers members →
    LegibleMembers (jsonMembers members) ∧ SettledMembers (jsonMembers members)
  | [], _ => ⟨trivial, trivial⟩
  | (key, value) :: members, h => by
      obtain ⟨hlegible, hsettled⟩ := jsonValue_proper value h.1
      obtain ⟨hlegibles, hsettleds⟩ := jsonMembers_proper members h.2
      cases value with
      | undefined => exact ⟨hlegibles, hsettleds⟩
      | null => exact ⟨⟨hlegible, hlegibles⟩, hsettled, hsettleds⟩
      | bool flag => exact ⟨⟨hlegible, hlegibles⟩, hsettled, hsettleds⟩
      | number number => exact ⟨⟨hlegible, hlegibles⟩, hsettled, hsettleds⟩
      | string units => exact ⟨⟨hlegible, hlegibles⟩, hsettled, hsettleds⟩
      | array elements => exact ⟨⟨hlegible, hlegibles⟩, hsettled, hsettleds⟩
      | object inner => exact ⟨⟨hlegible, hlegibles⟩, hsettled, hsettleds⟩

end

/-- What is not undefined is kept as something that is not. -/
theorem jsonMembers_cons {key : CodeUnits} {value : JsValue} {members : List (CodeUnits × JsValue)}
    (hdefined : value ≠ .undefined) :
    jsonMembers ((key, value) :: members) = (key, jsonValue value) :: jsonMembers members := by
  cases value with
  | undefined => exact absurd rfl hdefined
  | null => rfl
  | bool flag => rfl
  | number number => rfl
  | string units => rfl
  | array elements => rfl
  | object inner => rfl

theorem jsonValue_ne_undefined (value : JsValue) : jsonValue value ≠ .undefined := by
  cases value with
  | number number =>
      rw [jsonValue]
      split
      · exact nofun
      · exact nofun
  | undefined => exact nofun
  | null => exact nofun
  | bool flag => exact nofun
  | string units => exact nofun
  | array elements => exact nofun
  | object members => exact nofun

mutual

/-- Nothing more is lost a second time. -/
theorem jsonValue_idem : (value : JsValue) → jsonValue (jsonValue value) = jsonValue value
  | .undefined => rfl
  | .null => rfl
  | .bool _ => rfl
  | .number number => by
      rw [jsonValue]
      by_cases hfinite : isNonFinite number = true
      · rw [if_pos hfinite]
        rfl
      · rw [if_neg hfinite, jsonValue, if_neg hfinite]
  | .string _ => rfl
  | .array elements => by
      rw [jsonValue, jsonValue, jsonElements_idem elements]
  | .object members => by
      rw [jsonValue, jsonValue, jsonMembers_idem members]

theorem jsonElements_idem :
    (elements : List JsValue) → jsonElements (jsonElements elements) = jsonElements elements
  | [] => rfl
  | element :: elements => by
      rw [jsonElements, jsonElements, jsonValue_idem element, jsonElements_idem elements]

theorem jsonMembers_idem : (members : List (CodeUnits × JsValue)) →
    jsonMembers (jsonMembers members) = jsonMembers members
  | [] => rfl
  | (key, value) :: members => by
      by_cases hdefined : value = .undefined
      · subst hdefined
        exact jsonMembers_idem members
      · rw [jsonMembers_cons hdefined, jsonMembers_cons (jsonValue_ne_undefined value),
          jsonValue_idem value, jsonMembers_idem members]

end

/-- So parsing the text of data gives what is kept of it. -/
theorem parse_jsonValue {value : JsValue} (hproper : Proper value) :
    parse (String.ofList (print (jsonValue value))) = some (jsonValue value) := by
  obtain ⟨hlegible, hsettled⟩ := jsonValue_proper value hproper
  rw [parse_legible hlegible, settle_of_settled _ hsettled]

end JsonText

end WorkGate.Library
