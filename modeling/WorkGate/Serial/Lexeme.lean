/-
# Reading an envelope out of its text (web/worker-serial-lexeme.ts)

The text of an envelope is read as JSON and once more character by character, for what the first
reading loses: a name given twice, and which characters the payload was written with.  A text that
was printed passes the second reading as well, and its payload is the one that was printed.
-/

import Mathlib.Data.Int.Notation
import WorkGate.Library.JsonText

namespace WorkGate

open WorkGate.Library WorkGate.Library.JsonText

/-! ## The reading -/

/-- `wellFormed`: no half of a pair stands alone. -/
def wellFormed : CodeUnits → Bool
  | [] => true
  | [unit] => !CodeUnits.isLowSurrogate unit && !CodeUnits.isHighSurrogate unit
  | unit :: low :: rest =>
      if CodeUnits.isLowSurrogate unit then false
      else if CodeUnits.isHighSurrogate unit then CodeUnits.isLowSurrogate low && wellFormed rest
      else wellFormed (low :: rest)

mutual

/-- What the reading of the JSON asks of every name and text of a value. -/
def allWellFormed : JsValue → Bool
  | .string units => wellFormed units
  | .array elements => allWellFormedElements elements
  | .object members => allWellFormedMembers members
  | _ => true

def allWellFormedElements : List JsValue → Bool
  | [] => true
  | element :: elements => allWellFormed element && allWellFormedElements elements

def allWellFormedMembers : List (CodeUnits × JsValue) → Bool
  | [] => true
  | (key, value) :: members => wellFormed key && allWellFormed value && allWellFormedMembers members

end

/-- `/\\s/u`. -/
def isWhitespace (character : Char) : Bool :=
  let code := character.toNat
  (9 ≤ code && code ≤ 13) || (0x2000 ≤ code && code ≤ 0x200A) ||
    [0x20, 0xA0, 0x1680, 0x2028, 0x2029, 0x202F, 0x205F, 0x3000, 0xFEFF].contains code

/-- `whitespace`, as what is left of the text. -/
def skipWhitespace (text : List Char) : List Char := text.dropWhile isWhitespace

/-- The rest of a string behind its opening quote: what belongs to it and what is left. -/
def stringTail : List Char → Option (List Char × List Char)
  | [] => none
  | '"' :: rest => some (['"'], rest)
  | '\\' :: escaped :: rest =>
      (stringTail rest).map fun found => ('\\' :: escaped :: found.1, found.2)
  | character :: rest => (stringTail rest).map fun found => (character :: found.1, found.2)

/-- `stringEnd`. -/
def stringEnd : List Char → Option (List Char × List Char)
  | '"' :: rest => (stringTail rest).map fun found => ('"' :: found.1, found.2)
  | _ => none

/-- `valueEnd`: the value and what is left.  A string inside it is passed over as a whole, as many
characters as it is long. -/
def valueEnd (depth : ℤ) : ℕ → List Char → Option (List Char × List Char)
  | _, [] => none
  | skipped + 1, character :: rest =>
      (valueEnd depth skipped rest).map fun found => (character :: found.1, found.2)
  | 0, character :: rest =>
      if character = '"' then
        match stringTail rest with
        | none => none
        | some (body, _) =>
            (valueEnd depth body.length rest).map fun found => (character :: found.1, found.2)
      else if depth = 0 ∧ (character = ',' ∨ character = '}') then some ([], character :: rest)
      else
        let opened := if character = '{' ∨ character = '[' then depth + 1 else depth
        let closed := if character = '}' ∨ character = ']' then opened - 1 else opened
        (valueEnd closed 0 rest).map fun found => (character :: found.1, found.2)

/-- What is left of a value without the whitespace behind it. -/
def trimEnd (text : List Char) : List Char := (text.reverse.dropWhile isWhitespace).reverse

/-- The bytes of a text. -/
def textBytes (text : List Char) : List UInt8 := asBytes (String.ofList text)

/-- The name `payload`. -/
def payloadKey : CodeUnits := CodeUnits.ofString "payload"

/-- The members one after the other, with the bytes the last payload was written with. -/
def scanMembers : ℕ → List CodeUnits → List UInt8 → List Char → Option (List UInt8)
  | 0, _, _, _ => none
  | fuel + 1, keys, payloadUtf8, text =>
      if text.head? = some '}' ∨ (skipWhitespace text).head? = some '}' then some payloadUtf8
      else do
        let (quoted, rest) ← stringEnd (skipWhitespace text)
        let .string key ← parse (String.ofList quoted) | none
        if key ∈ keys then none
        else match skipWhitespace rest with
          | ':' :: rest => do
              let (found, rest) ← valueEnd 0 0 (skipWhitespace rest)
              let payloadUtf8 :=
                if key = payloadKey then textBytes (trimEnd found) else payloadUtf8
              match rest with
              | '}' :: _ => some payloadUtf8
              | ',' :: rest => scanMembers fuel (key :: keys) payloadUtf8 rest
              | _ => none
          | _ => none

/-- What `parseWorkerSerialJson` gives; `payloadBytes` is the length of the bytes. -/
structure SerialJson where
  value : JsValue
  payloadUtf8 : List UInt8

/-- `parseWorkerSerialJson`.  Every failure is the same error. -/
def parseWorkerSerialJson (text : List Char) : Option SerialJson := do
  let value ← parse (String.ofList text)
  guard (allWellFormed value)
  match skipWhitespace text with
  | '{' :: rest => do
      let payloadUtf8 ← scanMembers (rest.length + 1) [] [] rest
      return { value := value, payloadUtf8 := payloadUtf8 }
  | _ => none

/-- `hasMalformedSerialJsonSyntax`. -/
def hasMalformedSerialJsonSyntax (text : List Char) : Bool := (parse (String.ofList text)).isNone

/-! ## Numbers -/

/-- What the text of a number is made of. -/
def isNumberCharacter (character : Char) : Bool :=
  character.isDigit || ['-', '+', '.', 'e', 'E'].contains character

theorem isNumberCharacter_of_isDigit {character : Char} (hdigit : character.isDigit = true) :
    isNumberCharacter character = true := by
  rw [isNumberCharacter, hdigit, Bool.true_or]

theorem readDigits_characters {characters digits tail : List Char}
    (h : readDigits characters = (digits, tail)) :
    ∀ character ∈ digits, isNumberCharacter character = true := by
  intro character hcharacter
  rw [readDigits] at h
  cases h
  exact isNumberCharacter_of_isDigit
    (List.all_eq_true.mp List.all_takeWhile character hcharacter)

theorem readSign_characters {signs characters : List Char}
    (hsigns : ∀ sign ∈ signs, isNumberCharacter sign = true) :
    ∀ character ∈ (readSign signs characters).1, isNumberCharacter character = true := by
  intro character hcharacter
  cases characters with
  | nil => cases hcharacter
  | cons first rest =>
      rw [readSign] at hcharacter
      split at hcharacter
      · next hsign =>
          rw [List.mem_singleton] at hcharacter
          rw [hcharacter]
          exact hsigns first hsign
      · cases hcharacter

theorem readFraction_characters {characters fraction tail : List Char}
    (h : readFraction characters = some (fraction, tail)) :
    ∀ character ∈ fraction, isNumberCharacter character = true := by
  rw [readFraction.eq_def] at h
  split at h
  · split at h
    · cases h
    · next digits rest hread =>
        cases h
        intro character hcharacter
        rcases List.mem_cons.mp hcharacter with rfl | hdigit
        · decide
        · exact readDigits_characters hread character hdigit
  · cases h
    exact fun _ hcharacter => absurd hcharacter List.not_mem_nil

theorem readExponent_characters {characters exponent tail : List Char}
    (h : readExponent characters = some (exponent, tail)) :
    ∀ character ∈ exponent, isNumberCharacter character = true := by
  cases characters with
  | nil =>
      cases h
      exact fun _ hcharacter => absurd hcharacter List.not_mem_nil
  | cons mark rest =>
      rw [readExponent] at h
      split at h
      · next hmark =>
          simp only at h
          split at h
          · cases h
          · next digits left hread =>
              cases h
              intro character hcharacter
              rcases List.mem_cons.mp hcharacter with rfl | hcharacter
              · rcases hmark with rfl | rfl
                · decide
                · decide
              · rcases List.mem_append.mp hcharacter with hsign | hdigit
                · exact readSign_characters (forall_mem_of_all (by decide)) character hsign
                · exact readDigits_characters hread character hdigit
      · cases h
        exact fun _ hcharacter => absurd hcharacter List.not_mem_nil

theorem readNumber_characters {characters tail : List Char} {text : String}
    (h : readNumber characters = some (.other text, tail)) :
    ∀ character ∈ text.toList, isNumberCharacter character = true := by
  simp only [readNumber] at h
  split at h
  · cases h
  · next digit digits left hread =>
      split at h
      · cases h
      cases hfraction : readFraction left with
      | none =>
          rw [hfraction] at h
          cases h
      | some fraction =>
          obtain ⟨fraction, left⟩ := fraction
          rw [hfraction] at h
          simp only at h
          cases hexponent : readExponent left with
          | none =>
              rw [hexponent] at h
              cases h
          | some exponent =>
              obtain ⟨exponent, left⟩ := exponent
              rw [hexponent] at h
              simp only at h
              split at h
              · cases h
              · cases h
                intro character hcharacter
                rw [String.toList_ofList, List.append_assoc, List.append_assoc] at hcharacter
                rcases List.mem_append.mp hcharacter with hsign | hcharacter
                · exact readSign_characters (forall_mem_of_all (by decide)) character hsign
                rcases List.mem_append.mp hcharacter with hdigit | hcharacter
                · exact readDigits_characters hread character hdigit
                rcases List.mem_append.mp hcharacter with hpoint | hmark
                · exact readFraction_characters hfraction character hpoint
                · exact readExponent_characters hexponent character hmark

theorem printNumber_characters {number : JsNumber} (hlegible : LegibleNumber number) :
    ∀ character ∈ printNumber number, isNumberCharacter character = true := by
  cases number with
  | other text => exact readNumber_characters hlegible
  | natural value =>
      intro character hcharacter
      rw [printNumber, Nat.toList_repr] at hcharacter
      exact isNumberCharacter_of_isDigit
        (Nat.isDigit_of_mem_toDigits (by decide) (by decide) hcharacter)

/-! ## Strings -/

theorem stringTail_plain {character : Char} (hquote : character ≠ '"')
    (hbackslash : character ≠ '\\') (rest : List Char) :
    stringTail (character :: rest) =
      (stringTail rest).map fun found => (character :: found.1, found.2) := by
  rw [stringTail]
  · exact fun heq => absurd heq hquote
  · exact fun _ _ heq => absurd heq hbackslash

theorem ne_of_hexValue {character : Char} {value : ℕ} (h : hexValue character = some value) :
    character ≠ '"' ∧ character ≠ '\\' := by
  constructor
  · rintro rfl
    cases h
  · rintro rfl
    cases h

theorem stringTail_hexUnit (unit : UInt16) (rest : List Char) :
    stringTail ('\\' :: 'u' :: (hexUnit unit ++ rest)) =
      (stringTail rest).map fun found =>
        ('\\' :: 'u' :: hexUnit unit ++ found.1, found.2) := by
  obtain ⟨first, second, third, fourth, hdigits, hread⟩ := readHexUnit_hexUnit unit rest
  have hunit : hexUnit unit = [first, second, third, fourth] :=
    List.append_cancel_right hdigits
  simp only [readHexUnit, Option.bind_eq_bind, Option.bind_eq_some_iff] at hread
  obtain ⟨_, hfirst, _, hsecond, _, hthird, _, hfourth, -⟩ := hread
  rw [hdigits, stringTail, stringTail_plain (ne_of_hexValue hfirst).1 (ne_of_hexValue hfirst).2,
    stringTail_plain (ne_of_hexValue hsecond).1 (ne_of_hexValue hsecond).2,
    stringTail_plain (ne_of_hexValue hthird).1 (ne_of_hexValue hthird).2,
    stringTail_plain (ne_of_hexValue hfourth).1 (ne_of_hexValue hfourth).2, hunit]
  cases stringTail rest with
  | none => rfl
  | some found => rfl

theorem stringTail_escape (piece : CodeUnits.Piece) (rest : List Char) :
    stringTail (escape piece ++ rest) =
      (stringTail rest).map fun found => (escape piece ++ found.1, found.2) := by
  cases piece with
  | lone unit => exact stringTail_hexUnit unit rest
  | scalar character =>
      simp only [escape]
      cases hescape : maybeShortEscape character with
      | some letter => exact stringTail.eq_3 _ _
      | none =>
          obtain ⟨hquote, hbackslash⟩ := ne_of_maybeShortEscape hescape
          by_cases hcontrol : character.toNat < 32
          · simp only [if_pos hcontrol]
            exact stringTail_hexUnit _ rest
          · simp only [if_neg hcontrol]
            exact stringTail_plain hquote hbackslash rest

theorem stringTail_pieces (pieces : List CodeUnits.Piece) (rest : List Char) :
    stringTail (pieces.flatMap escape ++ '"' :: rest) =
      some (pieces.flatMap escape ++ ['"'], rest) := by
  induction pieces with
  | nil => rfl
  | cons piece pieces ih =>
      rw [List.flatMap_cons, List.append_assoc, stringTail_escape, ih, Option.map_some,
        List.append_assoc]

/-- A quoted text ends where its quotes do. -/
theorem stringEnd_quote (units : CodeUnits) (rest : List Char) :
    stringEnd (quote units ++ rest) = some (quote units, rest) := by
  have htail := stringTail_pieces (CodeUnits.pieces units) rest
  rw [quote, List.cons_append, List.append_assoc, List.singleton_append, stringEnd, htail]
  rfl

/-! ## Values -/

/-- A text in front of what was found. -/
def prepended (text : List Char) (found : Option (List Char × List Char)) :
    Option (List Char × List Char) :=
  found.map fun found => (text ++ found.1, found.2)

theorem prepended_prepended (first second : List Char) (found : Option (List Char × List Char)) :
    prepended first (prepended second found) = prepended (first ++ second) found := by
  cases found with
  | none => rfl
  | some found =>
      simp only [prepended, Option.map_some, List.append_assoc]

theorem prepended_cons (character : Char) (text : List Char)
    (found : Option (List Char × List Char)) :
    (prepended text found).map (fun found => (character :: found.1, found.2)) =
      prepended (character :: text) found :=
  prepended_prepended [character] text found

theorem valueEnd_skip (depth : ℤ) (body rest : List Char) :
    valueEnd depth body.length (body ++ rest) = prepended body (valueEnd depth 0 rest) := by
  induction body with
  | nil =>
      cases hfound : valueEnd depth 0 rest with
      | none => exact hfound
      | some found => exact hfound
  | cons character body ih =>
      rw [List.length_cons, List.cons_append, valueEnd, ih, prepended_cons]

theorem valueEnd_quote (depth : ℤ) (units : CodeUnits) (rest : List Char) :
    valueEnd depth 0 (quote units ++ rest) = prepended (quote units) (valueEnd depth 0 rest) := by
  have htail := stringTail_pieces (CodeUnits.pieces units) rest
  have hskip := valueEnd_skip depth ((CodeUnits.pieces units).flatMap escape ++ ['"']) rest
  rw [List.append_assoc, List.singleton_append] at hskip
  rw [quote, List.cons_append, List.append_assoc, List.singleton_append, valueEnd, if_pos rfl,
    htail]
  simp only
  rw [hskip, prepended_cons]

/-- A character that is no part of the structure is passed over at every depth. -/
theorem valueEnd_plain {character : Char}
    (hplain : character ∉ ['"', ',', '{', '}', '[', ']']) (depth : ℤ) (rest : List Char) :
    valueEnd depth 0 (character :: rest) = prepended [character] (valueEnd depth 0 rest) := by
  simp only [List.mem_cons, List.not_mem_nil, or_false, not_or] at hplain
  obtain ⟨hquote, hcomma, hopen, hclose, hopens, hcloses⟩ := hplain
  rw [valueEnd, if_neg hquote, if_neg fun hends => hends.2.elim hcomma hclose]
  simp only [hopen, hopens, hclose, hcloses, or_self, if_false]
  rfl

theorem valueEnd_plains {text : List Char}
    (hplain : ∀ character ∈ text, character ∉ ['"', ',', '{', '}', '[', ']']) (depth : ℤ)
    (rest : List Char) :
    valueEnd depth 0 (text ++ rest) = prepended text (valueEnd depth 0 rest) := by
  induction text with
  | nil =>
      cases hfound : valueEnd depth 0 rest with
      | none => exact hfound
      | some found => exact hfound
  | cons character text ih =>
      rw [List.cons_append, valueEnd_plain (hplain character List.mem_cons_self),
        ih fun other hother => hplain other (List.mem_cons_of_mem _ hother)]
      exact prepended_prepended [character] text _

theorem valueEnd_open {character : Char} (hopen : character = '{' ∨ character = '[') (depth : ℤ)
    (rest : List Char) :
    valueEnd depth 0 (character :: rest) = prepended [character] (valueEnd (depth + 1) 0 rest) := by
  rcases hopen with rfl | rfl
  · rw [valueEnd, if_neg (by decide), if_neg fun hends => absurd hends.2 (by decide)]
    rfl
  · rw [valueEnd, if_neg (by decide), if_neg fun hends => absurd hends.2 (by decide)]
    rfl

/-- Inside of something a separator is passed over. -/
theorem valueEnd_comma {depth : ℤ} (hdepth : 0 ≤ depth) (rest : List Char) :
    valueEnd (depth + 1) 0 (',' :: rest) = prepended [','] (valueEnd (depth + 1) 0 rest) := by
  rw [valueEnd, if_neg (by decide), if_neg fun hends => absurd hends.1 (by omega)]
  rfl

/-- And its end leaves it. -/
theorem valueEnd_close {character : Char} (hclose : character = '}' ∨ character = ']') {depth : ℤ}
    (hdepth : 0 ≤ depth) (rest : List Char) :
    valueEnd (depth + 1) 0 (character :: rest) = prepended [character] (valueEnd depth 0 rest) := by
  have hback : depth + 1 - 1 = depth := by omega
  rcases hclose with rfl | rfl
  · rw [valueEnd, if_neg (by decide), if_neg fun hends => absurd hends.1 (by omega)]
    show prepended ['}'] (valueEnd (depth + 1 - 1) 0 rest) = _
    rw [hback]
  · rw [valueEnd, if_neg (by decide), if_neg fun hends => absurd hends.1 (by omega)]
    show prepended [']'] (valueEnd (depth + 1 - 1) 0 rest) = _
    rw [hback]

theorem valueEnd_scalar {text : List Char}
    (hplain : (text.all fun character => !(['"', ',', '{', '}', '[', ']'].contains character)) = true)
    (depth : ℤ) (rest : List Char) :
    valueEnd depth 0 (text ++ rest) = prepended text (valueEnd depth 0 rest) := by
  apply valueEnd_plains
  intro character hcharacter
  have hchecked := List.all_eq_true.mp hplain character hcharacter
  simpa using hchecked

mutual

/-- A printed value is passed over as a whole: what it opens it closes. -/
theorem valueEnd_print : (value : JsValue) → Legible value → ∀ {depth : ℤ}, 0 ≤ depth →
    ∀ rest, valueEnd depth 0 (print value ++ rest) = prepended (print value) (valueEnd depth 0 rest)
  | .null, _, depth, _, rest => valueEnd_scalar (by decide) depth rest
  | .bool true, _, depth, _, rest => valueEnd_scalar (by decide) depth rest
  | .bool false, _, depth, _, rest => valueEnd_scalar (by decide) depth rest
  | .number number, h, depth, _, rest => by
      rw [print]
      apply valueEnd_plains
      intro character hcharacter hmem
      have hnumber := printNumber_characters h character hcharacter
      have hfalse : ∀ other ∈ ['"', ',', '{', '}', '[', ']'], isNumberCharacter other = false :=
        forall_mem_of_all (by decide)
      rw [hfalse character hmem] at hnumber
      cases hnumber
  | .string units, _, depth, _, rest => valueEnd_quote depth units rest
  | .array [], _, depth, hdepth, rest => by
      rw [print, List.cons_append, valueEnd_open (Or.inr rfl), List.cons_append,
        valueEnd_close (Or.inr rfl) hdepth, List.nil_append, prepended_prepended]
      rfl
  | .array (element :: elements), h, depth, hdepth, rest => by
      have hinside : 0 ≤ depth + 1 := by omega
      rw [print, List.cons_append, valueEnd_open (Or.inr rfl), List.append_assoc,
        valueEnd_print element h.1 hinside, valueEnd_elements elements h.2 hdepth,
        prepended_prepended, prepended_prepended]
      rfl
  | .object [], _, depth, hdepth, rest => by
      rw [print, List.cons_append, valueEnd_open (Or.inl rfl), List.cons_append,
        valueEnd_close (Or.inl rfl) hdepth, List.nil_append, prepended_prepended]
      rfl
  | .object ((key, value) :: members), h, depth, hdepth, rest => by
      have hinside : 0 ≤ depth + 1 := by omega
      have htext : quote key ++ ':' :: (print value ++ printMembers members) ++ rest =
          quote key ++ ([':'] ++ (print value ++ (printMembers members ++ rest))) := by
        simp only [List.append_assoc, List.cons_append, List.nil_append]
      rw [print, List.cons_append, valueEnd_open (Or.inl rfl), htext, valueEnd_quote,
        valueEnd_scalar (by decide), valueEnd_print value h.1 hinside,
        valueEnd_members members h.2 hdepth, prepended_prepended, prepended_prepended,
        prepended_prepended, prepended_prepended]
      simp only [List.append_assoc, List.cons_append, List.nil_append]

theorem valueEnd_elements : (elements : List JsValue) → LegibleElements elements →
    ∀ {depth : ℤ}, 0 ≤ depth → ∀ rest, valueEnd (depth + 1) 0 (printElements elements ++ rest) =
      prepended (printElements elements) (valueEnd depth 0 rest)
  | [], _, depth, hdepth, rest => valueEnd_close (Or.inr rfl) hdepth rest
  | element :: elements, h, depth, hdepth, rest => by
      have hinside : 0 ≤ depth + 1 := by omega
      rw [printElements, List.cons_append, valueEnd_comma hdepth, List.append_assoc,
        valueEnd_print element h.1 hinside, valueEnd_elements elements h.2 hdepth,
        prepended_prepended, prepended_prepended]
      rfl

theorem valueEnd_members : (members : List (CodeUnits × JsValue)) → LegibleMembers members →
    ∀ {depth : ℤ}, 0 ≤ depth → ∀ rest, valueEnd (depth + 1) 0 (printMembers members ++ rest) =
      prepended (printMembers members) (valueEnd depth 0 rest)
  | [], _, depth, hdepth, rest => valueEnd_close (Or.inl rfl) hdepth rest
  | (key, value) :: members, h, depth, hdepth, rest => by
      have hinside : 0 ≤ depth + 1 := by omega
      have htext : quote key ++ ':' :: (print value ++ printMembers members) ++ rest =
          quote key ++ ([':'] ++ (print value ++ (printMembers members ++ rest))) := by
        simp only [List.append_assoc, List.cons_append, List.nil_append]
      rw [printMembers, List.cons_append, valueEnd_comma hdepth, htext, valueEnd_quote,
        valueEnd_scalar (by decide), valueEnd_print value h.1 hinside,
        valueEnd_members members h.2 hdepth, prepended_prepended, prepended_prepended,
        prepended_prepended, prepended_prepended]
      simp only [List.append_assoc, List.cons_append, List.nil_append]

end

/-! ## Whole envelopes -/

theorem isWhitespace_of_number {character : Char} (h : isNumberCharacter character = true) :
    isWhitespace character = false := by
  rw [isNumberCharacter, Bool.or_eq_true] at h
  rcases h with hdigit | hmark
  · have hcode : 48 ≤ character.toNat ∧ character.toNat ≤ 57 := by
      simp only [Char.isDigit, Bool.and_eq_true, decide_eq_true_eq] at hdigit
      exact ⟨hdigit.1, hdigit.2⟩
    simp only [isWhitespace, Bool.or_eq_false_iff, Bool.and_eq_false_iff, decide_eq_false_iff_not]
    refine ⟨⟨by omega, by omega⟩, ?_⟩
    simp only [List.contains_eq_mem, List.mem_cons, List.not_mem_nil, or_false,
      decide_eq_false_iff_not, not_or]
    omega
  · simp only [List.contains_eq_mem, List.mem_cons, List.not_mem_nil, or_false,
      decide_eq_true_eq] at hmark
    rcases hmark with rfl | rfl | rfl | rfl | rfl
    all_goals decide

/-- The text of a value neither starts nor ends with whitespace. -/
theorem print_ends {value : JsValue} (hlegible : Legible value) :
    (∃ first rest, print value = first :: rest ∧ isWhitespace first = false) ∧
      ∃ front last, print value = front ++ [last] ∧ isWhitespace last = false := by
  have helements : ∀ elements, ∃ front, printElements elements = front ++ [']'] := by
    intro elements
    induction elements with
    | nil => exact ⟨[], rfl⟩
    | cons element elements ih =>
        obtain ⟨front, hfront⟩ := ih
        exact ⟨',' :: (print element ++ front), by
          rw [printElements, hfront, List.cons_append, List.append_assoc]⟩
  have hmembers : ∀ members, ∃ front, printMembers members = front ++ ['}'] := by
    intro members
    induction members with
    | nil => exact ⟨[], rfl⟩
    | cons member members ih =>
        obtain ⟨front, hfront⟩ := ih
        exact ⟨',' :: (quote member.1 ++ ':' :: (print member.2 ++ front)), by
          rw [printMembers, hfront]
          simp only [List.cons_append, List.append_assoc]⟩
  cases value with
  | undefined => exact absurd hlegible id
  | null => exact ⟨⟨_, _, rfl, by decide⟩, ['n', 'u', 'l'], 'l', rfl, by decide⟩
  | bool flag =>
      cases flag with
      | false => exact ⟨⟨_, _, rfl, by decide⟩, ['f', 'a', 'l', 's'], 'e', rfl, by decide⟩
      | true => exact ⟨⟨_, _, rfl, by decide⟩, ['t', 'r', 'u'], 'e', rfl, by decide⟩
  | number number =>
      have hcharacters := printNumber_characters hlegible
      obtain ⟨first, rest, hprint, -⟩ := printNumber_head hlegible
      rw [print]
      refine ⟨⟨first, rest, hprint, ?_⟩, ?_⟩
      · apply isWhitespace_of_number
        exact hcharacters first (by rw [hprint]; exact List.mem_cons_self)
      · have hne : printNumber number ≠ [] := by
          rw [hprint]
          exact List.cons_ne_nil first rest
        exact ⟨_, _, (List.dropLast_append_getLast hne).symm,
          isWhitespace_of_number (hcharacters _ (List.getLast_mem hne))⟩
  | string units =>
      refine ⟨⟨_, _, rfl, by decide⟩, '"' :: (CodeUnits.pieces units).flatMap escape, '"', ?_,
        by decide⟩
      rw [print, quote, List.cons_append]
  | array elements =>
      cases elements with
      | nil => exact ⟨⟨_, _, rfl, by decide⟩, ['['], ']', rfl, by decide⟩
      | cons element elements =>
          obtain ⟨front, hfront⟩ := helements elements
          refine ⟨⟨_, _, rfl, by decide⟩, '[' :: (print element ++ front), ']', ?_, by decide⟩
          rw [print, hfront, List.cons_append, List.append_assoc]
  | object members =>
      cases members with
      | nil => exact ⟨⟨_, _, rfl, by decide⟩, ['{'], '}', rfl, by decide⟩
      | cons member members =>
          obtain ⟨front, hfront⟩ := hmembers members
          refine ⟨⟨_, _, rfl, by decide⟩,
            '{' :: (quote member.1 ++ ':' :: (print member.2 ++ front)), '}', ?_, by decide⟩
          rw [print, hfront]
          simp only [List.cons_append, List.append_assoc]

theorem skipWhitespace_cons {character : Char} (h : isWhitespace character = false)
    (rest : List Char) : skipWhitespace (character :: rest) = character :: rest := by
  rw [skipWhitespace, List.dropWhile_cons_of_neg (by rw [h]; exact Bool.false_ne_true)]

theorem skipWhitespace_print {value : JsValue} (hlegible : Legible value) (rest : List Char) :
    skipWhitespace (print value ++ rest) = print value ++ rest := by
  obtain ⟨⟨first, others, hprint, hfirst⟩, -⟩ := print_ends hlegible
  rw [hprint, List.cons_append, skipWhitespace_cons hfirst]

theorem trimEnd_print {value : JsValue} (hlegible : Legible value) :
    trimEnd (print value) = print value := by
  obtain ⟨-, front, last, hprint, hlast⟩ := print_ends hlegible
  rw [trimEnd, hprint, List.reverse_append, List.reverse_singleton, List.singleton_append,
    List.dropWhile_cons_of_neg (by rw [hlast]; exact Bool.false_ne_true), List.reverse_cons,
    List.reverse_reverse]

/-- The bytes of the last payload among the members. -/
def payloadAfter (payloadUtf8 : List UInt8) (members : List (CodeUnits × JsValue)) : List UInt8 :=
  members.foldl (fun held member =>
    if member.1 = payloadKey then textBytes (print member.2) else held) payloadUtf8

/-- One member is found, and the text goes on behind its value. -/
theorem scanMembers_member (key : CodeUnits) (value : JsValue)
    (members : List (CodeUnits × JsValue)) (fuel : ℕ) (keys : List CodeUnits)
    (payloadUtf8 : List UInt8) (hvalue : Legible value) (hnew : key ∉ keys) :
    scanMembers (fuel + 1) keys payloadUtf8
        (quote key ++ ':' :: (print value ++ printMembers members)) =
      match members with
      | [] => some (payloadAfter payloadUtf8 [(key, value)])
      | (other, held) :: members =>
          scanMembers fuel (key :: keys) (payloadAfter payloadUtf8 [(key, value)])
            (quote other ++ ':' :: (print held ++ printMembers members)) := by
  have hquote : ∀ rest, skipWhitespace (quote key ++ rest) = quote key ++ rest := fun rest =>
    skipWhitespace_cons (by decide) _
  have hopen : ¬ ((quote key ++ ':' :: (print value ++ printMembers members)).head? = some '}' ∨
      (quote key ++ ':' :: (print value ++ printMembers members)).head? = some '}') := by
    rw [quote, List.cons_append, List.head?_cons]
    decide
  have hkey : parse (String.ofList (quote key)) = some (.string key) :=
    @parse_legible (.string key) trivial
  have hcolon : ∀ rest, skipWhitespace (':' :: rest) = ':' :: rest := fun rest =>
    skipWhitespace_cons (by decide) rest
  have hend : valueEnd 0 0 (printMembers members) = some ([], printMembers members) := by
    cases members with
    | nil => rfl
    | cons member members => rfl
  have hfound : valueEnd 0 0 (print value ++ printMembers members) =
      some (print value, printMembers members) := by
    rw [valueEnd_print value hvalue (Int.le_refl 0), hend, prepended, Option.map_some,
      List.append_nil]
  rw [scanMembers, hquote, if_neg hopen]
  simp only [stringEnd_quote, Option.bind_eq_bind, Option.bind_some, hkey, if_neg hnew, hcolon,
    skipWhitespace_print hvalue, hfound, trimEnd_print hvalue]
  cases members with
  | nil => rfl
  | cons member members => rfl

/-- The members of a printed object are found one after the other. -/
theorem scanMembers_print (key : CodeUnits) (value : JsValue)
    (members : List (CodeUnits × JsValue)) (fuel : ℕ) (keys : List CodeUnits)
    (payloadUtf8 : List UInt8) (hvalue : Legible value) (hmembers : LegibleMembers members)
    (hfuel : members.length < fuel)
    (hnodup : (((key, value) :: members).map Prod.fst).Nodup)
    (hnew : ∀ name ∈ ((key, value) :: members).map Prod.fst, name ∉ keys) :
    scanMembers fuel keys payloadUtf8
        (quote key ++ ':' :: (print value ++ printMembers members)) =
      some (payloadAfter payloadUtf8 ((key, value) :: members)) := by
  induction members generalizing key value fuel keys payloadUtf8 with
  | nil =>
      obtain ⟨fuel, rfl⟩ := Nat.exists_eq_add_of_lt hfuel
      exact scanMembers_member key value [] _ keys payloadUtf8 hvalue (hnew key List.mem_cons_self)
  | cons member members ih =>
      obtain ⟨other, held⟩ := member
      obtain ⟨fuel, rfl⟩ := Nat.exists_eq_add_of_lt hfuel
      rw [List.map_cons, List.nodup_cons] at hnodup
      rw [scanMembers_member key value ((other, held) :: members) _ keys payloadUtf8 hvalue
        (hnew key List.mem_cons_self)]
      apply ih other held _ (key :: keys) _ hmembers.1 hmembers.2 _ hnodup.2
      · intro name hname hmem
        rcases List.mem_cons.mp hmem with rfl | hmem
        · exact hnodup.1 hname
        · exact hnew name (List.mem_cons_of_mem _ hname) hmem
      · rw [List.length_cons]
        omega

theorem length_printMembers (members : List (CodeUnits × JsValue)) :
    members.length < (printMembers members).length := by
  induction members with
  | nil => exact Nat.zero_lt_one
  | cons member members ih =>
      rw [printMembers]
      simp only [List.length_cons, List.length_append]
      omega

/-- The text of an object whose names and texts are well formed is read back, with the bytes of
its payload. -/
theorem parseWorkerSerialJson_print {members : List (CodeUnits × JsValue)}
    (hlegible : LegibleMembers members) (hsettled : Settled (.object members))
    (hwellFormed : allWellFormed (.object members) = true) :
    parseWorkerSerialJson (print (.object members)) =
      some { value := .object members, payloadUtf8 := payloadAfter [] members } := by
  have hparse : parse (String.ofList (print (.object members))) = some (.object members) := by
    rw [@parse_legible (.object members) hlegible, settle_of_settled _ hsettled]
  have hopen : ∀ rest, skipWhitespace ('{' :: rest) = '{' :: rest := fun rest =>
    skipWhitespace_cons (by decide) rest
  simp only [parseWorkerSerialJson, hparse, Option.bind_eq_bind, Option.bind_some, hwellFormed,
    guard, if_true]
  cases members with
  | nil => rfl
  | cons member members =>
      obtain ⟨key, value⟩ := member
      have hlength := length_printMembers members
      have hscan := scanMembers_print key value members
        ((quote key ++ ':' :: (print value ++ printMembers members)).length + 1) [] []
        hlegible.1 hlegible.2 (by simp only [List.length_append, List.length_cons]; omega)
        hsettled.1 (fun _ _ => List.not_mem_nil)
      rw [print, hopen]
      simp only [hscan]
      rfl

/-! ## The characters of a text -/

theorem le_of_hexValue {character : Char} {value : ℕ} (h : hexValue character = some value) :
    32 ≤ character.toNat := by
  by_contra hlow
  have hzero : ¬ '0' ≤ character := fun hle => hlow (Nat.le_trans (by decide) (show _ ≤ _ from hle))
  have ha : ¬ 'a' ≤ character := fun hle => hlow (Nat.le_trans (by decide) (show _ ≤ _ from hle))
  have hA : ¬ 'A' ≤ character := fun hle => hlow (Nat.le_trans (by decide) (show _ ≤ _ from hle))
  simp [hexValue, hzero, ha, hA] at h

theorem le_of_mem_hexUnit {unit : UInt16} {character : Char} (h : character ∈ hexUnit unit) :
    32 ≤ character.toNat := by
  obtain ⟨first, second, third, fourth, hdigits, hread⟩ := readHexUnit_hexUnit unit []
  have hunit : hexUnit unit = [first, second, third, fourth] :=
    List.append_cancel_right hdigits
  simp only [readHexUnit, Option.bind_eq_bind, Option.bind_eq_some_iff] at hread
  obtain ⟨_, hfirst, _, hsecond, _, hthird, _, hfourth, -⟩ := hread
  rw [hunit] at h
  simp only [List.mem_cons, List.not_mem_nil, or_false] at h
  rcases h with rfl | rfl | rfl | rfl
  · exact le_of_hexValue hfirst
  · exact le_of_hexValue hsecond
  · exact le_of_hexValue hthird
  · exact le_of_hexValue hfourth

theorem le_of_mem_escape {piece : CodeUnits.Piece} {character : Char}
    (h : character ∈ escape piece) : 32 ≤ character.toNat := by
  cases piece with
  | lone unit =>
      rcases List.mem_cons.mp h with rfl | h
      · decide
      rcases List.mem_cons.mp h with rfl | h
      · decide
      · exact le_of_mem_hexUnit h
  | scalar scalar =>
      simp only [escape] at h
      cases hescape : maybeShortEscape scalar with
      | some letter =>
          rw [hescape] at h
          have hletter : 32 ≤ letter.toNat := by
            simp only [maybeShortEscape] at hescape
            repeat' split at hescape
            all_goals cases hescape
            all_goals decide
          simp only [List.mem_cons, List.not_mem_nil, or_false] at h
          rcases h with rfl | rfl
          · decide
          · exact hletter
      | none =>
          rw [hescape] at h
          simp only at h
          split at h
          · rcases List.mem_cons.mp h with rfl | h
            · decide
            rcases List.mem_cons.mp h with rfl | h
            · decide
            · exact le_of_mem_hexUnit h
          · next hplain =>
              rw [List.mem_singleton.mp h]
              exact Nat.not_lt.mp hplain

theorem le_of_mem_quote {units : CodeUnits} {character : Char} (h : character ∈ quote units) :
    32 ≤ character.toNat := by
  rw [quote] at h
  rcases List.mem_cons.mp h with rfl | h
  · decide
  rcases List.mem_append.mp h with h | h
  · obtain ⟨piece, -, hpiece⟩ := List.mem_flatMap.mp h
    exact le_of_mem_escape hpiece
  · rw [List.mem_singleton.mp h]
    decide

theorem le_of_isNumberCharacter {character : Char} (h : isNumberCharacter character = true) :
    32 ≤ character.toNat := by
  simp only [isNumberCharacter, Char.isDigit, Bool.or_eq_true, Bool.and_eq_true, decide_eq_true_eq,
    List.contains_eq_mem, List.mem_cons, List.not_mem_nil, or_false] at h
  rcases h with ⟨hlow, -⟩ | rfl | rfl | rfl | rfl | rfl
  · exact Nat.le_trans (by decide) (show (48 : ℕ) ≤ _ from hlow)
  all_goals decide

mutual

/-- No character of a printed value is a control character. -/
theorem le_of_mem_print : (value : JsValue) → Legible value → ∀ character ∈ print value,
    32 ≤ character.toNat
  | .undefined, _ => fun _ h => absurd h List.not_mem_nil
  | .null, _ => forall_mem_of_all (by decide)
  | .bool true, _ => forall_mem_of_all (by decide)
  | .bool false, _ => forall_mem_of_all (by decide)
  | .number _, hlegible => fun _ h =>
      le_of_isNumberCharacter (printNumber_characters hlegible _ h)
  | .string _, _ => fun _ h => le_of_mem_quote h
  | .array [], _ => forall_mem_of_all (by decide)
  | .array (element :: elements), hlegible => by
      intro character h
      rcases List.mem_cons.mp h with rfl | h
      · decide
      rcases List.mem_append.mp h with h | h
      · exact le_of_mem_print element hlegible.1 character h
      · exact le_of_mem_printElements elements hlegible.2 character h
  | .object [], _ => forall_mem_of_all (by decide)
  | .object ((key, value) :: members), hlegible => by
      intro character h
      rcases List.mem_cons.mp h with rfl | h
      · decide
      rcases List.mem_append.mp h with h | h
      · exact le_of_mem_quote h
      rcases List.mem_cons.mp h with rfl | h
      · decide
      rcases List.mem_append.mp h with h | h
      · exact le_of_mem_print value hlegible.1 character h
      · exact le_of_mem_printMembers members hlegible.2 character h

theorem le_of_mem_printElements : (elements : List JsValue) → LegibleElements elements →
    ∀ character ∈ printElements elements, 32 ≤ character.toNat
  | [], _ => forall_mem_of_all (by decide)
  | element :: elements, hlegible => by
      intro character h
      rcases List.mem_cons.mp h with rfl | h
      · decide
      rcases List.mem_append.mp h with h | h
      · exact le_of_mem_print element hlegible.1 character h
      · exact le_of_mem_printElements elements hlegible.2 character h

theorem le_of_mem_printMembers : (members : List (CodeUnits × JsValue)) → LegibleMembers members →
    ∀ character ∈ printMembers members, 32 ≤ character.toNat
  | [], _ => forall_mem_of_all (by decide)
  | (key, value) :: members, hlegible => by
      intro character h
      rcases List.mem_cons.mp h with rfl | h
      · decide
      rcases List.mem_append.mp h with h | h
      · exact le_of_mem_quote h
      rcases List.mem_cons.mp h with rfl | h
      · decide
      rcases List.mem_append.mp h with h | h
      · exact le_of_mem_print value hlegible.1 character h
      · exact le_of_mem_printMembers members hlegible.2 character h

end

/-- Nor is any byte of its text. -/
theorem le_of_mem_textBytes {value : JsValue} (hlegible : Legible value) {byte : UInt8}
    (h : byte ∈ textBytes (print value)) : 32 ≤ byte.toNat := by
  rw [textBytes, asBytes_ofList] at h
  obtain ⟨character, hcharacter, hbyte⟩ := List.mem_flatMap.mp h
  exact le_of_mem_utf8EncodeChar (le_of_mem_print value hlegible character hcharacter) hbyte

theorem payloadAfter_concat (payloadUtf8 : List UInt8) (metadata : List (CodeUnits × JsValue))
    (value : JsValue) :
    payloadAfter payloadUtf8 (metadata ++ [(payloadKey, value)]) = textBytes (print value) := by
  rw [payloadAfter, List.foldl_append, List.foldl_cons, List.foldl_nil, if_pos rfl]

end WorkGate
