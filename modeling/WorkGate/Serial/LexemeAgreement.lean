/-
# The two readings of an envelope agree (web/worker-serial-lexeme.ts)

The scanner ends strings and values by their quotes and brackets alone.  On a text that `JSON.parse`
has accepted it finds the members `JSON.parse` has read, each with the characters its value is
written with, and it always comes to an end.  What it does not see is a text inside the payload
that a later member of the same name replaces.
-/

import Mathlib.Data.List.DropRight
import Mathlib.Data.Option.Basic
import WorkGate.Library.JsonSource
import WorkGate.Serial.Lexeme

namespace WorkGate

open WorkGate.Library WorkGate.Library.JsonText

/-! ## Strings -/

theorem readString_unicode {first second third fourth : Char} {unit : UInt16}
    (hunit : readHexUnit first second third fourth = some unit) (rest : List Char) :
    readString ('\\' :: 'u' :: first :: second :: third :: fourth :: rest) =
      (readString rest).map fun read => (unit :: read.1, read.2) := by
  rw [readString, hunit]

theorem readString_letter {letter : Char} {unit : UInt16}
    (hunit : readShortEscape letter = some unit) (rest : List Char) :
    readString ('\\' :: letter :: rest) =
      (readString rest).map fun read => (unit :: read.1, read.2) := by
  have hletter : letter ≠ 'u' := by
    rintro rfl
    cases hunit
  rw [readString, hunit]
  intro _ _ _ _ _ hsame
  exact absurd hsame hletter

theorem readString_plain {character : Char} (hquote : character ≠ '"')
    (hbackslash : character ≠ '\\') (hplain : ¬ character.toNat < 32) (rest : List Char) :
    readString (character :: rest) =
      (readString rest).map fun read => (CodeUnits.ofChar character ++ read.1, read.2) := by
  rw [readString, if_neg hplain]
  · exact hquote
  · exact fun _ _ _ _ _ hsame _ => absurd hsame hbackslash
  · exact fun _ _ hsame _ => absurd hsame hbackslash

theorem stringTail_unicode {first second third fourth : Char} {unit : UInt16}
    (hunit : readHexUnit first second third fourth = some unit) (rest : List Char) :
    stringTail ('\\' :: 'u' :: first :: second :: third :: fourth :: rest) =
      prepended ['\\', 'u', first, second, third, fourth] (stringTail rest) := by
  simp only [readHexUnit, Option.bind_eq_bind, Option.bind_eq_some_iff] at hunit
  obtain ⟨_, hfirst, _, hsecond, _, hthird, _, hfourth, -⟩ := hunit
  rw [stringTail, stringTail_plain (ne_of_hexValue hfirst).1 (ne_of_hexValue hfirst).2,
    stringTail_plain (ne_of_hexValue hsecond).1 (ne_of_hexValue hsecond).2,
    stringTail_plain (ne_of_hexValue hthird).1 (ne_of_hexValue hthird).2,
    stringTail_plain (ne_of_hexValue hfourth).1 (ne_of_hexValue hfourth).2]
  cases stringTail rest with
  | none => rfl
  | some found => rfl

/-- The scanner ends a string where it is read to its end, and reading that part alone gives the
same text. -/
theorem readString_stringTail {characters left : List Char} {units : CodeUnits}
    (h : readString characters = some (units, left)) :
    ∃ front, characters = front ++ '"' :: left ∧
      (∀ rest, readString (front ++ '"' :: rest) = some (units, rest)) ∧
        ∀ rest, stringTail (front ++ '"' :: rest) = some (front ++ ['"'], rest) := by
  fun_induction readString characters generalizing units left with
  | case1 => cases h
  | case2 rest =>
      cases h
      exact ⟨[], rfl, fun _ => rfl, fun _ => rfl⟩
  | case3 => cases h
  | case4 first second third fourth rest unit hunit ih =>
      obtain ⟨⟨found, after⟩, hread, hsame⟩ := Option.map_eq_some_iff.mp h
      cases hsame
      obtain ⟨front, rfl, hreads, htails⟩ := ih hread
      refine ⟨'\\' :: 'u' :: first :: second :: third :: fourth :: front, rfl, ?_, ?_⟩
      · intro rest
        simp only [List.cons_append]
        rw [readString_unicode hunit, hreads]
        rfl
      · intro rest
        simp only [List.cons_append]
        rw [stringTail_unicode hunit, htails]
        rfl
  | case5 => cases h
  | case6 letter rest hescape unit hunit ih =>
      obtain ⟨⟨found, after⟩, hread, hsame⟩ := Option.map_eq_some_iff.mp h
      cases hsame
      obtain ⟨front, rfl, hreads, htails⟩ := ih hread
      refine ⟨'\\' :: letter :: front, rfl, ?_, ?_⟩
      · intro rest
        simp only [List.cons_append]
        rw [readString_letter hunit, hreads]
        rfl
      · intro rest
        simp only [List.cons_append]
        rw [stringTail, htails]
        rfl
  | case7 => cases h
  | case8 character rest hquote hunicode hescape hplain ih =>
      obtain ⟨⟨found, after⟩, hread, hsame⟩ := Option.map_eq_some_iff.mp h
      cases hsame
      obtain ⟨front, rfl, hreads, htails⟩ := ih hread
      have hnotQuote : character ≠ '"' := hquote
      have hbackslash : character ≠ '\\' := by
        intro hsame
        cases front with
        | nil => exact hescape _ _ hsame rfl
        | cons letter front => exact hescape _ _ hsame rfl
      refine ⟨character :: front, rfl, ?_, ?_⟩
      · intro rest
        rw [List.cons_append, readString_plain hnotQuote hbackslash hplain, hreads]
        rfl
      · intro rest
        rw [List.cons_append, stringTail_plain hnotQuote hbackslash, htails]
        rfl

/-! ## Numbers -/

theorem readSign_append (signs characters : List Char) :
    (readSign signs characters).1 ++ (readSign signs characters).2 = characters := by
  cases characters with
  | nil => rfl
  | cons first rest =>
      rw [readSign]
      split
      · rfl
      · rfl

theorem readDigits_split {characters digits left : List Char}
    (h : readDigits characters = (digits, left)) : characters = digits ++ left := by
  rw [readDigits] at h
  cases h
  exact List.takeWhile_append_dropWhile.symm

theorem readFraction_append {characters fraction left : List Char}
    (h : readFraction characters = some (fraction, left)) : characters = fraction ++ left := by
  rw [readFraction.eq_def] at h
  split at h
  · split at h
    · cases h
    · next digits rest hread =>
        cases h
        rw [readDigits_split hread]
        rfl
  · cases h
    rfl

theorem readExponent_append {characters exponent left : List Char}
    (h : readExponent characters = some (exponent, left)) : characters = exponent ++ left := by
  cases characters with
  | nil =>
      cases h
      rfl
  | cons mark rest =>
      rw [readExponent] at h
      split at h
      · dsimp only at h
        split at h
        · cases h
        · next digits after hread =>
            cases h
            have hsign := readSign_append ['+', '-'] rest
            rw [readDigits_split hread] at hsign
            rw [List.cons_append, List.append_assoc, hsign]
      · cases h
        rfl

/-- The characters of a number that is read. -/
theorem readNumber_append {characters left : List Char} {number : JsNumber}
    (h : readNumber characters = some (number, left)) :
    ∃ digits, characters = digits ++ left ∧ digits ≠ [] ∧
      ∀ character ∈ digits, isNumberCharacter character = true := by
  simp only [readNumber] at h
  split at h
  · cases h
  · next digit digits rest hdigits =>
      split at h
      · cases h
      · cases hfraction : readFraction rest with
        | none =>
            rw [hfraction] at h
            cases h
        | some found =>
            obtain ⟨fraction, rest⟩ := found
            rw [hfraction] at h
            dsimp only at h
            cases hexponent : readExponent rest with
            | none =>
                rw [hexponent] at h
                cases h
            | some found =>
                obtain ⟨exponent, after⟩ := found
                rw [hexponent] at h
                dsimp only at h
                have hleft : after = left := by
                  split at h
                  · cases h
                    rfl
                  · cases h
                    rfl
                subst hleft
                have hsign := readSign_append ['-'] characters
                rw [readDigits_split hdigits, readFraction_append hfraction,
                  readExponent_append hexponent] at hsign
                refine ⟨(readSign ['-'] characters).1 ++
                  (digit :: digits ++ (fraction ++ exponent)), ?_, ?_, ?_⟩
                · simp only [List.append_assoc]
                  exact hsign.symm
                · simp
                · intro character hcharacter
                  rcases List.mem_append.mp hcharacter with hmem | hcharacter
                  · exact readSign_characters (forall_mem_of_all (by decide)) character hmem
                  rcases List.mem_append.mp hcharacter with hmem | hcharacter
                  · exact readDigits_characters hdigits character hmem
                  rcases List.mem_append.mp hcharacter with hmem | hmem
                  · exact readFraction_characters hfraction character hmem
                  · exact readExponent_characters hexponent character hmem

/-! ## Values -/

/-- The scanner passes over the text at any depth. -/
def PassedOver (text : List Char) : Prop :=
  ∀ depth : ℤ, 0 ≤ depth → ∀ rest,
    valueEnd depth 0 (text ++ rest) = prepended text (valueEnd depth 0 rest)

/-- The scanner passes over the text inside of something. -/
def PassedInside (text : List Char) : Prop :=
  ∀ depth : ℤ, 0 ≤ depth → ∀ rest,
    valueEnd (depth + 1) 0 (text ++ rest) = prepended text (valueEnd (depth + 1) 0 rest)

/-- The text ends what is open. -/
def Closes (text : List Char) : Prop :=
  ∀ depth : ℤ, 0 ≤ depth → ∀ rest,
    valueEnd (depth + 1) 0 (text ++ rest) = prepended text (valueEnd depth 0 rest)

theorem PassedOver.inside {text : List Char} (h : PassedOver text) : PassedInside text :=
  fun depth hdepth rest => h (depth + 1) (by omega) rest

theorem PassedInside.append {first second : List Char} (hfirst : PassedInside first)
    (hsecond : PassedInside second) : PassedInside (first ++ second) := by
  intro depth hdepth rest
  rw [List.append_assoc, hfirst depth hdepth, hsecond depth hdepth, prepended_prepended]

theorem PassedInside.closes {first second : List Char} (hfirst : PassedInside first)
    (hsecond : Closes second) : Closes (first ++ second) := by
  intro depth hdepth rest
  rw [List.append_assoc, hfirst depth hdepth, hsecond depth hdepth, prepended_prepended]

theorem passedOver_plain {text : List Char}
    (hplain : ∀ character ∈ text, character ∉ ['"', ',', '{', '}', '[', ']']) :
    PassedOver text :=
  fun depth _ rest => valueEnd_plains hplain depth rest

theorem passedInside_comma : PassedInside [','] := by
  intro depth hdepth rest
  exact valueEnd_comma hdepth rest

theorem closes_singleton {character : Char} (hclose : character = '}' ∨ character = ']') :
    Closes [character] := by
  intro depth hdepth rest
  exact valueEnd_close hclose hdepth rest

/-- What is opened and closed again is passed over. -/
theorem Closes.passedOver {character : Char} (hopen : character = '{' ∨ character = '[')
    {text : List Char} (h : Closes text) : PassedOver (character :: text) := by
  intro depth hdepth rest
  rw [List.cons_append, valueEnd_open hopen, h depth hdepth, prepended_prepended]
  rfl

/-- A string is passed over. -/
theorem passedOver_string {front : List Char}
    (htail : ∀ rest, stringTail (front ++ '"' :: rest) = some (front ++ ['"'], rest)) :
    PassedOver ('"' :: (front ++ ['"'])) := by
  intro depth hdepth rest
  have hskip := valueEnd_skip depth (front ++ ['"']) rest
  rw [List.append_assoc, List.singleton_append] at hskip
  rw [List.cons_append, List.append_assoc, List.singleton_append, valueEnd, if_pos rfl, htail]
  dsimp only
  rw [hskip, prepended_cons]

theorem plain_of_number {character : Char} (h : isNumberCharacter character = true) :
    character ∉ ['"', ',', '{', '}', '[', ']'] := by
  intro hmem
  have hfalse : ∀ other ∈ ['"', ',', '{', '}', '[', ']'], isNumberCharacter other = false :=
    forall_mem_of_all (by decide)
  rw [hfalse character hmem] at h
  cases h

theorem isWhitespace_of_isSpace {character : Char} (h : isSpace character = true) :
    isWhitespace character = true := by
  simp only [isSpace, Bool.or_eq_true, decide_eq_true_eq] at h
  rcases h with ((rfl | htab) | hline) | hreturn
  · decide
  · simp [isWhitespace, htab]
  · simp [isWhitespace, hline]
  · simp [isWhitespace, hreturn]

/-- The spaces in front of something. -/
theorem skipSpace_split (characters : List Char) :
    ∃ spaces, characters = spaces ++ skipSpace characters ∧
      ∀ character ∈ spaces, isSpace character = true :=
  ⟨characters.takeWhile isSpace, List.takeWhile_append_dropWhile.symm,
    fun _ hmem => List.all_eq_true.mp List.all_takeWhile _ hmem⟩

theorem passedOver_spaces {spaces : List Char}
    (hspaces : ∀ character ∈ spaces, isSpace character = true) : PassedOver spaces := by
  apply passedOver_plain
  intro character hcharacter hmem
  have hfalse : ∀ other ∈ ['"', ',', '{', '}', '[', ']'], isSpace other = false :=
    forall_mem_of_all (by decide)
  have hspace := hspaces character hcharacter
  rw [hfalse character hmem] at hspace
  cases hspace

/-- The text begins and ends with characters that are no white space. -/
structure Framed (text : List Char) : Prop where
  first : ∃ character rest, text = character :: rest ∧ isWhitespace character = false
  last : ∃ front character, text = front ++ [character] ∧ isWhitespace character = false

theorem Framed.of_all {text : List Char} (hsome : text ≠ [])
    (hall : ∀ character ∈ text, isWhitespace character = false) : Framed text where
  first := by
    obtain ⟨character, rest, rfl⟩ := List.exists_cons_of_ne_nil hsome
    exact ⟨character, rest, rfl, hall character List.mem_cons_self⟩
  last := ⟨_, _, (List.dropLast_append_getLast hsome).symm, hall _ (List.getLast_mem hsome)⟩

/-- What begins with one mark and ends with another is framed by them. -/
theorem Framed.of_marks {opening closing : Char} (hopening : isWhitespace opening = false)
    (hclosing : isWhitespace closing = false) (middle : List Char) :
    Framed (opening :: (middle ++ [closing])) where
  first := ⟨opening, _, rfl, hopening⟩
  last := ⟨opening :: middle, closing, rfl, hclosing⟩

/-- A scalar is passed over. -/
theorem readScalar_passed {characters left : List Char} {value : JsValue}
    (h : readScalar characters = some (value, left)) :
    ∃ slice, characters = slice ++ left ∧ Framed slice ∧ PassedOver slice := by
  have hword : ∀ word : List Char, word ≠ [] →
      (∀ character ∈ word, isWhitespace character = false) →
      (∀ character ∈ word, character ∉ ['"', ',', '{', '}', '[', ']']) →
      ∃ slice, word ++ left = slice ++ left ∧ Framed slice ∧ PassedOver slice :=
    fun word hsome hspace hplain =>
      ⟨word, rfl, Framed.of_all hsome hspace, passedOver_plain hplain⟩
  rw [readScalar.eq_def] at h
  split at h
  · cases h
    exact hword ['n', 'u', 'l', 'l'] (by decide) (forall_mem_of_all (by decide))
      (forall_mem_of_all (by decide))
  · cases h
    exact hword ['t', 'r', 'u', 'e'] (by decide) (forall_mem_of_all (by decide))
      (forall_mem_of_all (by decide))
  · cases h
    exact hword ['f', 'a', 'l', 's', 'e'] (by decide) (forall_mem_of_all (by decide))
      (forall_mem_of_all (by decide))
  · obtain ⟨⟨number, after⟩, hread, hsame⟩ := Option.map_eq_some_iff.mp h
    cases hsame
    obtain ⟨digits, hdigits, hsome, hall⟩ := readNumber_append hread
    refine ⟨digits, hdigits, Framed.of_all hsome ?_, passedOver_plain ?_⟩
    · exact fun character hmem => isWhitespace_of_number (hall character hmem)
    · exact fun character hmem => plain_of_number (hall character hmem)

/-- Values that are read in so many steps are passed over. -/
def ValuesPassed (fuel : ℕ) : Prop :=
  ∀ {characters value left}, readValue fuel characters = some (value, left) →
    ∃ slice, skipSpace characters = slice ++ left ∧ Framed slice ∧ PassedOver slice

/-- What is read of the inside of an array ends it. -/
def ElementsClose (fuel : ℕ) : Prop :=
  ∀ {characters elements left}, readElements fuel characters = some (elements, left) →
    ∃ front, characters = front ++ ']' :: left ∧ Closes (front ++ [']'])

/-- What is read of the inside of an object ends it. -/
def MembersClose (fuel : ℕ) : Prop :=
  ∀ {characters members left}, readMembers fuel characters = some (members, left) →
    ∃ front, characters = front ++ '}' :: left ∧ Closes (front ++ ['}'])

/-- A value with the spaces in front of it. -/
theorem ValuesPassed.inside {fuel : ℕ} (h : ValuesPassed fuel) {characters left : List Char}
    {value : JsValue} (hread : readValue fuel characters = some (value, left)) :
    ∃ text, characters = text ++ left ∧ PassedInside text := by
  obtain ⟨slice, hslice, -, hpassed⟩ := h hread
  obtain ⟨spaces, hsplit, hspaces⟩ := skipSpace_split characters
  refine ⟨spaces ++ slice, ?_, (passedOver_spaces hspaces).inside.append hpassed.inside⟩
  rw [List.append_assoc, ← hslice]
  exact hsplit

/-- Behind spaces a mark closes. -/
theorem closes_of_skipSpace {characters left : List Char} {closing : Char}
    (hclose : closing = '}' ∨ closing = ']') (hspaced : skipSpace characters = closing :: left) :
    ∃ spaces, characters = spaces ++ closing :: left ∧ Closes (spaces ++ [closing]) := by
  obtain ⟨spaces, hsplit, hspaces⟩ := skipSpace_split characters
  rw [hspaced] at hsplit
  exact ⟨spaces, hsplit, (passedOver_spaces hspaces).inside.closes (closes_singleton hclose)⟩

/-- Behind spaces and a comma the rest closes. -/
theorem closes_of_comma {characters rest left : List Char} {closing : Char}
    (hspaced : skipSpace characters = ',' :: rest) {front : List Char}
    (hrest : rest = front ++ closing :: left) (hcloses : Closes (front ++ [closing])) :
    ∃ more, characters = more ++ closing :: left ∧ Closes (more ++ [closing]) := by
  obtain ⟨spaces, hsplit, hspaces⟩ := skipSpace_split characters
  rw [hspaced, hrest] at hsplit
  refine ⟨spaces ++ ([','] ++ front), ?_, ?_⟩
  · rw [hsplit]
    simp
  · have hinside := (passedOver_spaces hspaces).inside.append passedInside_comma
    simpa using hinside.closes hcloses

/-- What is passed inside in front of what closes. -/
theorem closes_append {text characters rest left : List Char} {closing : Char}
    (htext : characters = text ++ rest) (hinside : PassedInside text)
    (hrest : ∃ front, rest = front ++ closing :: left ∧ Closes (front ++ [closing])) :
    ∃ front, characters = front ++ closing :: left ∧ Closes (front ++ [closing]) := by
  obtain ⟨front, rfl, hcloses⟩ := hrest
  refine ⟨text ++ front, ?_, ?_⟩
  · rw [htext, List.append_assoc]
  · rw [List.append_assoc]
    exact hinside.closes hcloses

/-- An array or an object is passed over once its inside ends it. -/
theorem passed_of_closes {characters rest left front : List Char} {opening closing : Char}
    (hopen : opening = '{' ∨ opening = '[') (hclose : closing = '}' ∨ closing = ']')
    (hspaced : skipSpace characters = opening :: rest)
    (hrest : skipSpace rest = front ++ closing :: left) (hcloses : Closes (front ++ [closing])) :
    ∃ slice, skipSpace characters = slice ++ left ∧ Framed slice ∧ PassedOver slice := by
  have hopening : isWhitespace opening = false := by
    rcases hopen with rfl | rfl
    · decide
    · decide
  have hclosing : isWhitespace closing = false := by
    rcases hclose with rfl | rfl
    · decide
    · decide
  obtain ⟨spaces, hsplit, hspaces⟩ := skipSpace_split rest
  rw [hrest] at hsplit
  have hinside := (passedOver_spaces hspaces).inside.closes hcloses
  rw [← List.append_assoc] at hinside
  refine ⟨opening :: (spaces ++ front ++ [closing]), ?_,
    Framed.of_marks hopening hclosing (spaces ++ front), hinside.passedOver hopen⟩
  rw [hspaced, hsplit]
  simp

theorem elementsClose_succ {fuel : ℕ} (hvalues : ValuesPassed fuel)
    (helements : ElementsClose fuel) : ElementsClose (fuel + 1) := by
  intro characters elements left h
  rw [readElements] at h
  cases hread : readValue fuel characters with
  | none =>
      rw [hread] at h
      cases h
  | some read =>
      obtain ⟨value, after⟩ := read
      rw [hread] at h
      obtain ⟨text, htext, hinside⟩ := hvalues.inside hread
      apply closes_append htext hinside
      dsimp only at h
      split at h
      · next rest hspaced =>
          cases h
          exact closes_of_skipSpace (Or.inr rfl) hspaced
      · next rest hspaced =>
          obtain ⟨⟨more, final⟩, hmore, hsame⟩ := Option.map_eq_some_iff.mp h
          cases hsame
          obtain ⟨front, hfront, hcloses⟩ := helements hmore
          exact closes_of_comma hspaced hfront hcloses
      · cases h

theorem membersClose_succ {fuel : ℕ} (hvalues : ValuesPassed fuel)
    (hmembers : MembersClose fuel) : MembersClose (fuel + 1) := by
  intro characters members left h
  rw [readMembers] at h
  split at h
  · next rest hquoted =>
      cases hkey : readString rest with
      | none =>
          rw [hkey] at h
          cases h
      | some read =>
          obtain ⟨key, after⟩ := read
          rw [hkey] at h
          dsimp only at h
          obtain ⟨front, rfl, -, htails⟩ := readString_stringTail hkey
          obtain ⟨spaces, hsplit, hspaces⟩ := skipSpace_split characters
          rw [hquoted] at hsplit
          have hname := (passedOver_spaces hspaces).inside.append (passedOver_string htails).inside
          have htext : characters = spaces ++ ('"' :: (front ++ ['"'])) ++ after := by
            rw [hsplit]
            simp
          apply closes_append htext hname
          split at h
          · next rest hcolon =>
              obtain ⟨others, hothers, hspaces⟩ := skipSpace_split after
              rw [hcolon] at hothers
              have hplain : PassedOver [':'] := passedOver_plain (forall_mem_of_all (by decide))
              have hcolons := (passedOver_spaces hspaces).inside.append hplain.inside
              have htext : after = others ++ [':'] ++ rest := by
                rw [hothers]
                simp
              apply closes_append htext hcolons
              cases hread : readValue fuel rest with
              | none =>
                  rw [hread] at h
                  cases h
              | some read =>
                  obtain ⟨value, behind⟩ := read
                  rw [hread] at h
                  dsimp only at h
                  obtain ⟨text, htext, hinside⟩ := hvalues.inside hread
                  apply closes_append htext hinside
                  split at h
                  · next rest hspaced =>
                      cases h
                      exact closes_of_skipSpace (Or.inl rfl) hspaced
                  · next rest hspaced =>
                      obtain ⟨⟨more, final⟩, hmore, hsame⟩ := Option.map_eq_some_iff.mp h
                      cases hsame
                      obtain ⟨front, hfront, hcloses⟩ := hmembers hmore
                      exact closes_of_comma hspaced hfront hcloses
                  · cases h
          · cases h
  · cases h

theorem valuesPassed_succ {fuel : ℕ} (helements : ElementsClose fuel)
    (hmembers : MembersClose fuel) : ValuesPassed (fuel + 1) := by
  intro characters value left h
  rw [readValue] at h
  split at h
  · next rest hspaced =>
      obtain ⟨⟨units, after⟩, hread, hsame⟩ := Option.map_eq_some_iff.mp h
      cases hsame
      obtain ⟨front, rfl, -, htails⟩ := readString_stringTail hread
      refine ⟨'"' :: (front ++ ['"']), ?_, Framed.of_marks (by decide) (by decide) front,
        passedOver_string htails⟩
      rw [hspaced]
      simp
  · next rest hspaced =>
      split at h
      · next after hempty =>
          cases h
          have hrest : skipSpace rest = [] ++ ']' :: left := hempty
          exact passed_of_closes (Or.inr rfl) (Or.inr rfl) hspaced hrest
            (closes_singleton (Or.inr rfl))
      · obtain ⟨⟨elements, after⟩, hread, hsame⟩ := Option.map_eq_some_iff.mp h
        cases hsame
        obtain ⟨front, hfront, hcloses⟩ := helements hread
        exact passed_of_closes (Or.inr rfl) (Or.inr rfl) hspaced hfront hcloses
  · next rest hspaced =>
      split at h
      · next after hempty =>
          cases h
          have hrest : skipSpace rest = [] ++ '}' :: left := hempty
          exact passed_of_closes (Or.inl rfl) (Or.inl rfl) hspaced hrest
            (closes_singleton (Or.inl rfl))
      · obtain ⟨⟨members, after⟩, hread, hsame⟩ := Option.map_eq_some_iff.mp h
        cases hsame
        obtain ⟨front, hfront, hcloses⟩ := hmembers hread
        exact passed_of_closes (Or.inl rfl) (Or.inl rfl) hspaced hfront hcloses
  · exact readScalar_passed h

/-- What is read as a value is passed over as a whole, and what is read of the inside of an array
or of an object ends it. -/
theorem read_passed (fuel : ℕ) : ValuesPassed fuel ∧ ElementsClose fuel ∧ MembersClose fuel := by
  induction fuel with
  | zero =>
      refine ⟨?_, ?_, ?_⟩
      · intro characters value left h
        cases h
      · intro characters elements left h
        cases h
      · intro characters members left h
        cases h
  | succ fuel ih =>
      obtain ⟨hvalues, helements, hmembers⟩ := ih
      exact ⟨valuesPassed_succ helements hmembers, elementsClose_succ hvalues helements,
        membersClose_succ hvalues hmembers⟩

/-! ## Members -/

/-- The bytes of the last payload among the members. -/
def writtenPayload (payloadUtf8 : List UInt8) (members : List WrittenMember) : List UInt8 :=
  members.foldl (fun held member =>
    if member.name = payloadKey then textBytes member.written else held) payloadUtf8

/-- The scanner skips what the parser skips, in front of anything else. -/
theorem skipWhitespace_of_skipSpace {characters rest : List Char} {first : Char}
    (hspaced : skipSpace characters = first :: rest) (hfirst : isWhitespace first = false) :
    skipWhitespace characters = first :: rest := by
  obtain ⟨spaces, hsplit, hspaces⟩ := skipSpace_split characters
  rw [hsplit, hspaced, skipWhitespace, List.dropWhile_append_of_pos]
  · exact skipWhitespace_cons hfirst rest
  · exact fun character hmem => isWhitespace_of_isSpace (hspaces character hmem)

theorem skipWhitespace_slice {characters slice left : List Char}
    (hslice : skipSpace characters = slice ++ left) (hframed : Framed slice) :
    skipWhitespace characters = slice ++ left := by
  obtain ⟨first, rest, rfl, hfirst⟩ := hframed.first
  exact skipWhitespace_of_skipSpace hslice hfirst

theorem trimEnd_append {slice spaces : List Char} (hframed : Framed slice)
    (hspaces : ∀ character ∈ spaces, isSpace character = true) :
    trimEnd (slice ++ spaces) = slice := by
  obtain ⟨front, last, rfl, hlast⟩ := hframed.last
  have hwhite : ∀ character ∈ spaces.reverse, isWhitespace character = true :=
    fun character hmem => isWhitespace_of_isSpace (hspaces character (List.mem_reverse.mp hmem))
  rw [trimEnd, List.reverse_append, List.dropWhile_append_of_pos hwhite, List.reverse_append,
    List.reverse_singleton, List.singleton_append,
    List.dropWhile_cons_of_neg (by rw [hlast]; exact Bool.false_ne_true), List.reverse_cons,
    List.reverse_reverse]

/-- The name of a member is read out of its quotes again. -/
theorem parse_quoted {front : List Char} {name : CodeUnits}
    (hreads : readString (front ++ ['"']) = some (name, [])) :
    parse (String.ofList ('"' :: (front ++ ['"']))) = some (.string name) := by
  have hspace : skipSpace ('"' :: (front ++ ['"'])) = '"' :: (front ++ ['"']) :=
    skipSpace_cons (by decide) _
  rw [parse, String.toList_ofList, readValue, hspace]
  simp only [hreads, Option.map_some]
  rfl

/-- A value ends at the mark behind it, and without the spaces there it is what was read. -/
theorem valueEnd_slice {slice after rest : List Char} {mark : Char}
    (hmark : mark = ',' ∨ mark = '}') (hpassed : PassedOver slice)
    (hspaced : skipSpace after = mark :: rest) :
    ∃ spaces, valueEnd 0 0 (slice ++ after) = some (slice ++ spaces, mark :: rest) ∧
      ∀ character ∈ spaces, isSpace character = true := by
  obtain ⟨spaces, hsplit, hspaces⟩ := skipSpace_split after
  rw [hspaced] at hsplit
  have hend : valueEnd 0 0 (mark :: rest) = some ([], mark :: rest) := by
    rcases hmark with rfl | rfl
    · rfl
    · rfl
  refine ⟨spaces, ?_, hspaces⟩
  rw [hsplit, hpassed 0 (Int.le_refl 0), passedOver_spaces hspaces 0 (Int.le_refl 0), hend, prepended_prepended,
    prepended, Option.map_some, List.append_nil]

/-- What a member that is read consists of. -/
theorem readWritten_cases {fuel : ℕ} {characters left : List Char} {members : List WrittenMember}
    (h : readWritten (fuel + 1) characters = some (members, left)) :
    ∃ front name behind slice after, skipSpace characters = '"' :: (front ++ '"' :: behind) ∧
      (∀ rest, readString (front ++ '"' :: rest) = some (name, rest)) ∧
      (∀ rest, stringTail (front ++ '"' :: rest) = some (front ++ ['"'], rest)) ∧
      (∃ rest value, skipSpace behind = ':' :: rest ∧ readValue fuel rest = some (value, after) ∧
        skipSpace rest = slice ++ after ∧ Framed slice ∧ PassedOver slice ∧
        ((skipSpace after = '}' :: left ∧ members = [⟨name, value, slice⟩]) ∨
          ∃ rest others, skipSpace after = ',' :: rest ∧
            readWritten fuel rest = some (others, left) ∧
            members = ⟨name, value, slice⟩ :: others)) := by
  rw [readWritten] at h
  split at h
  · next rest hquoted =>
      cases hkey : readString rest with
      | none =>
          rw [hkey] at h
          cases h
      | some read =>
          obtain ⟨name, behind⟩ := read
          rw [hkey] at h
          dsimp only at h
          obtain ⟨front, rfl, hreads, htails⟩ := readString_stringTail hkey
          split at h
          · next rest hcolon =>
              cases hread : readValue fuel rest with
              | none =>
                  rw [hread] at h
                  cases h
              | some read =>
                  obtain ⟨value, after⟩ := read
                  rw [hread] at h
                  dsimp only at h
                  obtain ⟨slice, hslice, hframed, hpassed⟩ := (read_passed fuel).1 hread
                  rw [hslice, readUpTo_append] at h
                  refine ⟨front, name, behind, slice, after, hquoted, hreads, htails, rest, value,
                    hcolon, hread, hslice, hframed, hpassed, ?_⟩
                  split at h
                  · next final hclosed =>
                      cases h
                      exact Or.inl ⟨hclosed, rfl⟩
                  · next more hcomma =>
                      obtain ⟨⟨others, final⟩, hothers, hsame⟩ := Option.map_eq_some_iff.mp h
                      cases hsame
                      exact Or.inr ⟨more, others, hcomma, hothers, rfl⟩
                  · cases h
          · cases h
  · cases h

/-- What the scanner does once it has found where a value ends. -/
def scanAfter (fuel : ℕ) (keys : List CodeUnits) (payloadUtf8 : List UInt8) (name : CodeUnits) :
    Option (List Char × List Char) → Option (List UInt8)
  | none => none
  | some (found, rest) =>
      let payloadUtf8 := if name = payloadKey then textBytes (trimEnd found) else payloadUtf8
      match rest with
      | '}' :: _ => some payloadUtf8
      | ',' :: rest => scanMembers fuel (name :: keys) payloadUtf8 rest
      | _ => none

/-- One member is found by the scanner as it is read. -/
theorem scanMembers_step {fuel : ℕ} {characters left : List Char} {members : List WrittenMember}
    (h : readWritten (fuel + 1) characters = some (members, left)) (scanFuel : ℕ)
    (keys : List CodeUnits) (payloadUtf8 : List UInt8) :
    ∃ member others, members = member :: others ∧
      (member.name ∈ keys → scanMembers (scanFuel + 1) keys payloadUtf8 characters = none) ∧
      (member.name ∉ keys →
        (others = [] ∧ scanMembers (scanFuel + 1) keys payloadUtf8 characters =
          some (writtenPayload payloadUtf8 [member])) ∨
        ∃ rest, readWritten fuel rest = some (others, left) ∧
          scanMembers (scanFuel + 1) keys payloadUtf8 characters =
            scanMembers scanFuel (member.name :: keys) (writtenPayload payloadUtf8 [member])
              rest) := by
  obtain ⟨front, name, behind, slice, after, hquoted, hreads, htails, rest, value, hcolon, -,
    hslice, hframed, hpassed, hmembers⟩ := readWritten_cases h
  have hstart := skipWhitespace_of_skipSpace hquoted (by decide)
  have hopen : ¬ (characters.head? = some '}' ∨
      (skipWhitespace characters).head? = some '}') := by
    rw [hstart]
    rintro (hhead | hhead)
    · cases characters with
      | nil => cases hhead
      | cons first rest =>
          cases hhead
          rw [skipSpace_cons (by decide)] at hquoted
          cases hquoted
    · cases hhead
  have hend : stringEnd ('"' :: (front ++ '"' :: behind)) =
      some ('"' :: (front ++ ['"']), behind) := by
    rw [stringEnd, htails]
    rfl
  have hname := parse_quoted (hreads [])
  have hvalue := skipWhitespace_slice hslice hframed
  have hscan : scanMembers (scanFuel + 1) keys payloadUtf8 characters =
      if name ∈ keys then none
      else scanAfter scanFuel keys payloadUtf8 name (valueEnd 0 0 (slice ++ after)) := by
    rw [scanMembers, if_neg hopen, hstart]
    simp only [hend, hname, Option.bind_eq_bind, Option.bind_some,
      skipWhitespace_of_skipSpace hcolon (by decide), hvalue]
    cases valueEnd 0 0 (slice ++ after) with
    | none => rfl
    | some read => rfl
  have hpayload : ∀ spaces : List Char, (∀ character ∈ spaces, isSpace character = true) →
      (if name = payloadKey then textBytes (trimEnd (slice ++ spaces)) else payloadUtf8) =
        writtenPayload payloadUtf8 [⟨name, value, slice⟩] := by
    intro spaces hspaces
    rw [trimEnd_append hframed hspaces]
    rfl
  obtain ⟨hclosed, rfl⟩ | ⟨more, others, hcomma, hothers, rfl⟩ := hmembers
  · obtain ⟨spaces, hfound, hspaces⟩ := valueEnd_slice (Or.inr rfl) hpassed hclosed
    rw [hfound] at hscan
    refine ⟨_, _, rfl, ?_, ?_⟩
    · intro hknown
      rw [hscan, if_pos hknown]
    · intro hnew
      left
      rw [hscan, if_neg hnew]
      exact ⟨rfl, congrArg some (hpayload spaces hspaces)⟩
  · obtain ⟨spaces, hfound, hspaces⟩ := valueEnd_slice (Or.inl rfl) hpassed hcomma
    rw [hfound] at hscan
    refine ⟨_, _, rfl, ?_, ?_⟩
    · intro hknown
      rw [hscan, if_pos hknown]
    · intro hnew
      right
      refine ⟨more, hothers, ?_⟩
      rw [hscan, if_neg hnew, scanAfter]
      dsimp only
      rw [hpayload spaces hspaces]

/-- The scanner finds the members that are read, and stops at a name it has met before. -/
theorem scanMembers_written {fuel scanFuel : ℕ} {characters left : List Char}
    {keys : List CodeUnits} {payloadUtf8 : List UInt8} {members : List WrittenMember}
    (h : readWritten fuel characters = some (members, left)) (hfuel : members.length ≤ scanFuel) :
    scanMembers scanFuel keys payloadUtf8 characters =
      if (members.map WrittenMember.name).Nodup ∧ ∀ member ∈ members, member.name ∉ keys then
        some (writtenPayload payloadUtf8 members)
      else none := by
  induction fuel generalizing scanFuel characters keys payloadUtf8 members with
  | zero => cases h
  | succ fuel ih =>
      obtain ⟨steps, rfl⟩ : ∃ steps, scanFuel = steps + 1 := by
        obtain ⟨member, others, rfl, -⟩ := scanMembers_step h 0 [] []
        rw [List.length_cons] at hfuel
        exact ⟨scanFuel - 1, by omega⟩
      obtain ⟨member, others, rfl, hknown, hnew⟩ := scanMembers_step h steps keys payloadUtf8
      by_cases hkey : member.name ∈ keys
      · rw [hknown hkey, if_neg]
        exact fun hgood => hgood.2 member List.mem_cons_self hkey
      · rcases hnew hkey with ⟨rfl, hscan⟩ | ⟨rest, hread, hscan⟩
        · rw [hscan, if_pos]
          simpa using hkey
        · have hsame : ((others.map WrittenMember.name).Nodup ∧
              ∀ other ∈ others, other.name ∉ member.name :: keys) ↔
              (((member :: others).map WrittenMember.name).Nodup ∧
                ∀ other ∈ member :: others, other.name ∉ keys) := by
            simp only [List.map_cons, List.nodup_cons, List.mem_map, List.mem_cons, not_or,
              not_exists, not_and]
            grind
          rw [hscan, ih hread (by simpa using hfuel)]
          simp only [hsame]
          rfl

/-! ## The scanner ends -/

theorem stringTail_split {characters body left : List Char}
    (h : stringTail characters = some (body, left)) : characters = body ++ left := by
  fun_induction stringTail characters generalizing body left with
  | case1 => cases h
  | case2 rest =>
      cases h
      rfl
  | case3 escaped rest ih =>
      obtain ⟨⟨found, after⟩, hfound, hsame⟩ := Option.map_eq_some_iff.mp h
      cases hsame
      rw [ih hfound]
      rfl
  | case4 character rest hquote hescape ih =>
      obtain ⟨⟨found, after⟩, hfound, hsame⟩ := Option.map_eq_some_iff.mp h
      cases hsame
      rw [ih hfound]
      rfl

theorem stringEnd_split {characters quoted left : List Char}
    (h : stringEnd characters = some (quoted, left)) : left.length < characters.length := by
  rw [stringEnd.eq_def] at h
  split at h
  · next rest =>
      obtain ⟨⟨found, after⟩, hfound, hsame⟩ := Option.map_eq_some_iff.mp h
      cases hsame
      rw [stringTail_split hfound]
      simp only [List.length_cons, List.length_append]
      omega
  · cases h

theorem valueEnd_split {depth : ℤ} {skipped : ℕ} {characters found left : List Char}
    (h : valueEnd depth skipped characters = some (found, left)) :
    characters = found ++ left := by
  induction characters generalizing depth skipped found left with
  | nil =>
      rw [valueEnd.eq_def] at h
      cases h
  | cons character rest ih =>
      have hmap : ∀ {depth : ℤ} {skipped : ℕ},
          (valueEnd depth skipped rest).map (fun found => (character :: found.1, found.2)) =
            some (found, left) → character :: rest = found ++ left := by
        intro depth skipped hfound
        obtain ⟨⟨more, after⟩, hmore, hsame⟩ := Option.map_eq_some_iff.mp hfound
        cases hsame
        rw [ih hmore]
        rfl
      cases skipped with
      | succ skipped => exact hmap h
      | zero =>
          rw [valueEnd] at h
          split at h
          · split at h
            · cases h
            · exact hmap h
          · split at h
            · cases h
              rfl
            · exact hmap h

theorem length_skipWhitespace (text : List Char) : (skipWhitespace text).length ≤ text.length :=
  (List.dropWhile_suffix _).length_le

/-- More steps than the text has characters change nothing: the scanner comes to an end. -/
theorem scanMembers_steps {steps others : ℕ} {keys : List CodeUnits} {payloadUtf8 : List UInt8}
    {text : List Char} (hsteps : text.length < steps) (hothers : text.length < others) :
    scanMembers steps keys payloadUtf8 text = scanMembers others keys payloadUtf8 text := by
  induction steps generalizing others keys payloadUtf8 text with
  | zero => exact absurd hsteps (Nat.not_lt_zero _)
  | succ steps ih =>
      obtain ⟨others, rfl⟩ := Nat.exists_eq_add_of_lt hothers
      rw [scanMembers, scanMembers]
      split
      · rfl
      · cases hend : stringEnd (skipWhitespace text) with
        | none => rfl
        | some read =>
            obtain ⟨quoted, behind⟩ := read
            have hbehind := stringEnd_split hend
            simp only [Option.bind_eq_bind, Option.bind_some]
            congr 1
            funext parsed
            cases parsed with
            | string key =>
                dsimp only
                split
                · rfl
                · split
                  · next rest hcolon =>
                      cases hfound : valueEnd 0 0 (skipWhitespace rest) with
                      | none => rfl
                      | some read =>
                          obtain ⟨found, left⟩ := read
                          simp only [Option.bind_some]
                          split
                          · rfl
                          · next left more =>
                              have hshorter : more.length < text.length := by
                                have htext := length_skipWhitespace text
                                have hcolons := length_skipWhitespace behind
                                have hvalue := length_skipWhitespace rest
                                rw [hcolon, List.length_cons] at hcolons
                                rw [valueEnd_split hfound, List.length_append,
                                  List.length_cons] at hvalue
                                omega
                              exact ih (by omega) (by omega)
                          · rfl
                  · rfl
            | undefined => rfl
            | null => rfl
            | bool flag => rfl
            | number number => rfl
            | array elements => rfl
            | object members => rfl

/-! ## What is accepted -/

/-- The text is a JSON object with these members, no name of which is given twice, and every name
and text in what `JSON.parse` makes of it is well formed. -/
structure IsSerialObject (text : List Char) (members : List WrittenMember) : Prop where
  written : writtenObject text = some members
  names : (members.map WrittenMember.name).Nodup
  wellFormed : allWellFormed (settle (.object (members.map WrittenMember.entry))) = true

/-- The same, with every name and text that is written anywhere in it. -/
structure IsWellFormedText (text : List Char) (members : List WrittenMember) : Prop where
  written : writtenObject text = some members
  names : (members.map WrittenMember.name).Nodup
  wellFormed : allWellFormed (.object (members.map WrittenMember.entry)) = true

theorem readWritten_skipSpace (fuel : ℕ) (characters : List Char) :
    readWritten fuel (skipSpace characters) = readWritten fuel characters := by
  have hidem : skipSpace (skipSpace characters) = skipSpace characters :=
    List.dropWhile_idempotent _ _
  cases fuel with
  | zero => rfl
  | succ fuel => rw [readWritten, readWritten, hidem]

/-- Every member takes characters of its own. -/
theorem length_readWritten {fuel : ℕ} {characters left : List Char} {members : List WrittenMember}
    (h : readWritten fuel characters = some (members, left)) :
    members.length ≤ characters.length := by
  induction fuel generalizing characters members with
  | zero => cases h
  | succ fuel ih =>
      obtain ⟨front, name, behind, slice, after, hquoted, -, -, rest, value, hcolon, -, hslice, -, -,
        hmembers⟩ := readWritten_cases h
      have hlengths : ∀ text : List Char, (skipSpace text).length ≤ text.length :=
        fun text => (List.dropWhile_suffix _).length_le
      have hcharacters := hlengths characters
      have hbehind := hlengths behind
      have hrest := hlengths rest
      have hafter := hlengths after
      rw [hquoted] at hcharacters
      rw [hcolon] at hbehind
      rw [hslice] at hrest
      simp only [List.length_cons, List.length_append] at hcharacters hbehind hrest
      obtain ⟨-, rfl⟩ | ⟨more, others, hcomma, hothers, rfl⟩ := hmembers
      · simp only [List.length_cons, List.length_nil]
        omega
      · have hmore := ih hothers
        rw [hcomma, List.length_cons] at hafter
        rw [List.length_cons]
        omega

/-- On the text of an object the scanner fails only where a name is given twice. -/
theorem scanMembers_writtenObject {text : List Char} {members : List WrittenMember}
    (h : writtenObject text = some members) :
    ∃ rest, skipWhitespace text = '{' :: rest ∧
      scanMembers (rest.length + 1) [] [] rest =
        if (members.map WrittenMember.name).Nodup then some (writtenPayload [] members)
        else none := by
  obtain ⟨rest, left, hspaced, -, ⟨hempty, rfl⟩ | ⟨-, hread⟩⟩ := writtenObject_eq_some_iff.mp h
  · refine ⟨rest, skipWhitespace_of_skipSpace hspaced (by decide), ?_⟩
    have hclosed := skipWhitespace_of_skipSpace hempty (by decide)
    have hend : rest.head? = some '}' ∨ ('}' :: left).head? = some '}' := Or.inr rfl
    rw [scanMembers, hclosed, if_pos hend, List.map_nil, if_pos List.nodup_nil]
    rfl
  · refine ⟨rest, skipWhitespace_of_skipSpace hspaced (by decide), ?_⟩
    rw [readWritten_skipSpace] at hread
    have hlength := length_readWritten hread
    rw [scanMembers_written hread (by omega)]
    simp

/-- `JSON.parse` gives an object only for a text that begins with its brace. -/
theorem object_of_parse {text : List Char} {value : JsValue} {rest : List Char}
    (hparse : parse (String.ofList text) = some value) (hopen : skipWhitespace text = '{' :: rest) :
    ∃ members, writtenObject text = some members ∧
      value = settle (.object (members.map WrittenMember.entry)) := by
  rw [parse_eq_map_readText] at hparse
  obtain ⟨raw, hraw, rfl⟩ := Option.map_eq_some_iff.mp hparse
  have hobject : ∃ members, raw = .object members := by
    rw [readText, String.toList_ofList] at hraw
    split at hraw
    · cases hraw
    · next value left hread =>
        obtain ⟨slice, hslice, hframed, -⟩ := (read_passed _).1 hread
        have hspaced : skipSpace text = '{' :: rest := by
          rw [hslice, ← skipWhitespace_slice hslice hframed, hopen]
        split at hraw
        · cases hraw
          simp only [readValue, hspaced] at hread
          split at hread
          · cases hread
            exact ⟨_, rfl⟩
          · obtain ⟨⟨members, after⟩, -, hsame⟩ := Option.map_eq_some_iff.mp hread
            cases hsame
            exact ⟨members, rfl⟩
        · cases hraw
  obtain ⟨entries, rfl⟩ := hobject
  obtain ⟨members, hmembers, rfl⟩ := readText_eq_object_iff.mp hraw
  exact ⟨members, hmembers, rfl⟩

theorem parseWorkerSerialJson_eq_some_iff {text : List Char} {result : SerialJson} :
    parseWorkerSerialJson text = some result ↔ ∃ members, IsSerialObject text members ∧
      result.value = settle (.object (members.map WrittenMember.entry)) ∧
      result.payloadUtf8 = writtenPayload [] members := by
  constructor
  · intro h
    simp only [parseWorkerSerialJson, Option.bind_eq_bind, Option.bind_eq_some_iff] at h
    obtain ⟨value, hparse, _, hguard, h⟩ := h
    split at h
    · next rest hopen =>
        obtain ⟨members, hmembers, rfl⟩ := object_of_parse hparse hopen
        obtain ⟨behind, hbehind, hscan⟩ := scanMembers_writtenObject hmembers
        cases hopen.symm.trans hbehind
        obtain ⟨payloadUtf8, hpayload, hresult⟩ := Option.bind_eq_some_iff.mp h
        rw [hscan] at hpayload
        split at hpayload
        · next hnames =>
            cases hpayload
            cases hresult
            exact ⟨members, ⟨hmembers, hnames, (Option.guard_eq_some' _).mp hguard⟩, rfl, rfl⟩
        · cases hpayload
    · cases h
  · intro h
    obtain ⟨value, payloadUtf8⟩ := result
    obtain ⟨members, ⟨hwritten, hnames, hwellFormed⟩, rfl, rfl⟩ := h
    obtain ⟨rest, hopen, hscan⟩ := scanMembers_writtenObject hwritten
    have hparse : parse (String.ofList text) =
        some (settle (.object (members.map WrittenMember.entry))) := by
      rw [parse_eq_map_readText, readText_eq_object_iff.mpr ⟨members, hwritten, rfl⟩]
      rfl
    rw [if_pos hnames] at hscan
    simp only [parseWorkerSerialJson, hparse, Option.bind_eq_bind, Option.bind_some, hwellFormed,
      guard, if_true, hopen, hscan]
    rfl

/-- Of members with different names one at most is the payload. -/
theorem writtenPayload_eq {members : List WrittenMember}
    (hnames : (members.map WrittenMember.name).Nodup) (payloadUtf8 : List UInt8) :
    (∀ member ∈ members, member.name = payloadKey →
      writtenPayload payloadUtf8 members = textBytes member.written) ∧
    (payloadKey ∉ members.map WrittenMember.name →
      writtenPayload payloadUtf8 members = payloadUtf8) := by
  induction members generalizing payloadUtf8 with
  | nil => exact ⟨fun _ hmem => absurd hmem List.not_mem_nil, fun _ => rfl⟩
  | cons first members ih =>
      rw [List.map_cons, List.nodup_cons] at hnames
      have hcons : writtenPayload payloadUtf8 (first :: members) = writtenPayload
          (if first.name = payloadKey then textBytes first.written else payloadUtf8) members := rfl
      rw [hcons]
      obtain ⟨hfound, hnone⟩ := ih hnames.2
        (if first.name = payloadKey then textBytes first.written else payloadUtf8)
      constructor
      · intro member hmem hname
        rcases List.mem_cons.mp hmem with rfl | hmem
        · rw [hname] at hnames
          rw [hnone hnames.1, if_pos hname]
        · exact hfound member hmem hname
      · intro hnot
        rw [List.map_cons, List.mem_cons, not_or] at hnot
        rw [hnone hnot.2, if_neg fun hname => hnot.1 hname.symm]

/-- The scanner comes to an end, what is accepted is an object with well-formed contents and
different names, and the payload is the text its value is written with. -/
theorem parseWorkerSerialJson_accepts_iff (text : List Char) :
    (∀ rest steps, rest.length < steps →
      scanMembers steps [] [] rest = scanMembers (rest.length + 1) [] [] rest) ∧
    ((parseWorkerSerialJson text).isSome = true ↔ ∃ members, IsSerialObject text members) ∧
    ∀ result, parseWorkerSerialJson text = some result →
      parse (String.ofList text) = some result.value ∧ ∃ members, IsSerialObject text members ∧
        (∀ member ∈ members, member.name = payloadKey →
          result.payloadUtf8 = textBytes member.written) ∧
        (payloadKey ∉ members.map WrittenMember.name → result.payloadUtf8 = []) := by
  refine ⟨?ends, ?accepts, ?payload⟩
  case ends =>
    intro rest steps hsteps
    exact scanMembers_steps hsteps (Nat.lt_succ_self _)
  case accepts =>
    rw [Option.isSome_iff_exists]
    constructor
    · intro h
      obtain ⟨result, hresult⟩ := h
      obtain ⟨members, hmembers, -⟩ := parseWorkerSerialJson_eq_some_iff.mp hresult
      exact ⟨members, hmembers⟩
    · intro h
      obtain ⟨members, hmembers⟩ := h
      exact ⟨⟨_, _⟩, parseWorkerSerialJson_eq_some_iff.mpr ⟨members, hmembers, rfl, rfl⟩⟩
  case payload =>
    intro result hresult
    obtain ⟨members, hmembers, hvalue, hpayload⟩ := parseWorkerSerialJson_eq_some_iff.mp hresult
    refine ⟨?_, members, hmembers, ?_⟩
    · rw [parse_eq_map_readText, readText_eq_object_iff.mpr ⟨members, hmembers.written, rfl⟩,
        hvalue]
      rfl
    · rw [hpayload]
      exact writtenPayload_eq hmembers.names []

/-- A payload with an escaped name, and braces inside of a text. -/
def sampleSerialText : List Char :=
  "\x7b \"pay\\u006coad\" : [\"\x7d,\", 1 ] , \"kind\":null\x7d".toList

theorem sampleSerialText_payload : ∃ result,
    parseWorkerSerialJson sampleSerialText = some result ∧
      parse (String.ofList sampleSerialText) = some result.value ∧
      result.payloadUtf8 = textBytes "[\"\x7d,\", 1 ]".toList := by
  have haccepted : (parseWorkerSerialJson sampleSerialText).isSome = true := by decide +kernel
  have hslice : ((writtenObject sampleSerialText).all fun members => members.any fun member =>
      member.name = payloadKey && member.written = "[\"\x7d,\", 1 ]".toList) = true := by
    decide +kernel
  obtain ⟨result, hresult⟩ := Option.isSome_iff_exists.mp haccepted
  obtain ⟨hvalue, members, hmembers, hpayload, -⟩ :=
    (parseWorkerSerialJson_accepts_iff sampleSerialText).2.2 result hresult
  rw [hmembers.written, Option.all_some] at hslice
  obtain ⟨member, hmem, hchecked⟩ := List.any_eq_true.mp hslice
  rw [Bool.and_eq_true, decide_eq_true_eq, decide_eq_true_eq] at hchecked
  rw [← hchecked.2, ← hpayload member hmem hchecked.1]
  exact ⟨result, hresult, hvalue, rfl⟩

/-- A text that a later member of the same name replaces is not looked at. -/
def replacedSerialText : List Char :=
  "\x7b\"payload\":\x7b\"x\":\"\\ud800\",\"x\":1\x7d\x7d".toList

theorem replacedSerialText_accepted :
    ¬ ∀ text, (parseWorkerSerialJson text).isSome = true ↔
      ∃ members, IsWellFormedText text members := by
  intro h
  have haccepted : (parseWorkerSerialJson replacedSerialText).isSome = true := by decide +kernel
  have hbroken : ((writtenObject replacedSerialText).all fun members =>
      !allWellFormed (.object (members.map WrittenMember.entry))) = true := by decide +kernel
  obtain ⟨members, hwritten, -, hwellFormed⟩ := (h replacedSerialText).mp haccepted
  rw [hwritten, Option.all_some, hwellFormed] at hbroken
  cases hbroken

end WorkGate
