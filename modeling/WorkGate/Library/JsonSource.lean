/-
# Where the members of an object stand in its text

`JSON.parse` keeps of an object what its members say.  Read with this function, every member also
keeps the characters its value is written with, in the order of the text and as often as its name
is written.
-/

import WorkGate.Library.JsonText

namespace WorkGate.Library.JsonText

/-- A member as it is written: its name, its value, and the characters of the value. -/
structure WrittenMember where
  name : CodeUnits
  value : JsValue
  written : List Char

def WrittenMember.entry (member : WrittenMember) : CodeUnits × JsValue := (member.name, member.value)

/-- What a text starts with, up to what is left of it. -/
def readUpTo (characters left : List Char) : List Char :=
  characters.take (characters.length - left.length)

theorem readUpTo_append (read left : List Char) : readUpTo (read ++ left) left = read := by
  rw [readUpTo, List.length_append, Nat.add_sub_cancel, List.take_left]

/-- `readMembers`, with the characters of every value. -/
def readWritten : ℕ → List Char → Option (List WrittenMember × List Char)
  | 0, _ => none
  | fuel + 1, characters =>
    match skipSpace characters with
    | '"' :: rest =>
      match readString rest with
      | none => none
      | some (name, rest) =>
        match skipSpace rest with
        | ':' :: rest =>
          match readValue fuel rest with
          | none => none
          | some (value, left) =>
            let member : WrittenMember := ⟨name, value, readUpTo (skipSpace rest) left⟩
            match skipSpace left with
            | '}' :: rest => some ([member], rest)
            | ',' :: rest => (readWritten fuel rest).map fun read => (member :: read.1, read.2)
            | _ => none
        | _ => none
    | _ => none

/-- The members of a text that is an object. -/
def writtenObject (characters : List Char) : Option (List WrittenMember) :=
  match skipSpace characters with
  | '{' :: rest =>
    match skipSpace rest with
    | '}' :: left => if skipSpace left = [] then some [] else none
    | rest =>
      match readWritten (2 * characters.length + 1) rest with
      | none => none
      | some (members, left) => if skipSpace left = [] then some members else none
  | _ => none

/-- Without their characters these are the members that are read. -/
theorem map_readWritten (fuel : ℕ) (characters : List Char) :
    (readWritten fuel characters).map (fun read => (read.1.map WrittenMember.entry, read.2)) =
      readMembers fuel characters := by
  induction fuel generalizing characters with
  | zero => rfl
  | succ fuel ih =>
      rw [readWritten, readMembers]
      cases skipSpace characters with
      | nil => rfl
      | cons first rest =>
          by_cases hquote : first = '"'
          · subst hquote
            cases hname : readString rest with
            | none => simp only [hname, Option.map_none]
            | some read =>
                obtain ⟨name, rest⟩ := read
                simp only [hname]
                cases skipSpace rest with
                | nil => rfl
                | cons mark rest =>
                    by_cases hcolon : mark = ':'
                    · subst hcolon
                      cases hvalue : readValue fuel rest with
                      | none => simp only [hvalue, Option.map_none]
                      | some read =>
                          obtain ⟨value, left⟩ := read
                          simp only [hvalue]
                          cases skipSpace left with
                          | nil => rfl
                          | cons mark after =>
                              by_cases hclosed : mark = '}'
                              · subst hclosed
                                rfl
                              · by_cases hcomma : mark = ','
                                · subst hcomma
                                  simp only [← ih after, Option.map_map]
                                  rfl
                                · simp [hclosed, hcomma]
                    · simp [hcolon]
          · simp [hquote]

theorem readScalar_ne_object {characters left : List Char} {members : List (CodeUnits × JsValue)} :
    readScalar characters ≠ some (.object members, left) := by
  intro h
  rw [readScalar.eq_def] at h
  split at h
  · cases h
  · cases h
  · cases h
  · obtain ⟨read, -, hsame⟩ := Option.map_eq_some_iff.mp h
    cases hsame

/-- An object that is read is empty or has members. -/
theorem readValue_eq_object_iff {fuel : ℕ} {characters left : List Char}
    {members : List (CodeUnits × JsValue)} :
    readValue (fuel + 1) characters = some (.object members, left) ↔
      ∃ rest, skipSpace characters = '{' :: rest ∧
        (skipSpace rest = '}' :: left ∧ members = [] ∨
          (∀ left, skipSpace rest ≠ '}' :: left) ∧
            readMembers fuel (skipSpace rest) = some (members, left)) := by
  rw [readValue]
  split
  · next rest hspaced =>
      simp [hspaced]
  · next rest hspaced =>
      simp only [hspaced]
      split
      · simp
      · simp
  · next rest hspaced =>
      simp only [hspaced]
      split
      · next after hempty =>
          constructor
          · intro h
            cases h
            exact ⟨rest, rfl, Or.inl ⟨hempty, rfl⟩⟩
          · intro h
            obtain ⟨found, hfound, ⟨hclosed, rfl⟩ | ⟨hopen, -⟩⟩ := h
            · cases hfound
              cases hempty.symm.trans hclosed
              rfl
            · cases hfound
              exact absurd hempty (hopen after)
      · next hopen =>
          constructor
          · intro h
            obtain ⟨⟨found, after⟩, hread, hsame⟩ := Option.map_eq_some_iff.mp h
            cases hsame
            exact ⟨rest, rfl, Or.inr ⟨hopen, hread⟩⟩
          · intro h
            obtain ⟨found, hfound, ⟨hclosed, -⟩ | ⟨-, hread⟩⟩ := h
            · cases hfound
              exact absurd hclosed (hopen left)
            · cases hfound
              rw [hread]
              rfl
  · next hstring harray hobject =>
      constructor
      · intro h
        exact absurd h readScalar_ne_object
      · intro h
        obtain ⟨rest, hspaced, -⟩ := h
        exact absurd hspaced (hobject rest)

theorem writtenObject_eq_some_iff {characters : List Char} {members : List WrittenMember} :
    writtenObject characters = some members ↔
      ∃ rest left, skipSpace characters = '{' :: rest ∧ skipSpace left = [] ∧
        (skipSpace rest = '}' :: left ∧ members = [] ∨
          (∀ left, skipSpace rest ≠ '}' :: left) ∧
            readWritten (2 * characters.length + 1) (skipSpace rest) = some (members, left)) := by
  rw [writtenObject]
  split
  · next rest hspaced =>
      simp only [hspaced]
      split
      · next after hempty =>
          constructor
          · intro h
            split at h
            · next hend =>
                cases h
                exact ⟨rest, after, rfl, hend, Or.inl ⟨hempty, rfl⟩⟩
            · cases h
          · intro h
            obtain ⟨found, left, hfound, hend, ⟨hclosed, rfl⟩ | ⟨hopen, -⟩⟩ := h
            · cases hfound
              cases hempty.symm.trans hclosed
              exact if_pos hend
            · cases hfound
              exact absurd hempty (hopen after)
      · next hopen =>
          constructor
          · intro h
            split at h
            · cases h
            · next found left hread =>
                split at h
                · next hend =>
                    cases h
                    exact ⟨rest, left, rfl, hend, Or.inr ⟨hopen, hread⟩⟩
                · cases h
          · intro h
            obtain ⟨found, left, hfound, hend, ⟨hclosed, -⟩ | ⟨-, hread⟩⟩ := h
            · cases hfound
              exact absurd hclosed (hopen left)
            · cases hfound
              rw [hread]
              exact if_pos hend
  · next hobject =>
      constructor
      · intro h
        cases h
      · intro h
        obtain ⟨rest, left, hspaced, -⟩ := h
        exact absurd hspaced (hobject rest)

/-- A text is read as an object exactly when its members are found. -/
theorem readText_eq_object_iff {characters : List Char}
    {members : List (CodeUnits × JsValue)} :
    readText (String.ofList characters) = some (.object members) ↔
      ∃ written, writtenObject characters = some written ∧
        written.map WrittenMember.entry = members := by
  have htext : readText (String.ofList characters) = some (.object members) ↔
      ∃ left, readValue (2 * characters.length + 1 + 1) characters =
        some (.object members, left) ∧ skipSpace left = [] := by
    rw [readText, String.toList_ofList]
    constructor
    · intro h
      split at h
      · cases h
      · next value left hread =>
          split at h
          · next hend =>
              cases h
              exact ⟨left, hread, hend⟩
          · cases h
    · intro h
      obtain ⟨left, hread, hend⟩ := h
      rw [hread]
      exact if_pos hend
  rw [htext]
  constructor
  · intro h
    obtain ⟨left, hread, hend⟩ := h
    obtain ⟨rest, hspaced, ⟨hempty, rfl⟩ | ⟨hopen, hmembers⟩⟩ := readValue_eq_object_iff.mp hread
    · exact ⟨[], writtenObject_eq_some_iff.mpr ⟨rest, left, hspaced, hend, Or.inl ⟨hempty, rfl⟩⟩,
        rfl⟩
    · rw [← map_readWritten] at hmembers
      obtain ⟨⟨written, after⟩, hwritten, hsame⟩ := Option.map_eq_some_iff.mp hmembers
      cases hsame
      exact ⟨written,
        writtenObject_eq_some_iff.mpr ⟨rest, after, hspaced, hend, Or.inr ⟨hopen, hwritten⟩⟩, rfl⟩
  · intro h
    obtain ⟨written, hwritten, rfl⟩ := h
    obtain ⟨rest, left, hspaced, hend, hmembers⟩ := writtenObject_eq_some_iff.mp hwritten
    refine ⟨left, readValue_eq_object_iff.mpr ⟨rest, hspaced, ?_⟩, hend⟩
    apply hmembers.imp
    · intro hempty
      rw [hempty.2]
      exact ⟨hempty.1, rfl⟩
    · intro hfull
      rw [← map_readWritten, hfull.2]
      exact ⟨hfull.1, rfl⟩

end WorkGate.Library.JsonText
