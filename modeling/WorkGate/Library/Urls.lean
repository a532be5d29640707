/-
# URLs of schemes that are not special

How the parts of a text such as `scheme://user@host:1/path?query#fragment` are told apart.  The
parts keep the spelling they have in the text: escaping changes neither which of them are empty
nor which segments the path has.
-/

import WorkGate.Library.CodeUnits

namespace WorkGate.Library

/-- A URL with an authority, by its parts. -/
structure ParsedUrl where
  scheme : List Char
  username : List Char
  password : List Char
  host : List Char
  maybePort : Option ℕ
  /-- The path is a slash before each of them. -/
  segments : List (List Char)
  query : List Char
  fragment : List Char
  deriving DecidableEq

namespace ParsedUrl

/-! ## What is read -/

def isTabOrLineEnd (character : Char) : Bool :=
  character.toNat = 9 || character.toNat = 10 || character.toNat = 13

/-- Control characters and spaces around the text go, and so do tabs and line ends inside it. -/
def clean (characters : List Char) : List Char :=
  let isBlank := fun character : Char => decide (character.toNat ≤ 32)
  (((characters.dropWhile isBlank).reverse.dropWhile isBlank).reverse).filter
    fun character => !isTabOrLineEnd character

def isSchemeCharacter (character : Char) : Bool :=
  character.isAlphanum || character = '+' || character = '-' || character = '.'

/-- Schemes whose URLs are read by rules of their own. -/
def specialSchemes : List (List Char) :=
  ["ftp".toList, "file".toList, "http".toList, "https".toList, "ws".toList, "wss".toList]

/-- The scheme in lower case, and what follows its colon. -/
def readScheme (characters : List Char) : Option (List Char × List Char) :=
  match characters.takeWhile isSchemeCharacter, characters.dropWhile isSchemeCharacter with
  | first :: name, ':' :: rest =>
      if first.isAlpha then some ((first :: name).map Char.toLower, rest) else none
  | _, _ => none

/-- What comes before the last of these marks, if there is one, and what comes behind it. -/
def splitLast (mark : Char) (characters : List Char) : Option (List Char) × List Char :=
  let behind := (characters.reverse.takeWhile (· ≠ mark)).reverse
  if mark ∈ characters then (some (characters.take (characters.length - behind.length - 1)), behind)
  else (none, characters)

/-- The host, and what follows the first colon outside brackets. -/
def splitPort : Bool → List Char → List Char × Option (List Char)
  | _, [] => ([], none)
  | inBrackets, character :: rest =>
      if character = ':' ∧ inBrackets = false then ([], some rest)
      else
        let split := splitPort
          (if character = '[' then true else if character = ']' then false else inBrackets) rest
        (character :: split.1, split.2)

/-- Up to five digits that fit in sixteen bits; an empty port counts as none. -/
def readPort (digits : List Char) : Option (Option ℕ) :=
  if digits = [] then some none
  else if digits.all Char.isDigit then
    if Nat.ofDigitChars 10 digits 0 ≤ 65535 then some (some (Nat.ofDigitChars 10 digits 0)) else none
  else none

/-! ## Hosts -/

/-- Four decimal numbers of eight bits, none with a leading zero. -/
def isDottedAddress (characters : List Char) : Bool :=
  let numbers := characters.splitOn '.'
  numbers.length = 4 && numbers.all fun digits =>
    !digits.isEmpty && digits.all Char.isDigit &&
      (digits.length = 1 || digits.head? ≠ some '0') && Nat.ofDigitChars 10 digits 0 ≤ 255

def isHexDigit (character : Char) : Bool :=
  character.isDigit || ('a' ≤ character && character ≤ 'f') || ('A' ≤ character && character ≤ 'F')

/-- How many pieces of an address the text has, and whether some are left out of it. -/
def countPieces : ℕ → ℕ → Bool → List Char → Option (ℕ × Bool)
  | _, pieces, shortened, [] => some (pieces, shortened)
  | 0, _, _, _ => none
  | fuel + 1, pieces, shortened, character :: rest =>
      if pieces = 8 then none
      else if character = ':' then
        if shortened then none else countPieces fuel (pieces + 1) true rest
      else
        let digits := ((character :: rest).take 4).takeWhile isHexDigit
        match (character :: rest).drop digits.length with
        | [] => some (pieces + 1, shortened)
        | '.' :: _ =>
            if digits = [] ∨ 6 < pieces ∨ isDottedAddress (character :: rest) = false then none
            else some (pieces + 2, shortened)
        | ':' :: rest =>
            if rest = [] then none else countPieces fuel (pieces + 1) shortened rest
        | _ => none

/-- The text of an IPv6 address: eight pieces, or fewer around a double colon. -/
def isAddress (characters : List Char) : Bool :=
  let counted := match characters with
    | ':' :: ':' :: rest => countPieces 9 1 true rest
    | ':' :: _ => none
    | characters => countPieces 9 0 false characters
  match counted with
  | none => false
  | some (pieces, shortened) => shortened || pieces = 8

/-- Characters no host may have. -/
def isForbiddenInHost (character : Char) : Bool :=
  character ∈ [' ', '#', '/', ':', '<', '>', '?', '@', '[', '\\', ']', '^', '|'] ||
    character.toNat = 0 || isTabOrLineEnd character

def isHost : List Char → Bool
  | '[' :: rest => rest.getLast? = some ']' && isAddress rest.dropLast
  | host => !host.any isForbiddenInHost

/-! ## Paths -/

/-- A dot, as it is or escaped. -/
def dots : List (List Char) := [".".toList, "%2e".toList]

def isSingleDot (segment : List Char) : Bool := segment.map Char.toLower ∈ dots

def isDoubleDot (segment : List Char) : Bool :=
  segment.map Char.toLower ∈ dots.flatMap fun first => dots.map fun second => first ++ second

/-- The segments of a path with those that are dots carried out. -/
def resolve : List (List Char) → List (List Char) → List (List Char)
  | done, [] => done
  | done, [last] =>
      if isDoubleDot last then done.dropLast ++ [[]]
      else if isSingleDot last then done ++ [[]]
      else done ++ [last]
  | done, segment :: next :: rest =>
      if isDoubleDot segment then resolve done.dropLast (next :: rest)
      else if isSingleDot segment then resolve done (next :: rest)
      else resolve (done ++ [segment]) (next :: rest)

def readPath : List Char → List (List Char)
  | '/' :: rest => resolve [] (rest.splitOn '/')
  | _ => []

/-! ## URLs -/

/-- What stands before the first of these marks, and what comes from there on. -/
def cut (marks : List Char) (characters : List Char) : List Char × List Char :=
  (characters.takeWhile (· ∉ marks), characters.dropWhile (· ∉ marks))

/-- `new URL`, for a scheme that is not special and a text with an authority. -/
def parse (characters : List Char) : Option ParsedUrl :=
  match readScheme (clean characters) with
  | some (scheme, '/' :: '/' :: rest) =>
      let (authority, rest) := cut ['/', '?', '#'] rest
      let (maybeCredentials, named) := splitLast '@' authority
      let (host, maybePortText) := splitPort false named
      let (path, rest) := cut ['?', '#'] rest
      let (query, fragment) := cut ['#'] rest
      let (username, password) := cut [':'] (maybeCredentials.getD [])
      match readPort (maybePortText.getD []) with
      | none => none
      | some maybePort =>
          -- A host may be left out only where nothing else is said of it.
          if scheme ∈ specialSchemes ∨ isHost host = false ∨
              host = [] ∧ (maybeCredentials.isSome ∨ maybePortText.isSome) then none
          else some {
            scheme, username, password := password.drop 1, host, maybePort,
            segments := readPath path, query := query.drop 1, fragment := fragment.drop 1 }
  | _ => none

end ParsedUrl

end WorkGate.Library
