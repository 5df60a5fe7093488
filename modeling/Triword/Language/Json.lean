/-!
JSON documents, read strictly: nothing but blanks may follow the value, and every string must be well
formed. A string whose escapes name half of a pair is well formed but has no value.
-/

namespace Triword.Language

inductive Json where
  | null
  | bool (b : Bool)
  | number (digits : String)
  | string (s : Option String)
  | array (items : List Json)
  | object (members : List (Option String × Json))

namespace Json

/-- Reads a value of type `α` from the start of a text, and gives the rest of the text. -/
abbrev Reader (α : Type) := StateT (List Char) Option α

def isBlank (c : Char) : Bool :=
  c == ' ' || c == '\n' || c == '\t' || c == '\r'

def skipBlanks : Reader Unit :=
  modify (List.dropWhile isBlank)

def next : Reader Char := do
  match ← get with
  | c :: cs => set cs; return c
  | [] => failure

def skip? (cs : List Char) : Reader Bool := do
  let all ← get
  if cs.isPrefixOf all then
    set (all.drop cs.length)
    return true
  else return false

def expect (cs : List Char) : Reader Unit := do
  if !(← skip? cs) then failure

def digits : Reader (List Char) := do
  let all ← get
  let ds := all.takeWhile Char.isDigit
  if ds.isEmpty then failure
  set (all.drop ds.length)
  return ds

def wholePart : Reader (List Char) := do
  if ← skip? ['0'] then return ['0']
  digits

def fraction : Reader (List Char) := do
  if ← skip? ['.'] then return '.' :: (← digits) else return []

def exponent : Reader (List Char) := do
  if ← skip? ['e'] <||> skip? ['E'] then
    let sign ← if ← skip? ['-'] then pure ['-'] else do
      discard (skip? ['+'])
      pure []
    return 'e' :: sign ++ (← digits)
  else return []

def numeral : Reader Json := do
  let sign ← if ← skip? ['-'] then pure ['-'] else pure []
  let whole ← wholePart
  let part ← fraction
  return .number (String.ofList (sign ++ whole ++ part ++ (← exponent)))

def hexValue? (c : Char) : Option Nat :=
  if c.isDigit then some (c.toNat - '0'.toNat)
  else if 'a' ≤ c.toLower ∧ c.toLower ≤ 'f' then some (c.toLower.toNat - 'a'.toNat + 10)
  else none

def unit : Reader Nat := do
  let digit : Reader Nat := do (hexValue? (← next)).elim failure pure
  let a ← digit
  let b ← digit
  let c ← digit
  let d ← digit
  return ((a * 16 + b) * 16 + c) * 16 + d

inductive Piece where
  | char (c : Char)
  | unit (n : Nat)

def escape : Reader Piece := do
  match ← next with
  | '"' => return .char '"'
  | '\\' => return .char '\\'
  | '/' => return .char '/'
  | 'b' => return .char '\x08'
  | 'f' => return .char '\x0c'
  | 'n' => return .char '\n'
  | 'r' => return .char '\r'
  | 't' => return .char '\t'
  | 'u' => return .unit (← unit)
  | _ => failure

def pieces : (fuel : Nat) → Reader (List Piece)
  | 0 => failure
  | fuel + 1 => do
    match ← next with
    | '"' => return []
    | '\\' => return (← escape) :: (← pieces fuel)
    | c => if c.toNat < 0x20 then failure else return .char c :: (← pieces fuel)

def isHigh (n : Nat) : Bool :=
  decide (0xD800 ≤ n) && decide (n < 0xDC00)

def isLow (n : Nat) : Bool :=
  decide (0xDC00 ≤ n) && decide (n < 0xE000)

/-- The characters of the pieces, unless half of a pair stands alone. -/
def join? : List Piece → Option (List Char)
  | [] => some []
  | .char c :: rest => (join? rest).map (c :: ·)
  | .unit high :: .unit low :: rest =>
    if isHigh high then
      if isLow low then
        (join? rest).map (Char.ofNat (0x10000 + (high - 0xD800) * 0x400 + (low - 0xDC00)) :: ·)
      else none
    else if isLow high then none
    else (join? (.unit low :: rest)).map (Char.ofNat high :: ·)
  | .unit n :: rest =>
    if isHigh n || isLow n then none else (join? rest).map (Char.ofNat n :: ·)

def stringBody : Reader (Option String) := do
  let ps ← pieces ((← get).length + 1)
  return (join? ps).map String.ofList

mutual

def value : (fuel : Nat) → Reader Json
  | 0 => failure
  | fuel + 1 => do
    skipBlanks
    let v ← bareValue fuel
    skipBlanks
    return v

def bareValue : (fuel : Nat) → Reader Json
  | 0 => failure
  | fuel + 1 => do
    if ← skip? "null".toList then return .null
    if ← skip? "true".toList then return .bool true
    if ← skip? "false".toList then return .bool false
    if ← skip? ['"'] then return .string (← stringBody)
    if ← skip? ['['] then
      skipBlanks
      if ← skip? [']'] then return .array []
      return .array (← items fuel)
    if ← skip? ['\x7b'] then
      skipBlanks
      if ← skip? ['\x7d'] then return .object []
      return .object (← members fuel)
    numeral

def items : (fuel : Nat) → Reader (List Json)
  | 0 => failure
  | fuel + 1 => do
    let v ← value fuel
    if ← skip? [']'] then return [v]
    expect [',']
    return v :: (← items fuel)

def members : (fuel : Nat) → Reader (List (Option String × Json))
  | 0 => failure
  | fuel + 1 => do
    skipBlanks
    expect ['"']
    let key ← stringBody
    skipBlanks
    expect [':']
    let v ← value fuel
    if ← skip? ['\x7d'] then return [(key, v)]
    expect [',']
    return (key, v) :: (← members fuel)

end

def read? (text : String) : Option Json := do
  let cs := text.toList
  let (v, rest) ← (value (3 * cs.length + 3)).run cs
  if rest.isEmpty then return v else failure

def writeChar (c : Char) : List Char :=
  match c with
  | '"' => ['\\', '"']
  | '\\' => ['\\', '\\']
  | c =>
    if c.toNat < 0x20 then
      let digits := Nat.toDigits 16 c.toNat
      ['\\', 'u'] ++ List.replicate (4 - digits.length) '0' ++ digits
    else [c]

def writeString (s : String) : String :=
  String.ofList ('"' :: s.toList.flatMap writeChar ++ ['"'])

def writeArray (values : List String) : String :=
  "[" ++ ",".intercalate values ++ "]"

def writeObject (members : List (String × String)) : String :=
  "\x7b" ++ ",".intercalate (members.map fun (k, v) => writeString k ++ ":" ++ v) ++ "\x7d"

end Json

end Triword.Language
