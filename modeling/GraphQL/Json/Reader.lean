import GraphQL.Json
import GraphQL.Decimal.Reader

/-! Reading a JSON document.

`Token.ofChars?` cuts the text into tokens in one pass, and `ofTokens?` assembles
them with a stack of the arrays and objects still open, so documents may nest to
any depth. Objects come out sorted by key. -/
namespace GraphQL.Json

/-! ### Numbers -/

/-- The digits at the front, and what follows them. -/
def takeDigits : List Char → List Nat × List Char
  | [] => ([], [])
  | c :: rest =>
    match Decimal.digit? c with
    | some d => let (ds, after) := takeDigits rest; (d :: ds, after)
    | none => ([], c :: rest)

def ofDigits (ds : List Nat) : Nat := ds.foldl (fun n d => 10 * n + d) 0

/-- A fraction, if a point comes next; then it has at least one digit. -/
def takeFraction? : List Char → Option (Option (List Nat) × List Char)
  | '.' :: rest =>
    let (ds, after) := takeDigits rest
    if ds.isEmpty then none else some (some ds, after)
  | rest => some (none, rest)

/-- An exponent, if the mark of one comes next; then it has at least one digit. -/
def takeExponent? : List Char → Option (Option Int × List Char)
  | [] => some (none, [])
  | c :: rest =>
    if c = 'e' ∨ c = 'E' then
      let (negative, rest) : Bool × List Char :=
        match rest with
        | '-' :: rest => (true, rest)
        | '+' :: rest => (false, rest)
        | rest => (false, rest)
      let (ds, after) := takeDigits rest
      if ds.isEmpty then none
      else some (some (if negative then -(ofDigits ds : Int) else ofDigits ds), after)
    else some (none, c :: rest)

/-- Whole numbers from `-2^63` to `2^64 - 1` are integers; all others are doubles,
negative zero included. -/
def wholeNumber? (negative : Bool) (ds : List Nat) : Option Number :=
  let n := ofDigits ds
  if negative then
    if 0 < n ∧ n ≤ Nat.pow 2 63 then some (.integer (-n))
    else (Decimal.Double.ofDigits? true ds [] 0).map .double
  else if n < Nat.pow 2 64 then some (.integer n)
  else (Decimal.Double.ofDigits? false ds [] 0).map .double

def unsigned? (negative : Bool) (cs : List Char) : Option Number := do
  let (whole, rest) := takeDigits cs
  if whole.isEmpty ∨ (whole.head? = some 0 ∧ 1 < whole.length) then none
  let (fraction, rest) ← takeFraction? rest
  let (exponent, rest) ← takeExponent? rest
  if !rest.isEmpty then none
  match fraction, exponent with
  | none, none => wholeNumber? negative whole
  | _, _ =>
    let x := Decimal.Double.ofDigits? negative whole (fraction.getD []) (exponent.getD 0)
    x.map .double

def number? : List Char → Option Number
  | '-' :: cs => unsigned? true cs
  | cs => unsigned? false cs

/-! ### Tokens -/

inductive Token
  | openArray | closeArray | openObject | closeObject | comma | colon
  | string (value : String)
  | atom (value : Json)

/-- What a run of characters outside strings and punctuation means. -/
def atom? (word : String) : Option Json :=
  match word with
  | "null" => some .null
  | "true" => some (.bool true)
  | "false" => some (.bool false)
  | _ => (number? word.toList).map .number

def isBlank (c : Char) : Bool := c == ' ' || c == '\n' || c == '\r' || c == '\t'

def punctuation? : Char → Option Token
  | '[' => some .openArray
  | ']' => some .closeArray
  | '\x7b' => some .openObject
  | '\x7d' => some .closeObject
  | ',' => some .comma
  | ':' => some .colon
  | _ => none

def hexDigit? (c : Char) : Option Nat :=
  if c.isDigit then some (c.toNat - '0'.toNat)
  else if 'a' ≤ c ∧ c ≤ 'f' then some (c.toNat - 'a'.toNat + 10)
  else if 'A' ≤ c ∧ c ≤ 'F' then some (c.toNat - 'A'.toNat + 10)
  else none

def hexCode? (a b c d : Char) : Option Nat := do
  let a ← hexDigit? a
  let b ← hexDigit? b
  let c ← hexDigit? c
  let d ← hexDigit? d
  return ((a * 16 + b) * 16 + c) * 16 + d

def isHighSurrogate (n : Nat) : Bool := 0xD800 ≤ n && n < 0xDC00

def isLowSurrogate (n : Nat) : Bool := 0xDC00 ≤ n && n < 0xE000

/-- The character named by two surrogates. -/
def joinSurrogates (high low : Nat) : Char :=
  Char.ofNat (0x10000 + (high - 0xD800) * 0x400 + (low - 0xDC00))

/-- The character a one-letter escape stands for. -/
def escaped? : Char → Option Char
  | '"' => some '"'
  | '\\' => some '\\'
  | '/' => some '/'
  | 'b' => some '\x08'
  | 'f' => some '\x0c'
  | 'n' => some '\n'
  | 'r' => some '\r'
  | 't' => some '\t'
  | _ => none

/-- Ends a word in progress, kept in reverse, as an atom. -/
def endWord? (word : List Char) (done : List Token) : Option (List Token) :=
  if word.isEmpty then some done
  else (atom? (String.ofList word.reverse)).map fun v => .atom v :: done

mutual
/-- The tokens of the rest of a text, after a word in progress and the tokens
already done, both in reverse. -/
def tokensFrom (word : List Char) (done : List Token) : List Char → Option (List Token)
  | [] => (endWord? word done).map List.reverse
  | c :: rest =>
    if c == '"' then (endWord? word done).bind fun done => stringFrom none [] done rest
    else if isBlank c then (endWord? word done).bind fun done => tokensFrom [] done rest
    else
      match punctuation? c with
      | some t => (endWord? word done).bind fun done => tokensFrom [] (t :: done) rest
      | none => tokensFrom (c :: word) done rest

/-- The same inside a string, after its characters so far, in reverse, and a first
surrogate that waits for its second. -/
def stringFrom (high : Option Nat) (seen : List Char) (done : List Token) :
    List Char → Option (List Token)
  | '\\' :: 'u' :: a :: b :: c :: d :: rest =>
    match hexCode? a b c d, high with
    | none, _ => none
    | some n, none =>
      if isHighSurrogate n then stringFrom (some n) seen done rest
      else if isLowSurrogate n then none
      else stringFrom none (Char.ofNat n :: seen) done rest
    | some n, some h =>
      if isLowSurrogate n then stringFrom none (joinSurrogates h n :: seen) done rest else none
  | '\\' :: c :: rest =>
    match high, escaped? c with
    | none, some e => stringFrom none (e :: seen) done rest
    | _, _ => none
  | '"' :: rest =>
    if high.isSome then none
    else tokensFrom [] (.string (String.ofList seen.reverse) :: done) rest
  | c :: rest => if high.isSome ∨ c < ' ' then none else stringFrom none (c :: seen) done rest
  | [] => none
end

def Token.ofChars? (cs : List Char) : Option (List Token) := tokensFrom [] [] cs

/-! ### Values -/

/-- An array or an object still open, with what it holds so far in reverse. -/
inductive Frame
  | items (before : List Json)
  | member (before : List (String × Json)) (key : String)

mutual
/-- A value comes next, inside the frames. -/
def valueFrom (frames : List Frame) : List Token → Option Json
  | .atom v :: rest => valueDone v frames rest
  | .string s :: rest => valueDone (.string s) frames rest
  | .openArray :: .closeArray :: rest => valueDone (.array []) frames rest
  | .openArray :: rest => valueFrom (.items [] :: frames) rest
  | .openObject :: .closeObject :: rest => valueDone (.object []) frames rest
  | .openObject :: rest => memberFrom [] frames rest
  | _ => none

/-- The value `v` has just ended. -/
def valueDone (v : Json) (frames : List Frame) : List Token → Option Json
  | [] => if frames.isEmpty then some v else none
  | .comma :: rest =>
    match frames with
    | .items before :: frames => valueFrom (.items (v :: before) :: frames) rest
    | .member before key :: frames => memberFrom ((key, v) :: before) frames rest
    | [] => none
  | .closeArray :: rest =>
    match frames with
    | .items before :: frames => valueDone (.array (v :: before).reverse) frames rest
    | _ => none
  | .closeObject :: rest =>
    match frames with
    | .member before key :: frames => valueDone (ofMembers ((key, v) :: before).reverse) frames rest
    | _ => none
  | _ => none

/-- A key comes next, after the members of an object so far. -/
def memberFrom (before : List (String × Json)) (frames : List Frame) : List Token → Option Json
  | .string key :: .colon :: rest => valueFrom (.member before key :: frames) rest
  | _ => none
end

/-- The one value a list of tokens spells. -/
def ofTokens? (tokens : List Token) : Option Json := valueFrom [] tokens

/-- Reads a document. -/
def read? (document : String) : Option Json := (Token.ofChars? document.toList).bind ofTokens?

end GraphQL.Json
