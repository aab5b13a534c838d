/-!
# JSON values

Values of JSON and the layout in which reports are written: two blanks for each level, one entry to a line.
-/

namespace ScriptTidy

/-- A value of JSON. A number is kept as the integer `mantissa` times a power of ten. -/
inductive Json where
  | null
  | bool (value : Bool)
  | number (mantissa exponent : Int)
  | text (value : String)
  | array (items : List Json)
  | object (fields : List (String × Json))
  deriving Repr, Inhabited

namespace Json

/-- A count as a number. -/
def ofNat (n : Nat) : Json := number n 0

/-- An array of texts. -/
def texts (items : List String) : Json := array (items.map text)

/-- The field of an object. Of several fields with one name the last one counts. -/
def field? (key : String) : Json → Option Json
  | object fields => (fields.findRev? (·.1 = key)).map (·.2)
  | _ => none

/-- The four hexadecimal digits of a number below `65536`. -/
def hex4 (n : Nat) : List Char := [3, 2, 1, 0].map fun i => Nat.digitChar (n / Nat.pow 16 i % 16)

/-- The way to write a character between quotes. -/
def escape (c : Char) : List Char :=
  if c = '"' then ['\\', '"']
  else if c = '\\' then ['\\', '\\']
  else if c = '\n' then ['\\', 'n']
  else if c = '\r' then ['\\', 'r']
  else if c = '\t' then ['\\', 't']
  else if c.toNat = 8 then ['\\', 'b']
  else if c.toNat = 12 then ['\\', 'f']
  else if c.toNat < 32 then '\\' :: 'u' :: hex4 c.toNat
  else [c]

/-- A text between quotes. -/
def quote (s : String) : String := "\"" ++ String.ofList (s.toList.flatMap escape) ++ "\""

/-- An integer, or an integer with an exponent. -/
def numeral (mantissa exponent : Int) : String :=
  if exponent = 0 then toString mantissa else toString mantissa ++ "e" ++ toString exponent

/-- The start of a line at a level. -/
def indent (level : Nat) : String := "\n" ++ String.ofList (List.replicate (2 * level) ' ')

/-- Items between brackets, one to a line, or the bare brackets if there are none. -/
def bracketed (opening closing : String) (level : Nat) (items : List String) : String :=
  if items.isEmpty then opening ++ closing
  else
    opening ++ indent (level + 1) ++ ("," ++ indent (level + 1)).intercalate items ++ indent level ++ closing

/-- The text of a value that stands at a level. -/
def layout (level : Nat) : Json → String
  | null => "null"
  | bool value => if value then "true" else "false"
  | number mantissa exponent => numeral mantissa exponent
  | text value => quote value
  | array items => bracketed "[" "]" level (layoutItems items)
  | object fields => bracketed "\x7b" "\x7d" level (layoutFields fields)
where
  layoutItems : List Json → List String
    | [] => []
    | item :: items => layout (level + 1) item :: layoutItems items
  layoutFields : List (String × Json) → List String
    | [] => []
    | (key, value) :: fields => (quote key ++ ": " ++ layout (level + 1) value) :: layoutFields fields

/-- The text of a value over several lines. -/
def pretty (v : Json) : String := v.layout 0

end Json

end ScriptTidy
