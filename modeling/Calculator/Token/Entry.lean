import Calculator.Token
import Calculator.Decimal.Layout

/-!
# Tokens as entries of the log

In the log a token appears as an entry: the name of its kind and a value, which is a number, a
text, or nothing. Every token has its entry; an entry by itself may pair any kind with any value.
-/

namespace Calculator

namespace Symbol

/-- The name of a symbol in the log. -/
def name : Symbol → String
  | maximum => "OP_MAX"
  | plus => "OP_PLUS"
  | minus => "OP_MINUS"
  | times => "OP_MUL"
  | divide => "OP_DIV"
  | power => "OP_POW"
  | openParen => "RBRACE_LEFT"
  | closeParen => "RBRACE_RIGHT"

end Symbol

namespace TokenKind

/-- The name of a kind in the log. -/
def name : TokenKind → String
  | number => "NUMBER"
  | symbol s => s.name
  | endOfInput => "EOLN"

/-- Every kind of token. -/
def all : List TokenKind :=
  [number, symbol .maximum, symbol .plus, symbol .minus, symbol .times, symbol .divide,
    symbol .power, symbol .openParen, symbol .closeParen, endOfInput]

/-- The kind of a given name. -/
def ofName? (name : String) : Option TokenKind := all.find? (·.name == name)

end TokenKind

/-- The value of an entry. -/
inductive EntryValue where
  | nothing
  | text (word : String)
  | number (value : Double)

namespace EntryValue

/-- The value as it is shown. -/
def shown : EntryValue → String
  | nothing => "None"
  | text word => word
  | number value => value.text

/-- Two values are equal: numbers as numbers, texts as texts. -/
def equal : EntryValue → EntryValue → Bool
  | nothing, nothing => true
  | text left, text right => left == right
  | number left, number right => left.equal right
  | _, _ => false

end EntryValue

/-- A token as the log shows it. -/
structure TokenEntry where
  /-- The kind of the token. -/
  kind : TokenKind
  /-- The value that is shown with it. -/
  value : EntryValue

namespace TokenEntry

/-- The entry as a pair of kind and value. -/
def pairText (entry : TokenEntry) : String :=
  "(TokenId." ++ entry.kind.name ++ ", " ++ entry.value.shown ++ ")"

/-- The entry as a record. -/
def recordText (entry : TokenEntry) : String := "Token" ++ entry.pairText

/-- Two entries are equal: the same kind and equal values. -/
def equal (left right : TokenEntry) : Bool :=
  left.kind == right.kind && left.value.equal right.value

end TokenEntry

/-- The entry of a token: a number has itself as its value, a symbol its character. -/
def Token.entry : Token → TokenEntry
  | number value => ⟨.number, .number value⟩
  | symbol s => ⟨.symbol s, .text s.text⟩
  | endOfInput => ⟨.endOfInput, .nothing⟩

end Calculator
