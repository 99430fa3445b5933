/-!
# Token kinds

Every kind of token has a name and a text. The text of an operator, keyword or punctuator is what
stands in source code; the three open kinds, whose text is on the token, have a description
instead.
-/

namespace EcmaTree

/-- The kind of a token. -/
inductive TokenKind where
  -- the open kinds
  | identifier
  | string
  | number
  -- words
  | trueKeyword
  | falseKeyword
  | nullKeyword
  | varKeyword
  | letKeyword
  | constKeyword
  | voidKeyword
  | typeofKeyword
  | deleteKeyword
  | inKeyword
  | instanceofKeyword
  -- assignment operators
  | equal
  | plusEqual
  | minusEqual
  | starEqual
  | slashEqual
  | percentEqual
  | ampersandEqual
  | barEqual
  | caretEqual
  | leftShiftEqual
  | rightShiftEqual
  | unsignedRightShiftEqual
  -- other operators
  | plus
  | minus
  | star
  | slash
  | percent
  | ampersand
  | bar
  | caret
  | tilde
  | leftShift
  | rightShift
  | unsignedRightShift
  | plusPlus
  | minusMinus
  | bang
  | and
  | or
  | equalEqual
  | notEqual
  | equalEqualEqual
  | notEqualEqual
  | openAngle
  | closeAngle
  | lessEqual
  | greaterEqual
  -- punctuators
  | comma
  | dotDotDot
deriving DecidableEq

namespace TokenKind

/-- Every kind, in the order of the catalog. -/
def all : List TokenKind := [
  .identifier, .string, .number, .trueKeyword, .falseKeyword, .nullKeyword, .varKeyword,
  .letKeyword, .constKeyword, .voidKeyword, .typeofKeyword, .deleteKeyword, .inKeyword,
  .instanceofKeyword, .equal, .plusEqual, .minusEqual, .starEqual, .slashEqual, .percentEqual,
  .ampersandEqual, .barEqual, .caretEqual, .leftShiftEqual, .rightShiftEqual,
  .unsignedRightShiftEqual, .plus, .minus, .star, .slash, .percent, .ampersand, .bar, .caret,
  .tilde, .leftShift, .rightShift, .unsignedRightShift, .plusPlus, .minusMinus, .bang, .and, .or,
  .equalEqual, .notEqual, .equalEqualEqual, .notEqualEqual, .openAngle, .closeAngle, .lessEqual,
  .greaterEqual, .comma, .dotDotDot]

/-- The name of a kind. -/
def name : TokenKind → String
  | identifier => "IDENTIFIER"
  | string => "STRING"
  | number => "NUMBER"
  | trueKeyword => "TRUE"
  | falseKeyword => "FALSE"
  | nullKeyword => "NULL"
  | varKeyword => "VAR"
  | letKeyword => "LET"
  | constKeyword => "CONST"
  | voidKeyword => "VOID"
  | typeofKeyword => "TYPEOF"
  | deleteKeyword => "DELETE"
  | inKeyword => "IN"
  | instanceofKeyword => "INSTANCEOF"
  | equal => "EQUAL"
  | plusEqual => "PLUS_EQUAL"
  | minusEqual => "MINUS_EQUAL"
  | starEqual => "STAR_EQUAL"
  | slashEqual => "SLASH_EQUAL"
  | percentEqual => "PERCENT_EQUAL"
  | ampersandEqual => "AMPERSAND_EQUAL"
  | barEqual => "BAR_EQUAL"
  | caretEqual => "CARET_EQUAL"
  | leftShiftEqual => "LEFT_SHIFT_EQUAL"
  | rightShiftEqual => "RIGHT_SHIFT_EQUAL"
  | unsignedRightShiftEqual => "UNSIGNED_RIGHT_SHIFT_EQUAL"
  | plus => "PLUS"
  | minus => "MINUS"
  | star => "STAR"
  | slash => "SLASH"
  | percent => "PERCENT"
  | ampersand => "AMPERSAND"
  | bar => "BAR"
  | caret => "CARET"
  | tilde => "TILDE"
  | leftShift => "LEFT_SHIFT"
  | rightShift => "RIGHT_SHIFT"
  | unsignedRightShift => "UNSIGNED_RIGHT_SHIFT"
  | plusPlus => "PLUS_PLUS"
  | minusMinus => "MINUS_MINUS"
  | bang => "BANG"
  | and => "AND"
  | or => "OR"
  | equalEqual => "EQUAL_EQUAL"
  | notEqual => "NOT_EQUAL"
  | equalEqualEqual => "EQUAL_EQUAL_EQUAL"
  | notEqualEqual => "NOT_EQUAL_EQUAL"
  | openAngle => "OPEN_ANGLE"
  | closeAngle => "CLOSE_ANGLE"
  | lessEqual => "LESS_EQUAL"
  | greaterEqual => "GREATER_EQUAL"
  | comma => "COMMA"
  | dotDotDot => "DOT_DOT_DOT"

/-- The source text of a kind, or the description of an open kind. -/
def text : TokenKind → String
  | identifier => "identifier"
  | string => "string literal"
  | number => "number literal"
  | trueKeyword => "true"
  | falseKeyword => "false"
  | nullKeyword => "null"
  | varKeyword => "var"
  | letKeyword => "let"
  | constKeyword => "const"
  | voidKeyword => "void"
  | typeofKeyword => "typeof"
  | deleteKeyword => "delete"
  | inKeyword => "in"
  | instanceofKeyword => "instanceof"
  | equal => "="
  | plusEqual => "+="
  | minusEqual => "-="
  | starEqual => "*="
  | slashEqual => "/="
  | percentEqual => "%="
  | ampersandEqual => "&="
  | barEqual => "|="
  | caretEqual => "^="
  | leftShiftEqual => "<<="
  | rightShiftEqual => ">>="
  | unsignedRightShiftEqual => ">>>="
  | plus => "+"
  | minus => "-"
  | star => "*"
  | slash => "/"
  | percent => "%"
  | ampersand => "&"
  | bar => "|"
  | caret => "^"
  | tilde => "~"
  | leftShift => "<<"
  | rightShift => ">>"
  | unsignedRightShift => ">>>"
  | plusPlus => "++"
  | minusMinus => "--"
  | bang => "!"
  | and => "&&"
  | or => "||"
  | equalEqual => "=="
  | notEqual => "!="
  | equalEqualEqual => "==="
  | notEqualEqual => "!=="
  | openAngle => "<"
  | closeAngle => ">"
  | lessEqual => "<="
  | greaterEqual => ">="
  | comma => ","
  | dotDotDot => "..."

/-- Whether the operator assigns to its left operand. -/
def isAssignmentOperator : TokenKind → Bool
  | equal => true
  | plusEqual => true
  | minusEqual => true
  | starEqual => true
  | slashEqual => true
  | percentEqual => true
  | ampersandEqual => true
  | barEqual => true
  | caretEqual => true
  | leftShiftEqual => true
  | rightShiftEqual => true
  | unsignedRightShiftEqual => true
  | _ => false

end TokenKind

end EcmaTree
